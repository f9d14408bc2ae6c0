/-
# Models that are written and read

A model comes back from its written form exactly if its doubles are finite, whatever its layers are
and whether or not a program can have it.  So does a model tree, with the warnings beside the model:
nothing is asked of them.  Two models that come back are told apart by their written forms
(`eq_of_comes_back`).

The argument is that of raw trees: a model is a tree of records, and records come back if their
children do (`Record.readSlots_written`).
-/

import RubyModel.Proofs.Growth

namespace RubyModel

open Record (Slots slotChildren slotFloats membersOf)

/-! ## Models as records -/

namespace ModelEntry

variable {α : Type}

/-- A record is the record of its form. -/
@[simp] theorem ofForm_form (entry : ModelEntry α) : ofForm entry.form = entry := by
  obtain ⟨kind, slots⟩ := entry
  cases kind <;> rfl

/-- The children of a layer stand in the slots of its record. -/
theorem children_form (entry : ModelEntry α) :
    entry.form.children = slotChildren entry.kind.fields entry.slots := by
  rw [Form.children, ofForm_form]

/-- A model is written as its type and then its members. -/
theorem written_form (entry : ModelEntry Json) : written entry.form =
    .object (("type", .string entry.kind.typeName) ::
      Record.members entry.kind.fields entry.slots) :=
  congrArg (fun other : ModelEntry Json => Json.object (("type", .string other.kind.typeName) ::
    Record.members other.kind.fields other.slots)) (ofForm_form entry)

/-- The record of a double is the only one that holds a double. -/
theorem mem_slotFloats {entry : ModelEntry α} {x : Float} :
    x ∈ slotFloats entry.kind.fields entry.slots ↔ entry.form = .leaf (.float x) := by
  obtain ⟨kind, slots⟩ := entry
  cases kind with
  | floatLiteral =>
    obtain ⟨value, _⟩ := slots
    constructor
    · intro mem
      obtain rfl := List.mem_singleton.1 mem
      rfl
    · intro e
      cases e
      exact List.mem_singleton.2 rfl
  | _ => exact ⟨nofun, nofun⟩

end ModelEntry

namespace Form

/-- A child that is there is smaller than its place. -/
theorem sizeOf_lt_of_mem_place {x : Model} {place : Option Model} (h : x ∈ place) :
    sizeOf x < sizeOf place := by
  obtain rfl := Option.mem_def.1 h
  simp

/-- What every smaller model has, the children of a layer have. -/
theorem all_of_sizeOf_lt {P : Model → Prop} {form : Form Model}
    (h : ∀ model, sizeOf model < sizeOf form → P model) : form.All P := by
  cases form <;> simp only [All] <;> grind [→ List.sizeOf_lt_of_mem, → sizeOf_lt_of_mem_place]

end Form

namespace Model

/-- **Induction over models:** what a model has if its children have it, every model has. -/
theorem induction {P : Model → Prop}
    (step : ∀ form : Form Model, (∀ child ∈ form.children, P child) → P ⟨form⟩) : ∀ model, P model
  | ⟨form⟩ => step form
      (Form.all_iff.1 (Form.all_of_sizeOf_lt fun model _ => induction step model))
termination_by model => sizeOf model
decreasing_by
  simp only [mk.sizeOf_spec]
  omega

/-- Induction over models as trees of records. -/
theorem recordInduction {P : Model → Prop}
    (step : ∀ entry : ModelEntry Model,
      (∀ child ∈ slotChildren entry.kind.fields entry.slots, P child) → P ⟨entry.form⟩)
    (model : Model) : P model := by
  induction model using induction with
  | step form ih => exact ModelEntry.form_ofForm form ▸ step (ModelEntry.ofForm form) ih

section Fold

variable {β : Type} (f : Form β → β)

/-- A child that may be absent is rebuilt if it is there. -/
theorem foldChild_eq (place : Option Model) : foldChild f place = place.map (fold f) := by
  cases place <;> rfl

/-- The models of a list are rebuilt one by one. -/
theorem foldList_eq (models : List Model) : foldList f models = models.map (fold f) := by
  induction models with
  | nil => rfl
  | cons model models ih => exact congrArg (fold f model :: ·) ih

/-- A layer is rebuilt field by field. -/
theorem foldForm_form (entry : ModelEntry Model) :
    foldForm f entry.form = (entry.map (fold f)).form := by
  obtain ⟨kind, slots⟩ := entry
  cases kind <;> simp only [ModelEntry.form, ModelEntry.map, foldForm, foldChild_eq, foldList_eq,
    Record.mapSlots, Record.Content.map]

end Fold

/-- The members of a written model. -/
def members (entry : ModelEntry Model) : List (String × Json) :=
  [("type", .string entry.kind.typeName)] ++
    Record.members entry.kind.fields (Record.mapSlots toJson entry.kind.fields entry.slots)

/-- A model is written member by member. -/
theorem toJson_form (entry : ModelEntry Model) :
    toJson ⟨entry.form⟩ = .object (members entry) := by
  show ModelEntry.written (foldForm ModelEntry.written entry.form) = _
  rw [foldForm_form, ModelEntry.written_form]
  rfl

/-- A model is an object, so that a child that is there is not `null`. -/
theorem toJson_ne_null (model : Model) : model.toJson ≠ .null := by
  obtain ⟨form⟩ := model
  exact fun e => nomatch e

end Model

/-! ## Names -/

namespace ModelKind

/-- The list of kinds is complete. -/
theorem mem_all (kind : ModelKind) : kind ∈ all := by
  have listed : all[kind.ctorIdx]? = some kind := by cases kind <;> rfl
  exact List.mem_of_getElem? listed

/-- A kind is found under its type name. -/
theorem ofTypeName?_typeName (kind : ModelKind) : ofTypeName? kind.typeName = some kind := by
  have listed : ∀ kind ∈ all, ofTypeName? kind.typeName = some kind := by decide +kernel
  exact listed kind kind.mem_all

/-- The fields of a kind have names of their own. -/
theorem names_nodup (kind : ModelKind) :
    ("type" :: kind.fields.map Record.Field.name).Nodup := by
  have listed : ∀ kind ∈ all, ("type" :: kind.fields.map Record.Field.name).Nodup := by
    decide +kernel
  exact listed kind kind.mem_all

end ModelKind

/-! ## Models with finite doubles -/

namespace Model

/-- All doubles of a model are finite. -/
def Finite (model : Model) : Prop :=
  ∀ part : Model, part.Within model → ∀ x, part.form = .leaf (.float x) → x.isFinite = true

/-- A model has finite doubles if its children do and its own double is finite. -/
theorem finite_iff {form : Form Model} :
    Finite ⟨form⟩ ↔ (∀ child ∈ form.children, child.Finite) ∧
      ∀ x, form = .leaf (.float x) → x.isFinite = true := by
  constructor
  · intro h
    exact ⟨fun child mem part within => h part (.child mem within), h _ .whole⟩
  · rintro ⟨below, layer⟩ part within
    cases within with
    | whole => exact layer
    | child mem within => exact below _ mem part within

/-- The same by the slots of its record. -/
theorem finite_form {entry : ModelEntry Model} :
    Finite ⟨entry.form⟩ ↔
      (∀ child ∈ slotChildren entry.kind.fields entry.slots, child.Finite) ∧
        ∀ x ∈ slotFloats entry.kind.fields entry.slots, x.isFinite = true := by
  simp only [finite_iff, entry.children_form, ModelEntry.mem_slotFloats]

/-! ## Written, then read -/

/-- The type name stands before the fields, none of which is named like it. -/
theorem value_type (entry : ModelEntry Model) :
    (membersOf rule (members entry)).value "type" = some (.string entry.kind.typeName) := by
  have absent : Json.member? "type" (Record.members entry.kind.fields
      (Record.mapSlots toJson entry.kind.fields entry.slots)) = none := by
    refine Json.member?_eq_none ?_
    rw [Record.names_members]
    exact (List.nodup_cons.1 entry.kind.names_nodup).1
  show Json.member? "type" _ = _
  rw [members, Json.member?_append, absent]
  rfl

/-- Members with the type name of a kind are read by the fields of this kind. -/
theorem ofMembers_of_type {members : Record.Members Model} {entry : ModelEntry Model}
    (named : members.value "type" = some (.string entry.kind.typeName))
    (read : Record.readSlots entry.kind.fields members = .ok entry.slots) (nested : Bool) :
    rule.ofMembers nested members = .ok ⟨entry.form⟩ := by
  have kind : ModelKind.ofJson nested (.string entry.kind.typeName) = .ok entry.kind := by
    rw [ModelKind.ofJson, ModelKind.ofTypeName?_typeName]
  have fields : (do
      let slots ← Record.readSlots entry.kind.fields members
      return (⟨ModelEntry.form ⟨entry.kind, slots⟩⟩ : Model)) = .ok ⟨entry.form⟩ := by
    rw [read]
    rfl
  simp only [rule, named]
  rw [kind]
  exact fields

/-- **What is written is read back:** a model with finite doubles comes back. -/
theorem decode_toJson {model : Model} (finite : model.Finite) (nested : Bool) :
    Record.decode rule nested model.toJson = .ok model := by
  induction model using recordInduction generalizing nested with
  | step entry ih =>
    obtain ⟨below, layer⟩ := finite_form.1 finite
    have children (x : Model) (mem : x ∈ slotChildren entry.kind.fields entry.slots) :
        Record.ComesBack rule toJson x := ⟨ih x mem (below x mem) true, toJson_ne_null x⟩
    have distinct := (List.nodup_cons.1 entry.kind.names_nodup).2
    have slots := Record.readSlots_written [("type", .string entry.kind.typeName)] distinct
      children layer
    rw [toJson_form, Record.decode_object]
    exact ofMembers_of_type (value_type entry) slots nested

/-! ## Read -/

/-- A model that is read has finite doubles. -/
theorem finite_of_decode {nested : Bool} {value : Json} {model : Model} (finite : value.Finite)
    (h : Record.decode rule nested value = .ok model) : model.Finite := by
  refine Record.decode_induction (P := Finite) ?_ finite h
  intro nested members model sound read
  simp only [rule] at read
  split at read
  case h_1 => cases read
  case h_2 found present =>
    obtain ⟨kind, -, read⟩ := Record.bind_eq_ok read
    obtain ⟨slots, found, read⟩ := Record.bind_eq_ok read
    obtain rfl := Except.ok.inj read
    exact finite_form.2 (Record.readSlots_sound sound found)

/-- A model is written without infinities. -/
theorem finite_toJson (model : Model) : model.toJson.Finite := by
  induction model using recordInduction with
  | step entry ih =>
    rw [toJson_form]
    refine ⟨trivial, Record.finite_members ?_⟩
    rw [Record.slotChildren_mapSlots]
    exact List.forall_mem_map.2 ih

/-- A model comes back exactly if its doubles are finite. -/
theorem ofJson_toJson_iff (model : Model) : ofJson model.toJson = .ok model ↔ model.Finite :=
  ⟨finite_of_decode model.finite_toJson, fun finite => decode_toJson finite false⟩

end Model

/-! ## Model trees -/

/-- A warning comes back from its written form. -/
theorem Diagnostic.ofJson_toJson (diagnostic : Diagnostic) :
    ofJson diagnostic.toJson = .ok diagnostic := by
  obtain ⟨message, nodeType, line, hint⟩ := diagnostic
  have word := Record.readLongWord_toNat line
  cases hint <;>
    simp [toJson, ofJson, Json.member?, readHint, readMember, require, Record.readText, word] <;>
    rfl

/-- Warnings come back one by one. -/
theorem Diagnostic.mapM_toJson (diagnostics : List Diagnostic) :
    (diagnostics.map toJson).mapM ofJson = .ok diagnostics := by
  induction diagnostics with
  | nil => rfl
  | cons diagnostic diagnostics ih =>
    rw [List.map_cons, List.mapM_cons, ofJson_toJson, ih]
    rfl

namespace ModelTree

/-- All doubles of the model are finite. -/
def Finite (tree : ModelTree) : Prop := ∀ root ∈ tree.root, root.Finite

/-- The root of a tree comes back exactly if its doubles are finite. -/
theorem readRoot_rootJson_iff (root : Option Model) :
    readRoot (some (rootJson root)) = .ok root ↔ ∀ model ∈ root, model.Finite := by
  cases root with
  | none => exact iff_of_true rfl nofun
  | some model =>
    have read : readRoot (some (rootJson (some model))) = (Model.ofJson model.toJson).map some := by
      rw [rootJson]
      cases e : model.toJson with
      | null => exact absurd e model.toJson_ne_null
      | _ => rfl
    rw [read]
    constructor
    · intro h found mem
      obtain rfl := Option.mem_some.1 mem
      refine (Model.ofJson_toJson_iff model).1 ?_
      cases e : Model.ofJson model.toJson with
      | error fault => rw [e] at h; cases h
      | ok other => rw [e] at h; cases h; rfl
    · intro finite
      rw [(Model.ofJson_toJson_iff model).2 (finite model rfl)]
      rfl

/-- A model tree comes back exactly if its doubles are finite. -/
theorem ofJson_toJson_iff (tree : ModelTree) : ofJson tree.toJson = .ok tree ↔ tree.Finite := by
  obtain ⟨root, diagnostics⟩ := tree
  have noted : readDiagnostics (some (.array (diagnostics.map Diagnostic.toJson))) =
      .ok (some diagnostics) := by
    rw [readDiagnostics, Diagnostic.mapM_toJson]
    rfl
  rw [Finite, ← readRoot_rootJson_iff]
  have both : ofJson (toJson ⟨root, diagnostics⟩) =
      (readRoot (some (rootJson root))).map fun root => ⟨root, diagnostics⟩ := by
    show (do
      let noted ← readDiagnostics (some (.array (diagnostics.map Diagnostic.toJson)))
      let root ← readRoot (some (rootJson root))
      let diagnostics ← Diagnostic.require "diagnostics" noted
      return (⟨root, diagnostics⟩ : ModelTree)) = _
    rw [noted]
    cases readRoot (some (rootJson root)) <;> rfl
  rw [both]
  cases readRoot (some (rootJson root)) with
  | error fault => exact ⟨nofun, nofun⟩
  | ok found =>
    constructor
    · intro same
      have tree : (⟨found, diagnostics⟩ : ModelTree) = ⟨root, diagnostics⟩ := Except.ok.inj same
      exact congrArg Except.ok (congrArg ModelTree.root tree)
    · intro same
      rw [Except.ok.inj same]
      rfl

/-- What comes back from its written form is told apart by it. -/
theorem eq_of_comes_back {α : Type} {read : Json → Except Record.Fault α} {write : α → Json}
    {first second : α} (back : read (write first) = .ok first)
    (back' : read (write second) = .ok second) (same : write first = write second) :
    first = second := by
  rw [same, back'] at back
  exact (Except.ok.inj back).symm

/-- **Reading undoes writing, for models.**  A model tree, with any model and any warnings, comes
back from its written form exactly if the doubles of the model are finite.  Two different model
trees of this sort have different written forms, and so have two different models. -/
theorem reading_undoes_writing_models :
    (∀ tree : ModelTree, ofJson tree.toJson = .ok tree ↔ tree.Finite) ∧
    (∀ first second : ModelTree, first.Finite → second.Finite → first.toJson = second.toJson →
      first = second) ∧
    ∀ first second : Model, first.Finite → second.Finite → first.toJson = second.toJson →
      first = second := by
  refine ⟨ofJson_toJson_iff, ?_, ?_⟩
  · intro first second finite finite' same
    exact eq_of_comes_back ((ofJson_toJson_iff first).2 finite)
      ((ofJson_toJson_iff second).2 finite') same
  · intro first second finite finite' same
    exact eq_of_comes_back ((Model.ofJson_toJson_iff first).2 finite)
      ((Model.ofJson_toJson_iff second).2 finite') same

/-- The method `def scale(by = 2.0) end` beside a node that was left out. -/
def scaling : ModelTree where
  root := some ⟨.define "scale" none false
    [⟨.param "by" (some ⟨.leaf (.float (Record.floatOfInt 2))⟩)⟩] (some ⟨.leaf .nil⟩) [] none none⟩
  diagnostics := [⟨"skipping FORNODE at line 3", "FORNODE", 3, some "left out"⟩]

/-- The method comes back with the warning; a block without contents is not written like an array
without elements. -/
theorem scaling_comes_back :
    ofJson scaling.toJson = .ok scaling ∧
      Model.toJson ⟨.block []⟩ ≠ Model.toJson ⟨.array []⟩ := by
  have empty (form : Form Model) (none : form.children = [])
      (layer : ∀ x, form ≠ .leaf (.float x)) : Model.Finite ⟨form⟩ :=
    Model.finite_iff.2 ⟨none ▸ List.forall_mem_nil _, fun x e => absurd e (layer x)⟩
  have two : Model.Finite ⟨.leaf (.float (Record.floatOfInt 2))⟩ := by
    refine Model.finite_iff.2 ⟨List.forall_mem_nil _, fun x e => ?_⟩
    cases e
    exact Record.isFinite_floatOfInt 2
  have param : Model.Finite ⟨.param "by" (some ⟨.leaf (.float (Record.floatOfInt 2))⟩)⟩ :=
    Model.finite_iff.2 ⟨List.forall_mem_singleton.2 two, nofun⟩
  have method : scaling.Finite := by
    intro root found
    obtain rfl := Option.mem_some.1 found
    have body := empty (.leaf .nil) rfl nofun
    exact Model.finite_iff.2
      ⟨List.forall_mem_cons.2 ⟨param, List.forall_mem_singleton.2 body⟩, nofun⟩
  have block := empty (.block []) rfl nofun
  have array := empty (.array []) rfl nofun
  refine ⟨(reading_undoes_writing_models.1 scaling).2 method, fun same => ?_⟩
  cases reading_undoes_writing_models.2.2 _ _ block array same

end ModelTree
end RubyModel
