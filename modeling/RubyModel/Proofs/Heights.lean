/-
# How deep models nest

A model may nest deeper than the tree it comes from, but at most three times as deep.  One node
adds at most three brackets around what its children give:

| bracket | from |
| --- | --- |
| the object of the layer | every node that gives a model |
| an array in it | a node that gives a list |
| the object of a splat in the array | a concatenation, around the value it spreads |

and concatenations inside each other reach this bound.  The induction is over the rules of `Stems`:
a value that is spread may nest one deeper than all other results, since the splat around it is
added by the node above it.
-/

import RubyModel.Proofs.ModelRoundTrip
import RubyModel.Proofs.Nesting
import RubyModel.Proofs.Unlisted

namespace RubyModel

open Record (Content Field Slots slotChildren)

/-! ## The depth of records -/

namespace Record

/-- A member nests at most one deeper than its children. -/
theorem Content.depth_toJson_lt (content : Content) {value : content.Value Json} {bound : Nat}
    (positive : 0 < bound) (children : ∀ x ∈ content.children value, x.depth < bound) :
    (content.toJson value).depth < bound + 1 := by
  cases content with
  | child =>
    cases value with
    | none => exact Nat.succ_pos bound
    | some x => exact Nat.lt_succ_of_lt (children x (List.mem_singleton.2 rfl))
  | node => exact Nat.lt_succ_of_lt (children value (List.mem_singleton.2 rfl))
  | nodes =>
    have items : Json.depthItems value ≤ bound - 1 :=
      Json.depthItems_le.2 fun x mem => Nat.le_sub_one_of_lt (children x mem)
    show Json.depthItems value + 1 < bound + 1
    omega
  | optionalText => cases value <;> exact Nat.succ_pos bound
  | float =>
    show Json.depth (if value.isFinite then _ else _) < bound + 1
    split <;> exact Nat.succ_pos bound
  | text | flag | int | word => exact Nat.succ_pos bound

/-- The members of a record nest at most one deeper than its children. -/
theorem depth_members_lt {bound : Nat} (positive : 0 < bound) : ∀ {fields : List Field}
    {slots : Slots Json fields}, (∀ x ∈ slotChildren fields slots, x.depth < bound) →
    Json.depthMembers (members fields slots) < bound + 1
  | [], _, _ => Nat.succ_pos bound
  | field :: _, (_, _), h => by
    obtain ⟨here, others⟩ := List.forall_mem_append.1 h
    exact Nat.max_lt.2
      ⟨field.content.depth_toJson_lt positive here, depth_members_lt positive others⟩

/-- A member nests at least as deep as its children. -/
theorem Content.depth_le_toJson (content : Content) {value : content.Value Json} {x : Json}
    (mem : x ∈ content.children value) : x.depth ≤ (content.toJson value).depth := by
  cases content with
  | child =>
    cases value with
    | none => cases mem
    | some y =>
      obtain rfl := List.mem_singleton.1 mem
      exact Nat.le_refl _
  | node =>
    obtain rfl := List.mem_singleton.1 mem
    exact Nat.le_refl _
  | nodes => exact Nat.le_succ_of_le (Json.depthItems_le.1 (Nat.le_refl _) x mem)
  | _ => cases mem

/-- A child nests no deeper than the members of its record. -/
theorem depth_le_members {x : Json} : ∀ {fields : List Field} {slots : Slots Json fields},
    x ∈ slotChildren fields slots → x.depth ≤ Json.depthMembers (members fields slots)
  | [], _, mem => nomatch mem
  | field :: _, (_, _), mem => by
    rcases List.mem_append.1 mem with mem | mem
    · exact Nat.le_trans (field.content.depth_le_toJson mem) (Nat.le_max_left _ _)
    · exact Nat.le_trans (depth_le_members mem) (Nat.le_max_right _ _)

end Record

/-! ## The depth of models -/

namespace Model

/-- The model nests less deep than the bound. -/
def Nests (bound : Nat) (model : Model) : Prop := model.toJson.depth < bound

theorem Nests.mono {low high : Nat} (le : low ≤ high) {model : Model} (h : Nests low model) :
    Nests high model := Nat.lt_of_lt_of_le h le

variable {bound : Nat}

/-- A model nests one deeper than its members. -/
theorem depth_form (form : Form Model) : (toJson ⟨form⟩).depth =
    Json.depthMembers (members (ModelEntry.ofForm form)) + 1 := by
  have written := toJson_form (ModelEntry.ofForm form)
  rw [ModelEntry.form_ofForm] at written
  rw [written, Json.depth]

/-- **One layer** adds its object and at most one array. -/
theorem Nests.layer_succ {form : Form Model} (h : form.All (Nests (bound + 1))) :
    Nests (bound + 3) ⟨form⟩ := by
  have children : ∀ x ∈ slotChildren (ModelEntry.ofForm form).kind.fields
      (Record.mapSlots toJson _ (ModelEntry.ofForm form).slots), x.depth < bound + 1 := by
    rw [Record.slotChildren_mapSlots]
    exact List.forall_mem_map.2 (Form.all_iff.1 h)
  have fields := Record.depth_members_lt (Nat.succ_pos bound) children
  rw [Nests, depth_form, members, List.singleton_append, Json.depthMembers, Json.depth]
  omega

/-- A layer adds the object, a list in it and the object of a splat at most. -/
theorem Nests.layer {form : Form Model} (h : form.All (Nests bound)) :
    Nests (bound + 3) ⟨form⟩ :=
  layer_succ (Form.all_iff.2 fun x mem => (Form.all_iff.1 h x mem).mono bound.le_succ)

/-- What stands in a layer nests less deep than the layer. -/
theorem Nests.all {form : Form Model} (h : Nests bound ⟨form⟩) : form.All (Nests bound) := by
  refine Form.all_iff.2 fun x mem => ?_
  have written : x.toJson ∈ slotChildren (ModelEntry.ofForm form).kind.fields
      (Record.mapSlots toJson _ (ModelEntry.ofForm form).slots) := by
    rw [Record.slotChildren_mapSlots]
    exact List.mem_map_of_mem mem
  have below := Record.depth_le_members written
  rw [Nests, depth_form, members, List.singleton_append, Json.depthMembers] at h
  rw [Nests]
  omega

/-- A splat adds its object only. -/
theorem Nests.intoSplat {model : Model} (h : Nests bound model) :
    Nests (bound + 1) model.intoSplat := by
  have added : Nests (bound + 1) ⟨.splat (some model)⟩ := by
    show Json.depthMembers [("type", .string "Splat"), ("splatted", model.toJson)] + 1 < bound + 1
    rw [Nests] at h
    simp only [Json.depthMembers, Json.depth]
    omega
  obtain ⟨form⟩ := model
  cases form with
  | splat => exact h.mono bound.le_succ
  | _ => exact added

/-- A splat that may be absent adds one. -/
theorem Nests.splats {model : Option Model} (h : ∀ x ∈ model, Nests bound x) :
    ∀ x ∈ (model.map Model.intoSplat).toList, Nests (bound + 1) x := by
  intro x mem
  obtain ⟨inner, found, rfl⟩ := Option.map_eq_some_iff.1 (Option.mem_toList.1 mem)
  exact (h inner found).intoSplat

/-- A pair of a hash adds its object only. -/
theorem Nests.hashPair {key value : Option Model} (positive : 0 < bound)
    (hkey : ∀ x ∈ key, Nests bound x) (hvalue : ∀ x ∈ value, Nests bound x) :
    Nests (bound + 1) ⟨.hashPair key value⟩ := by
  have absent {model : Option Model} (h : ∀ x ∈ model, Nests bound x) :
      (Content.toJson .child (model.map toJson)).depth < bound := by
    cases model with
    | none => exact positive
    | some model => exact h model rfl
  have first := absent hkey
  have second := absent hvalue
  rw [Nests, depth_form]
  show Json.depthMembers [("type", .string "HashPair"),
    ("key", Content.toJson .child (key.map toJson)),
    ("value", Content.toJson .child (value.map toJson))] + 1 < bound + 1
  simp only [Json.depthMembers, Json.depth]
  omega

/-- A block taken apart nests no deeper than the block. -/
theorem Nests.contents {model : Option Model} (h : ∀ x ∈ model, Nests bound x) :
    ∀ x ∈ Model.contents model, Nests bound x := by
  cases model with
  | none => exact List.forall_mem_nil _
  | some model =>
    have here := h model rfl
    obtain ⟨form⟩ := model
    cases form with
    | block => exact here.all
    | _ => exact List.forall_mem_singleton.2 here

/-- An array taken apart nests no deeper than the array. -/
theorem Nests.assignedValues {model : Option Model} (h : ∀ x ∈ model, Nests bound x) :
    ∀ x ∈ Lowering.assignedValues model, Nests bound x := by
  cases model with
  | none => exact List.forall_mem_nil _
  | some model =>
    have here := h model rfl
    obtain ⟨form⟩ := model
    cases form with
    | array => exact here.all
    | _ => exact List.forall_mem_singleton.2 here

/-- The value that is assigned nests no deeper than the assignment. -/
theorem Nests.assignedValue? {model : Model} {value : Option Model} (h : Nests bound model)
    (e : model.assignedValue? = some value) : ∀ x ∈ value, Nests bound x := by
  obtain ⟨form⟩ := model
  cases form with
  | assign | constantDecl =>
    cases e
    exact h.all
  | elementAssign =>
    cases e
    exact h.all.2.2
  | attributeAssign =>
    cases e
    exact h.all.2
  | _ => cases e

end Model

/-! ## The height of trees -/

namespace Raw

/-- The tree has at most so many nodes below each other. -/
inductive Node.Height : Nat → Node → Prop where
  | node {height : Nat} {position : Position} {shape : Shape Node}
      (children : ∀ child ∈ shape.children, Height height child) :
      Height (height + 1) ⟨position, shape⟩

namespace Node

/-- A bound on the height of a tree may be raised. -/
theorem Height.succ {height : Nat} {node : Node} (h : Height height node) :
    Height (height + 1) node := by
  induction h with
  | node _ ih => exact .node ih

/-- The children of a node are lower than the node. -/
theorem Height.children {height : Nat} {node : Node} (h : Height (height + 1) node) :
    ∀ child ∈ node.shape.children, Height height child := by
  cases h with
  | node children => exact children

/-- The children of a node may be taken to be as high as the node. -/
theorem Height.children_le {height : Nat} {node : Node} (h : Height height node) :
    ∀ child ∈ node.shape.children, Height height child := by
  cases height with
  | zero => cases h
  | succ height => exact fun child mem => (h.children child mem).succ

end Node
end Raw

namespace Lowering

open Raw (Node Shape Place askedIn)
open Model (Nests)

/-- What is asked for below a node is less high than the node. -/
theorem height_below {height : Nat} {node : Node} (h : node.Height height) :
    ∃ below, height = below + 1 ∧
      ∀ way, ∀ x ∈ askedIn (node.shape.sources way), x.2.Height below := by
  obtain _ | below := height
  · cases h
  · refine ⟨below, rfl, Shape.All.sources (P := Node.Height below) (Shape.all_iff.2 ?_)⟩
    intro child mem
    have low := h.children child mem
    -- Where a node looks through a child, the children of the child count like the child itself.
    exact ⟨low, Shape.all_iff.2 fun inner mem => low.children_le inner mem⟩

/-- A parameter of its name alone, declared with a star or an ampersand. -/
theorem nests_declared {form : Form Model} {name : String}
    (param : form = .splat (some (plainParam name)) ∨
      form = .blockReference (some (plainParam name))) : Nests 3 ⟨form⟩ := by
  obtain rfl | rfl := param <;> exact Nat.le_refl 3

/-- **The run:** what stems from nodes nests less than three times as deep as they are high, and a
loose splat adds one. -/
theorem nests_of_stems {policy : Policy} {loose : Bool} {asked : List (Place × Node)}
    {models : List Model} (stems : Stems policy loose asked models) {height : Nat}
    (low : ∀ x ∈ asked, x.2.Height height) :
    ∀ x ∈ models, Nests (3 * height + loose.toNat) x := by
  induction stems generalizing height with
  | nothing | leftOut => exact List.forall_mem_nil _
  | append _ _ ih ih' =>
    obtain ⟨before, after⟩ := List.forall_mem_append.1 low
    exact List.forall_mem_append.2 ⟨ih before, ih' after⟩
  | loosen _ ih => exact fun x mem => (ih low x mem).mono (Nat.le_succ _)
  | splat _ ih => exact Nests.splats (forall_mem_toList.1 (ih low))
  | settled _ _ ih =>
    exact ih (List.forall_mem_singleton.2 (low _ List.mem_cons_self : Node.Height height _))
  | contents _ ih => exact Nests.contents (forall_mem_toList.1 (ih low))
  | assignedValues _ ih => exact Nests.assignedValues (forall_mem_toList.1 (ih low))
  | @enter loose place _ _ _ _ _ ih =>
    obtain ⟨below, rfl, inside⟩ := height_below (low _ List.mem_cons_self)
    have room : loose.toNat ≤ 3 := Nat.le_trans loose.toNat_le (by decide)
    exact fun x mem => (ih (inside _) x mem).mono (Nat.add_le_add_left room _)
  | @layer loose _ _ _ _ _ _ ih =>
    obtain ⟨below, rfl, inside⟩ := height_below (low _ List.mem_cons_self)
    have children := ih (inside .value)
    refine List.forall_mem_singleton.2 (Nests.layer_succ (Form.all_iff.2 fun x mem => ?_))
    exact (children x mem).mono (Nat.add_le_add_left loose.toNat_le _)
  | declared _ _ _ param =>
    obtain ⟨below, rfl, -⟩ := height_below (low _ List.mem_cons_self)
    exact List.forall_mem_singleton.2 ((nests_declared param).mono (Nat.le_add_left 3 _))
  | setter _ _ _ _ _ ih ih' =>
    obtain ⟨below, rfl, inside⟩ := height_below (low _ List.mem_cons_self)
    obtain ⟨first, rest⟩ := List.forall_mem_append.1 (inside .value)
    have object := forall_mem_toList.1 (ih first)
    have arguments := ih' (List.forall_mem_append.1 rest).1
    exact List.forall_mem_singleton.2
      (Nests.layer ⟨object, fun x found => arguments x (List.mem_of_getElem? found)⟩)
  | assignment _ taken _ _ _ ih ih' =>
    obtain ⟨below, rfl, inside⟩ := height_below (low _ List.mem_cons_self)
    obtain ⟨first, rest⟩ := List.forall_mem_append.1 (inside .value)
    have assigned := forall_mem_toList.1 (ih first)
    have model := List.forall_mem_singleton.1 (ih' (List.forall_mem_append.1 rest).1)
    exact List.forall_mem_singleton.2 (Nests.layer ⟨assigned, model.assignedValue? taken⟩)
  | @hash _ elements pairs empty _ _ ih =>
    obtain ⟨below, rfl, inside⟩ := height_below (low _ List.mem_cons_self)
    have inPairs := (List.forall_mem_append.1 (inside .value)).1
    have parts := forall_pairedModels.1 (ih inPairs)
    refine List.forall_mem_singleton.2 (Nests.layer_succ (List.forall_mem_map.2 ?_))
    cases elements with
    | none =>
      rw [empty rfl]
      exact List.forall_mem_nil _
    | some elements =>
      obtain ⟨lower, rfl, -⟩ := height_below (inPairs _ List.mem_cons_self)
      exact fun pair mem => Nests.hashPair (Nat.succ_pos _) (parts pair mem).1 (parts pair mem).2
  | clause _ _ _ ih ih' ih'' =>
    obtain ⟨below, rfl, inside⟩ := height_below (low _ List.mem_cons_self)
    obtain ⟨first, rest⟩ := List.forall_mem_append.1 (inside .clause)
    obtain ⟨second, third⟩ := List.forall_mem_append.1 rest
    have body := forall_mem_toList.1 (ih' second)
    have others := ih'' (List.forall_mem_append.1 third).1
    exact List.forall_mem_cons.2 ⟨Nests.layer ⟨ih first, body⟩,
      fun x mem => (others x mem).mono (Nat.le_add_right _ 3)⟩
  | passed _ _ ih ih' =>
    obtain ⟨below, rfl, inside⟩ := height_below (low _ List.mem_cons_self)
    obtain ⟨first, rest⟩ := List.forall_mem_append.1 (inside .callArguments)
    have body := forall_mem_toList.1 (ih' (List.forall_mem_append.1 rest).1)
    have arguments := ih first
    exact List.forall_mem_append.2 ⟨fun x mem => (arguments x mem).mono (Nat.le_add_right _ 3),
      List.forall_mem_singleton.2 (Nests.layer body)⟩

end Lowering

/-! ## The depth of values that are read -/

/-- The values in a member nest no deeper than the member. -/
theorem Record.Content.depth_le_of_mem_places {content : Content} {found inner : Json}
    (place : inner ∈ content.places found) : inner.depth ≤ found.depth := by
  cases content with
  | child =>
    cases found with
    | null => cases place
    | _ =>
      obtain rfl := List.mem_singleton.1 place
      exact Nat.le_refl _
  | node =>
    obtain rfl := List.mem_singleton.1 place
    exact Nat.le_refl _
  | nodes =>
    cases found with
    | array items => exact Nat.le_succ_of_le (Json.depthItems_le.1 (Nat.le_refl _) inner place)
    | _ => cases place
  | _ => cases place

namespace Raw

/-- The nodes below a value nest less deep than the value. -/
theorem depth_lt_of_mem_below {value inner : Json} (mem : inner ∈ below value) :
    inner.depth < value.depth := by
  cases value with
  | object members =>
    obtain ⟨kind, -, mem⟩ := List.mem_flatMap.1 mem
    obtain ⟨field, -, mem⟩ := List.mem_flatMap.1 mem
    obtain ⟨found, present, place⟩ := List.mem_flatMap.1 mem
    have member := Json.mem_of_member? (Option.mem_toList.1 present)
    have inObject : found.depth ≤ Json.depthMembers members :=
      Json.depthMembers_le.1 (Nat.le_refl _) _ member
    have inField := Record.Content.depth_le_of_mem_places place
    rw [Json.depth]
    omega
  | _ => cases mem

/-- A tree is no higher than the value it is read from is deep. -/
theorem Node.height_of_ofJson {bound : Nat} {value : Json} {tree : Node} (low : value.depth ≤ bound)
    (read : ofJson value = .ok tree) : tree.Height bound := by
  induction bound generalizing value tree with
  | zero =>
    cases value with
    | object members =>
      rw [Json.depth] at low
      omega
    | _ => rw [ofJson, Record.decode] at read <;> cases read
  | succ bound ih =>
    obtain ⟨position, shape⟩ := tree
    refine .node fun child mem => ?_
    have listed : .ok child ∈ (below value).map ofJson := by
      rw [children_of_ofJson read]
      exact List.mem_map_of_mem mem
    obtain ⟨inner, place, readInner⟩ := List.mem_map.1 listed
    have deeper := depth_lt_of_mem_below place
    exact ih (by omega) readInner

end Raw

/-! ## Model trees -/

/-- **Models nest at most three times as deep as their programs.** -/
theorem ModelTree.depth_le {settings : Settings} {value : Json} {root : Raw.Node}
    {tree : ModelTree} (read : Raw.Node.ofJson value = .ok root)
    (accepted : ofProgram settings root = .ok tree) :
    tree.toJson.depth ≤ max 3 (3 * value.depth - 3) := by
  have top : (rootJson tree.root).depth + 1 ≤ max 3 (3 * value.depth - 3) := by
    have height := Raw.Node.height_of_ofJson (Nat.le_refl value.depth) read
    obtain ⟨position, shape⟩ := root
    cases shape with
    | root body =>
      cases e : tree.root with
      | none =>
        show 0 + 1 ≤ _
        omega
      | some model =>
        obtain ⟨below, depth, inside⟩ := Lowering.height_below height
        have stems := (Lowering.stemming settings.unknownNodes body).asValue tree.root
          (ofOutcome_eq_ok.1 accepted).1
        rw [e] at stems
        have low : model.toJson.depth < 3 * below :=
          Lowering.nests_of_stems stems (List.forall_mem_append.1 (inside .program)).1 model
            List.mem_cons_self
        rw [depth]
        show model.toJson.depth + 1 ≤ _
        omega
    | _ => cases accepted
  have warnings : Json.depthItems (tree.diagnostics.map Diagnostic.toJson) ≤ 1 := by
    refine Json.depthItems_le.2 (List.forall_mem_map.2 fun diagnostic _ => ?_)
    obtain ⟨message, nodeType, line, hint⟩ := diagnostic
    cases hint <;> exact Nat.le_refl 1
  show max (rootJson tree.root).depth
    (max (Json.depthItems (tree.diagnostics.map Diagnostic.toJson) + 1) 0) + 1 ≤ _
  omega

end RubyModel
