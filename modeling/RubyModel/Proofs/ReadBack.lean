/-
# Printed models that are read back

The model of a program is printed as JSON and read again by the tools that traverse it, under the
limit that also holds for the program itself.  It comes back exactly if it stays within this limit.
Two things can stand in the way:

| obstacle | example |
| --- | --- |
| the model nests deeper than its program | 42 values spread inside each other |
| the digits of a double name another double | `9007199254740991.0` |

A program that nests at most 43 deep is safe from the first (`ModelTree.depth_le`), and the example
shows that 44 is too deep.  The second does not concern programs without doubles.
-/

import RubyModel.Proofs.Heights
import RubyModel.Proofs.TextRoundTrip
import RubyModel.Raw.Build

namespace RubyModel

open Raw (Node Shape)
open Record (slotChildren slotFloats)

/-! ## The doubles of a model -/

/-- The layer is a double. -/
def Form.isDouble {α : Type} : Form α → Bool
  | .leaf (.float _) => true
  | _ => false

namespace Lowering

/-- The model, if there is one, is no double. -/
def NoDouble (model : Option Model) : Prop := ∀ x ∈ model, x.form.isDouble = false

/-- Only a leaf gives a double. -/
theorem exists_leaf_of_modelKind? {shape : Shape Node}
    (h : shape.modelKind? = some .floatLiteral) : ∃ leaf, shape = .leaf leaf := by
  cases shape with
  | leaf leaf => exact ⟨leaf, rfl⟩
  | attributeAssign _ name =>
    rw [Shape.modelKind?] at h
    split at h <;> cases h
  | text word | dynamicText word | var word | localAssign word | varAssign word
  | logicalAssign word | loop word | jump word | logical word | elements word =>
    cases word <;> cases h
  | _ => cases h

/-- Only a double gives a double in value position, apart from wrappers. -/
theorem noDouble_shapeValue (policy : Policy) (position : Position) {shape : Shape Node}
    (notWrapper : shape.isWrapper = false) (notLeaf : ∀ leaf, shape ≠ .leaf leaf) :
    (shapeValue policy position shape).Yields NoDouble := by
  rintro model found ⟨form⟩ mem
  have kind := shapeValue_kind policy position notWrapper model found _ mem
  refine Bool.eq_false_iff.2 fun double => ?_
  obtain ⟨x, rfl⟩ : ∃ x, form = .leaf (.float x) := by
    cases form with
    | leaf leaf =>
      cases leaf with
      | float x => exact ⟨x, rfl⟩
      | _ => cases double
    | _ => cases double
  obtain ⟨leaf, rfl⟩ := exists_leaf_of_modelKind? kind.symm
  exact notLeaf leaf rfl

end Lowering

/-- The double of a layer comes back from its digits. -/
def Form.Legible (form : Form Model) : Prop :=
  ∀ x, form = .leaf (.float x) → Json.Legible (.float x)

/-- The doubles of a model come back from their digits. -/
def Model.Legible (model : Model) : Prop := ∀ part : Model, part.Within model → part.form.Legible

/-- The layers that are no node's value hold no numbers. -/
theorem added_legible : Added Form.Legible where
  clause _ _ := nofun
  passed _ := nofun
  param _ := nofun
  splat := by
    rintro ⟨form⟩ -
    cases form <;> exact nofun
  pair _ _ := nofun

/-- The doubles of a model are those of its program. -/
theorem ModelTree.legible_root {settings : Settings} {root : Node} (legible : root.Legible)
    {tree : ModelTree} (accepted : ofProgram settings root = .ok tree) :
    ∀ model ∈ tree.root, model.Legible := by
  have tops (part : Node) (within : part.Within root) :
      Lowering.Tops settings.unknownNodes Form.Legible part := by
    obtain ⟨position, shape⟩ := part
    intro notWrapper
    by_cases notLeaf : ∀ leaf, shape ≠ .leaf leaf
    · have none := Lowering.noDouble_shapeValue settings.unknownNodes position notWrapper notLeaf
      intro model found y mem x e
      have other := none model found y mem
      rw [e] at other
      cases other
    · obtain ⟨leaf, e⟩ := Classical.not_forall.1 notLeaf
      obtain rfl := Classical.not_not.1 e
      refine .some fun x e => ?_
      cases e
      exact legible _ within x rfl
  intro model found part within
  exact (grown added_legible tops (.inr accepted) model found).within added_legible within

/-! ## Models with a text of their own -/

/-- A double that comes back from its digits is finite. -/
theorem Json.Legible.isFinite {x : Float} (legible : Json.Legible (.float x)) :
    x.isFinite = true := by
  by_contra infinite
  rw [Json.Legible, Json.floatText, if_neg infinite] at legible
  cases legible

namespace Model

/-- What can be read back holds no doubles that are not finite. -/
theorem Legible.finite {model : Model} (legible : model.Legible) : model.Finite :=
  fun part within x e => (legible part within x e).isFinite

/-- The numbers of a model come back from its text, if its doubles do. -/
theorem legible_toJson {model : Model} (legible : model.Legible) : model.toJson.Legible := by
  induction model using recordInduction with
  | step entry ih =>
    have below (child : Model) (mem : child ∈ slotChildren entry.kind.fields entry.slots) :
        child.toJson.Legible := by
      refine ih child mem fun part within => legible part (.child ?_ within)
      exact entry.children_form.symm ▸ mem
    rw [toJson_form]
    refine ⟨trivial, Record.legible_members ?_ ?_⟩
    · rw [Record.slotChildren_mapSlots]
      exact List.forall_mem_map.2 below
    · rw [Record.slotFloats_mapSlots]
      exact fun x mem => legible _ .whole x (ModelEntry.mem_slotFloats.1 mem)

end Model

/-- A warning is written with texts and one line number. -/
theorem Diagnostic.legible_toJson (diagnostic : Diagnostic) : diagnostic.toJson.Legible := by
  obtain ⟨message, nodeType, line, hint⟩ := diagnostic
  have high := line.toNat_lt
  have word : Json.Legible (.int line.toNat) := ⟨by omega, by omega⟩
  cases hint <;> exact ⟨trivial, trivial, word, trivial, trivial⟩

namespace ModelTree

/-- A model tree can be read back if its model can. -/
theorem legible_toJson {tree : ModelTree} (legible : ∀ model ∈ tree.root, model.Legible) :
    tree.toJson.Legible := by
  have top : (rootJson tree.root).Legible := by
    cases e : tree.root with
    | none => trivial
    | some model => exact Model.legible_toJson (legible model e)
  have warnings : ∀ item ∈ tree.diagnostics.map Diagnostic.toJson, item.Legible :=
    List.forall_mem_map.2 fun diagnostic _ => diagnostic.legible_toJson
  exact ⟨top, Json.legibleItems_iff.2 warnings, trivial⟩

/-- A model tree comes back from its text exactly as long as it is not nested too deep. -/
theorem load_text {tree : ModelTree} (legible : ∀ model ∈ tree.root, model.Legible)
    (layout : Json.Layout) :
    (tree.toJson.depth ≤ 127 → load ofJson (bytesOf (tree.toJson.text layout)) = .ok tree) ∧
    (127 < tree.toJson.depth →
      load ofJson (bytesOf (tree.toJson.text layout)) = .error .malformed) := by
  obtain ⟨fits, exceeds⟩ := Json.read_text (legible_toJson legible) layout Json.depthLimit
  have back := (ofJson_toJson_iff tree).2 fun model found => (legible model found).finite
  constructor
  · intro shallow
    rw [load, fits shallow]
    simp only [back]
    rfl
  · intro deep
    rw [load, exceeds deep]
    rfl

/-- A program that has a model was read from one JSON value, and then as a tree. -/
theorem ofText_eq_ok {settings : Settings} {bytes : List UInt8} {tree : ModelTree}
    (accepted : ofText settings bytes = .ok tree) : ∃ value root,
      Json.read bytes = .ok value ∧ Node.ofJson value = .ok root ∧
        Node.load bytes = .ok root ∧ ofProgram settings root = .ok tree := by
  rw [ofText] at accepted
  cases loaded : Node.load bytes with
  | error error => rw [loaded] at accepted; cases accepted
  | ok root =>
    rw [loaded] at accepted
    have program : ofProgram settings root = .ok tree := by
      cases e : ofProgram settings root with
      | error failure => simp only [e] at accepted; cases accepted
      | ok other => simp only [e] at accepted; cases accepted; rfl
    rw [Node.load] at loaded
    split at loaded
    case h_1 value _ =>
      split at loaded <;> cases loaded
    case h_2 => cases loaded
    case h_3 value read =>
      refine ⟨value, root, read, ?_, rfl, program⟩
      cases e : Node.ofJson value with
      | error fault => rw [e] at loaded; cases loaded
      | ok other => rw [e] at loaded; cases loaded; rfl

/-- **What is printed can be read back, as deep as it may be.**  Take a program that has a model
under either policy and whose doubles, if it has any, come back from their digits.  The text of the
model, in either layout, is read as the same model exactly if it nests at most 127 deep, and is
refused otherwise.  It does not nest too deep if the program nests at most 43 deep. -/
theorem printed_model_reads_back {settings : Settings} {bytes : List UInt8} {tree : ModelTree}
    (accepted : ofText settings bytes = .ok tree)
    (legible : ∀ root, Node.load bytes = .ok root → root.Legible) (layout : Json.Layout) :
    (tree.toJson.depth ≤ 127 → load ofJson (bytesOf (tree.toJson.text layout)) = .ok tree) ∧
    (127 < tree.toJson.depth →
      load ofJson (bytesOf (tree.toJson.text layout)) = .error .malformed) ∧
    ∀ value, Json.read bytes = .ok value → value.depth ≤ 43 →
      load ofJson (bytesOf (tree.toJson.text layout)) = .ok tree := by
  obtain ⟨value, root, read, tree_read, loaded, program⟩ := ofText_eq_ok accepted
  obtain ⟨fits, exceeds⟩ := load_text (legible_root (legible root loaded) program) layout
  refine ⟨fits, exceeds, fun other same shallow => fits ?_⟩
  obtain rfl : value = other := Except.ok.inj (read.symm.trans same)
  have bound := depth_le tree_read program
  omega

/-! ## Values spread inside each other -/

/-- The value `[*[*[… ""]]]`, which is spread so many times. -/
def spreads : Nat → Node
  | 0 => Raw.Build.string ""
  | n + 1 => Raw.Build.cat (Raw.Build.array []) (spreads n)

/-- The model of the value: each time an array with a splat in it. -/
def spreadModel : Nat → Model
  | 0 => ⟨.text .str (some "") false []⟩
  | n + 1 => ⟨.array [⟨.splat (some (spreadModel n))⟩]⟩

/-- The program that consists of the value. -/
def spreadProgram (n : Nat) : Node := Raw.Build.root (some (spreads n))

/-- The model of the program. -/
def spreadTree (n : Nat) : ModelTree := ⟨some (spreadModel n), []⟩

/-- The spreads inside each other give splats inside each other. -/
theorem value_spreads (policy : Policy) (n : Nat) :
    Lowering.value policy (spreads n) = .ok (some (spreadModel n)) := by
  induction n with
  | zero => rfl
  | succ n ih =>
    have noList : (spreads n).listElements? = none := by cases n <;> rfl
    have noSplat : (spreadModel n).intoSplat = ⟨.splat (some (spreadModel n))⟩ := by
      cases n <;> rfl
    have spread : Lowering.spread policy (spreads n) =
        .ok [⟨.splat (some (spreadModel n))⟩] := by
      rw [Lowering.spread_eq, noList, ih, ← noSplat]
      rfl
    show (Lowering.group policy (Raw.Build.array []) >>= fun before =>
      Lowering.spread policy (spreads n) >>= fun spread =>
        pure (some (⟨.array (before ++ spread)⟩ : Model))) = _
    rw [spread]
    rfl

/-- So does a program that holds them. -/
theorem ofProgram_spreadProgram (settings : Settings) (n : Nat) :
    ofProgram settings (spreadProgram n) = .ok (spreadTree n) := by
  show ofOutcome (Lowering.value settings.unknownNodes (spreads n)) = _
  rw [value_spreads]
  rfl

/-- Every spread value is one more object in the text of the program. -/
theorem depth_spreadProgram (n : Nat) : (spreadProgram n).toJson.depth = n + 3 := by
  have inner : (spreads n).toJson.depth = n + 2 := by
    induction n with
    | zero => decide
    | succ n ih =>
      have members : (spreads (n + 1)).toJson = .object [("type", .string "ARGSCATNODE"),
          ("position", ({} : Position).toJson), ("first", (Raw.Build.array []).toJson),
          ("second", (spreads n).toJson)] := rfl
      have position : ({} : Position).toJson.depth = 1 := by decide
      have first : (Raw.Build.array []).toJson.depth = 2 := by decide
      rw [members]
      simp only [Json.depth, Json.depthMembers, position, first, ih]
      omega
  have members : (spreadProgram n).toJson = .object [("type", .string "ROOTNODE"),
      ("position", ({} : Position).toJson), ("body", (spreads n).toJson)] := rfl
  have position : ({} : Position).toJson.depth = 1 := by decide
  rw [members]
  simp only [Json.depth, Json.depthMembers, position, inner]
  omega

/-- Every spread value is three more brackets in the text of the model. -/
theorem depth_spreadTree (n : Nat) : (spreadTree n).toJson.depth = 3 * n + 3 := by
  have inner : (spreadModel n).toJson.depth = 3 * n + 2 := by
    induction n with
    | zero => decide
    | succ n ih =>
      have members : (spreadModel (n + 1)).toJson = .object [("type", .string "ArrayLiteral"),
          ("values", .array [.object [("type", .string "Splat"),
            ("splatted", (spreadModel n).toJson)]])] := rfl
      rw [members]
      simp only [Json.depth, Json.depthMembers, Json.depthItems, ih]
      omega
  have members : (spreadTree n).toJson = .object [("root", (spreadModel n).toJson),
      ("diagnostics", .array [])] := rfl
  rw [members]
  simp only [Json.depth, Json.depthMembers, Json.depthItems, inner]
  omega

/-- The parts of the spreads are spreads and an empty array. -/
theorem within_spreads {n : Nat} {part : Node} (within : part.Within (spreads n)) :
    part = Raw.Build.array [] ∨ ∃ m, part = spreads m := by
  induction n with
  | zero =>
    cases within with
    | whole => exact .inr ⟨0, rfl⟩
    | child mem => cases mem
  | succ n ih =>
    cases within with
    | whole => exact .inr ⟨n + 1, rfl⟩
    | child mem within =>
      have parts : ∀ inner ∈ [Raw.Build.array [], spreads n], part.Within inner →
          part = Raw.Build.array [] ∨ ∃ m, part = spreads m := by
        refine List.forall_mem_cons.2 ⟨fun within => ?_, List.forall_mem_singleton.2 ih⟩
        cases within with
        | whole => exact .inl rfl
        | child mem => cases mem
      exact parts _ mem within

/-- The parts of the program. -/
theorem within_spreadProgram {n : Nat} {part : Node} (within : part.Within (spreadProgram n)) :
    part = spreadProgram n ∨ part = Raw.Build.array [] ∨ ∃ m, part = spreads m := by
  cases within with
  | whole => exact .inl rfl
  | child mem within =>
    obtain rfl := List.mem_singleton.1 mem
    exact .inr (within_spreads within)

/-- The program holds no numbers. -/
theorem legible_spreadProgram (n : Nat) : (spreadProgram n).Legible := by
  intro part within x e
  obtain rfl | rfl | ⟨m, rfl⟩ := within_spreadProgram within
  · cases e
  · cases e
  · cases m <;> cases e

/-- With up to 124 spreads, the text of the program is read back. -/
theorem load_spreadProgram {n : Nat} (shallow : n ≤ 124) :
    Node.load (bytesOf (spreadProgram n).text) = .ok (spreadProgram n) := by
  have writable : (spreadProgram n).Writable := by
    intro part within
    obtain rfl | rfl | ⟨m, rfl⟩ := within_spreadProgram within
    · trivial
    · trivial
    · cases m <;> trivial
  refine (Node.load_text (legible_spreadProgram n) writable).1 ?_
  rw [depth_spreadProgram]
  omega

/-- With up to 124 spreads, the text of the program has the model tree. -/
theorem ofText_spreadProgram (settings : Settings) {n : Nat} (shallow : n ≤ 124) :
    ofText settings (bytesOf (spreadProgram n).text) = .ok (spreadTree n) := by
  rw [ofText, load_spreadProgram shallow]
  simp only [ofProgram_spreadProgram]
  rfl

/-- The model of 41 values that are spread inside each other is read back from both layouts. -/
theorem spreadTree_reads_back :
    load ofJson (bytesOf (spreadTree 41).toJson.text) = .ok (spreadTree 41) ∧
    load ofJson (bytesOf ((spreadTree 41).toJson.text .indented)) = .ok (spreadTree 41) := by
  have accepted := ofText_spreadProgram { unknownNodes := .permissive } (n := 41) (by decide)
  have legible (root : Node) (loaded : Node.load (bytesOf (spreadProgram 41).text) = .ok root) :
      root.Legible := by
    rw [load_spreadProgram (by decide)] at loaded
    exact Except.ok.inj loaded ▸ legible_spreadProgram 41
  have shallow : (spreadTree 41).toJson.depth ≤ 127 := by rw [depth_spreadTree]; decide
  exact ⟨(printed_model_reads_back accepted legible .compact).1 shallow,
    (printed_model_reads_back accepted legible .indented).1 shallow⟩

/-! ## What is not read back -/

/-- A program that consists of the double `9007199254740991`, spelled without a fraction. -/
def wholeDouble : Json :=
  .object [
    ("type", .string "ROOTNODE"),
    ("body", .object [("type", .string "FLOATNODE"), ("value", .int 9007199254740991)])]

/-- Its model. -/
def doubleTree : ModelTree := ⟨some ⟨.leaf (.float (Record.floatOfInt 9007199254740991))⟩, []⟩

/-- The bits of the double that a model tree consists of. -/
def doubleBits? : Except LoadError ModelTree → Option UInt64
  | .ok ⟨some ⟨.leaf (.float x)⟩, _⟩ => some x.toBits
  | _ => none

/-- Two programs without a fraction in their texts whose models are printed and not read back: 42
values that are spread inside each other, for the depth of the model, and one double, for its
digits. -/
theorem printed_models_lost :
    (ofText {} (bytesOf (spreadProgram 42).text) = .ok (spreadTree 42) ∧
      load ofJson (bytesOf (spreadTree 42).toJson.text) = .error .malformed) ∧
    ofText {} (bytesOf wholeDouble.text) = .ok doubleTree ∧
      load ofJson (bytesOf doubleTree.toJson.text) ≠ .ok doubleTree := by
  have deep : 127 < (spreadTree 42).toJson.depth := by rw [depth_spreadTree]; decide
  have legible := legible_root (legible_spreadProgram 42) (ofProgram_spreadProgram {} 42)
  refine ⟨⟨ofText_spreadProgram {} (by decide), (load_text legible .compact).2 deep⟩, ?_, ?_⟩
  · have numbers : wholeDouble.Legible :=
      ⟨trivial, ⟨trivial, ⟨by decide, by decide⟩, trivial⟩, trivial⟩
    have read := (Json.read_text numbers .compact Json.depthLimit).1 (by decide)
    rw [ofText, Node.load, read]
    rfl
  · intro back
    have bits := congrArg doubleBits? back
    revert bits
    decide +kernel

end ModelTree
end RubyModel
