/-
# Raw trees and their texts

The text of a tree is read as the tree exactly as long as it is not nested too deep.  What is
nested in it is more than the tree: every node carries the object of its position, so that a tree
that was loaded without positions may be too deep once it is written.

| text | outcome |
| --- | --- |
| at most 127 brackets inside each other | the tree |
| more | a fault of syntax |

This joins the text of values (`Json.read_text`) with the form of trees as values
(`Node.ofJson_toJson_iff`).  Between the two stands `legible_toJson`: all numbers that are written
for a tree come back, apart from doubles.
-/

import RubyModel.Proofs.Nesting
import RubyModel.Proofs.RoundTrip

namespace RubyModel

/-! ## Records with a text of their own -/

namespace Record

/-- The value of a field is written with numbers that come back, if its children and doubles
are. -/
theorem Content.legible_toJson (content : Content) {value : content.Value Json}
    (children : ∀ x ∈ content.children value, x.Legible)
    (floats : ∀ x ∈ content.floats value, Json.Legible (.float x)) :
    (content.toJson value).Legible := by
  cases content with
  | child =>
    cases value with
    | none => trivial
    | some x => exact children x (List.mem_singleton.2 rfl)
  | node => exact children value (List.mem_singleton.2 rfl)
  | nodes => exact Json.legibleItems_iff.2 children
  | optionalText => cases value <;> trivial
  | int =>
    have low := value.le_toInt
    have high := value.toInt_lt
    exact ⟨low, by omega⟩
  | float =>
    show Json.Legible (if value.isFinite then _ else _)
    split
    case isTrue => exact floats value (List.mem_singleton.2 rfl)
    case isFalse => trivial
  | word =>
    have high := value.toNat_lt
    exact ⟨by omega, by omega⟩
  | text | flag => trivial

/-- A record is written with numbers that come back, if its children and doubles are. -/
theorem legible_members : ∀ {fields : List Field} {slots : Slots Json fields},
    (∀ x ∈ slotChildren fields slots, x.Legible) →
    (∀ x ∈ slotFloats fields slots, Json.Legible (.float x)) →
    Json.LegibleMembers (members fields slots)
  | [], _, _, _ => trivial
  | field :: _, (_, _), children, floats => by
    obtain ⟨here, others⟩ := List.forall_mem_append.1 children
    obtain ⟨floatsHere, otherFloats⟩ := List.forall_mem_append.1 floats
    exact ⟨field.content.legible_toJson here floatsHere, legible_members others otherFloats⟩

/-- A change of the children keeps the doubles. -/
theorem Content.floats_map {α β : Type} (f : α → β) (content : Content)
    (value : content.Value α) : content.floats (content.map f value) = content.floats value := by
  cases content <;> rfl

/-- A change of the children keeps the doubles of all slots. -/
theorem slotFloats_mapSlots {α β : Type} (f : α → β) : ∀ (fields : List Field)
    (slots : Slots α fields), slotFloats fields (mapSlots f fields slots) = slotFloats fields slots
  | [], _ => rfl
  | field :: rest, (value, values) => by
    rw [mapSlots, slotFloats, slotFloats, Content.floats_map, slotFloats_mapSlots f rest values]

end Record

/-- A position is written with four numbers that can be read back. -/
theorem Position.legible_toJson (position : Position) : position.toJson.Legible := by
  have word (value : UInt64) : Json.Legible (.int value.toNat) := by
    have high := value.toNat_lt
    exact ⟨by omega, by omega⟩
  exact ⟨word _, word _, word _, word _, trivial⟩

namespace Raw

/-- The record of a double is the only one that holds a double. -/
theorem Entry.shape_of_mem_floats {α : Type} {kind : Kind} {slots : Record.Slots α kind.fields}
    {x : Float} (mem : x ∈ Record.slotFloats kind.fields slots) :
    (Entry.listed kind slots).shape = .leaf (.float x) := by
  cases kind with
  | float =>
    obtain ⟨value, _⟩ := slots
    obtain rfl := List.mem_singleton.1 mem
    rfl
  | _ => cases mem

namespace Node

/-- The tree holds no double. -/
def Floatless (node : Node) : Prop :=
  ∀ part : Node, part.Within node → ∀ x, part.shape ≠ .leaf (.float x)

/-- Every unlisted type name in the tree is neither listed nor reserved. -/
def WellNamed (node : Node) : Prop :=
  ∀ part : Node, part.Within node → ∀ typeName, part.shape = .unsupported (.unlisted typeName) →
    Kind.ofTypeName? typeName = none ∧ typeName ≠ reservedName

/-- A tree without doubles can be written if its nodes are well named. -/
theorem Floatless.writable {node : Node} (floatless : node.Floatless) (named : node.WellNamed) :
    node.Writable := by
  intro part within
  unfold Shape.Writable
  split
  case h_1 x e => exact absurd e (floatless part within x)
  case h_2 typeName e => exact named part within typeName e
  case h_3 => trivial

/-- The doubles of a tree come back from their digits. -/
def Legible (node : Node) : Prop :=
  ∀ part : Node, part.Within node → ∀ x, part.shape = .leaf (.float x) → Json.Legible (.float x)

/-- A tree without doubles can be read back from its text. -/
theorem Floatless.legible {node : Node} (floatless : node.Floatless) : node.Legible :=
  fun part within x e => absurd e (floatless part within x)

/-- The numbers of a tree come back from its text, if its doubles do. -/
theorem legible_toJson {node : Node} (floats : node.Legible) : node.toJson.Legible := by
  induction node using recordInduction with
  | step position entry ih =>
    have below (child : Node) (mem : child ∈ entry.children) : child.toJson.Legible := by
      refine ih child mem fun part within => floats part (.child ?_ within)
      exact Entry.children_shape entry ▸ mem
    rw [toJson_shape]
    have fields : Json.LegibleMembers (entry.map toJson).members := by
      cases entry with
      | unlisted => trivial
      | listed kind slots =>
        refine Record.legible_members ?_ ?_
        · rw [Record.slotChildren_mapSlots]
          exact List.forall_mem_map.2 below
        · rw [Record.slotFloats_mapSlots]
          exact fun x mem => floats _ .whole x (Entry.shape_of_mem_floats mem)
    exact ⟨trivial, position.legible_toJson, fields⟩

/-- A tree that is written without loss comes back from its text exactly as long as it is not
nested too deep. -/
theorem load_text {node : Node} (legible : node.Legible) (writable : node.Writable) :
    (node.toJson.depth ≤ 127 → load (bytesOf node.text) = .ok node) ∧
    (127 < node.toJson.depth → load (bytesOf node.text) = .error .malformed) := by
  obtain ⟨fits, exceeds⟩ := Json.read_text (legible_toJson legible) .compact Json.depthLimit
  have back := (ofJson_toJson_iff node).2 writable
  constructor
  · intro shallow
    rw [load, text, fits shallow]
    simp only [back]
    rfl
  · intro deep
    rw [load, text, exceeds deep]
    rfl

/-- Splats inside each other, and in the innermost a text with quotes, control characters and
characters outside ASCII. -/
def splats : Nat → Node
  | 0 => ⟨.onLine 7, .text .str "say \x22\\\x01\n\x22 é \u2028 𝄞"⟩
  | n + 1 => ⟨{}, .splat (some (splats n))⟩

/-- The parts of splats inside each other are such splats. -/
theorem within_splats {n : Nat} {part : Node} (within : part.Within (splats n)) :
    ∃ m, part = splats m := by
  induction n with
  | zero =>
    cases within with
    | whole => exact ⟨0, rfl⟩
    | child mem => cases mem
  | succ n ih =>
    cases within with
    | whole => exact ⟨n + 1, rfl⟩
    | child mem within =>
      obtain rfl := List.mem_singleton.1 mem
      exact ih within

/-- Every splat is one more object; the innermost node holds its position. -/
theorem depth_splats (n : Nat) : (splats n).toJson.depth = n + 2 := by
  induction n with
  | zero => decide
  | succ n ih =>
    have members : (splats (n + 1)).toJson = .object [("type", .string "SPLATNODE"),
        ("position", ({} : Position).toJson), ("value", (splats n).toJson)] := rfl
    have position : ({} : Position).toJson.depth = 1 := by decide
    rw [members]
    simp only [Json.depth, Json.depthMembers, position, ih]
    omega

end Node
end Raw
end RubyModel
