/-
# Changed layers

The children of a layer can be changed all at once (`Functor Shape`): the layer keeps its kind, its
own data and its slots, and a tree is rebuilt by changing each layer over what its children have
become (`Node.foldShape_eq`).  A layer of pairs stands for a layer of two trees; `Shape.beside` puts
each child beside what it is changed to.

Some data a run does not depend on:

| data | may become |
| --- | --- |
| position | any function of the position |
| name of a variable | any name with the same logical name |
| unsupported node | any unsupported node, or an absent value |

`Twin` describes such a change, and `Twin.of` is the tree in which it is made.
-/

import Mathlib.Tactic.DeriveTraversable
import RubyModel.Proofs.Positions
import RubyModel.Proofs.Visits

namespace RubyModel
namespace Raw

deriving instance Functor for Unsupported

deriving instance Functor for Shape

instance : LawfulFunctor Unsupported where
  map_const := rfl
  id_map shape := by cases shape <;> simp [Functor.map, Unsupported.map]
  comp_map f g shape := by cases shape <;> simp [Functor.map, Unsupported.map]

instance : LawfulFunctor Shape where
  map_const := rfl
  id_map shape := by
    cases shape with
    | unsupported shape => exact congrArg Shape.unsupported (id_map shape)
    | _ => simp [Functor.map, Shape.map]
  comp_map f g shape := by
    cases shape with
    | unsupported shape => exact congrArg Shape.unsupported (comp_map f g shape)
    | _ => simp [Functor.map, Shape.map]

section Mapped

variable {α β : Type}

/-- The layer of pairs that has each child beside what it is changed to. -/
def Shape.beside (f : α → β) (shape : Shape α) : Shape (α × β) := (fun x => (x, f x)) <$> shape

/-- The first of each pair is the child. -/
theorem Shape.fst_beside (f : α → β) (shape : Shape α) : Prod.fst <$> shape.beside f = shape := by
  rw [beside, ← comp_map]
  exact id_map shape

/-- The second of each pair is the changed child. -/
theorem Shape.snd_beside (f : α → β) (shape : Shape α) :
    Prod.snd <$> shape.beside f = f <$> shape := by
  rw [beside, ← comp_map]
  rfl

/-- The slots of a changed shape hold the changed children. -/
theorem Unsupported.slots_map (f : α → β) (shape : Unsupported α) :
    (f <$> shape).slots = shape.slots.map fun slot => ⟨slot.place, f <$> slot.nodes⟩ := by
  cases shape <;> simp [Functor.map, Unsupported.map, Unsupported.slots, Option.toList_map]

/-- The slots of a changed shape hold the changed children. -/
theorem Shape.slots_map (f : α → β) (shape : Shape α) :
    (f <$> shape).slots = shape.slots.map fun slot => ⟨slot.place, f <$> slot.nodes⟩ := by
  cases shape with
  | unsupported shape => exact Unsupported.slots_map f shape
  | concat form => cases form <;> rfl
  | _ => simp [Functor.map, Shape.map, Shape.slots, Option.toList_map]

end Mapped

/-- The children that go on with a list of arguments if they are concatenations: the elements of
a list, and one more argument. -/
def Shape.items {α : Type} : Shape α → List α
  | .elements _ items => items
  | .concat .push _ last => [last]
  | _ => []

/-- The items of a changed shape are the changed items. -/
theorem Shape.items_map {α β : Type} (f : α → β) (shape : Shape α) :
    (f <$> shape).items = f <$> shape.items := by
  cases shape with
  | concat form => cases form <;> rfl
  | _ => rfl

/-- An item stands in one of the slots. -/
theorem Shape.mem_slots_of_mem_items {α : Type} {shape : Shape α} {item : α}
    (mem : item ∈ shape.items) : ∃ slot ∈ shape.slots, item ∈ slot.nodes := by
  cases shape with
  | elements form items => exact ⟨_, List.mem_cons_self, mem⟩
  | concat form first last =>
    cases form with
    | cat => exact absurd mem List.not_mem_nil
    | push => exact ⟨_, List.mem_cons_of_mem _ List.mem_cons_self, mem⟩
  | _ => exact absurd mem List.not_mem_nil

section Rebuilt

variable {β : Type} (f : Position → Shape β → β)

/-- An unsupported layer is rebuilt by rebuilding its children. -/
theorem Node.foldUnsupported_eq (shape : Unsupported Node) :
    foldUnsupported f shape = fold f <$> shape := by
  cases shape <;> simp [foldUnsupported, foldList_eq, foldChild_eq, Functor.map, Unsupported.map]

/-- A layer is rebuilt by rebuilding its children. -/
theorem Node.foldShape_eq (shape : Shape Node) : foldShape f shape = fold f <$> shape := by
  cases shape with
  | unsupported shape => exact congrArg Shape.unsupported (foldUnsupported_eq f shape)
  | _ => simp [foldShape, foldList_eq, foldChild_eq, Functor.map, Shape.map]

end Rebuilt

end Raw

namespace Lowering

open Raw (Node Shape VarName Unsupported)

/-! ## Twins -/

/-- A change of the data that a run does not depend on. -/
structure Twin where
  move : Position → Position
  rename : Scope → VarName → VarName
  fill : Unsupported Node → Option (Unsupported Node)
  varName_rename (scope : Scope) (name : VarName) :
    varName scope (rename scope name) = varName scope name

namespace Twin

/-- The change of unsupported nodes alone. -/
def filling (fill : Unsupported Node → Option (Unsupported Node)) : Twin where
  move position := position
  rename _ name := name
  fill
  varName_rename _ _ := rfl

/-- The change that changes nothing. -/
def unchanged : Twin := .filling some

/-- The change of one layer. -/
def layer (twin : Twin) (position : Position) : Shape Node → Node
  | .var scope name => ⟨twin.move position, .var scope (twin.rename scope name)⟩
  | .varAssign form name value =>
    ⟨twin.move position, .varAssign form (twin.rename form.scope name) value⟩
  | .unsupported shape =>
    ⟨twin.move position, (twin.fill shape).elim .implicitNil .unsupported⟩
  | shape => ⟨twin.move position, shape⟩

/-- The twin of a tree. -/
def of (twin : Twin) : Node → Node := Node.fold twin.layer

/-- The twin of a node is a changed layer over the twins of its children. -/
theorem of_mk (twin : Twin) (position : Position) (shape : Shape Node) :
    twin.of ⟨position, shape⟩ = twin.layer position (twin.of <$> shape) :=
  congrArg (twin.layer position) (Node.foldShape_eq twin.layer shape)

/-- The layer of an unsupported node becomes one of an unsupported node or of an absent value. -/
theorem layer_unsupported (twin : Twin) (position : Position) (shape : Unsupported Node) :
    (∃ other, twin.layer position (.unsupported shape) =
      ⟨twin.move position, .unsupported other⟩) ∨
      twin.layer position (.unsupported shape) = ⟨twin.move position, .implicitNil⟩ := by
  change (∃ other, Node.mk (twin.move position) ((twin.fill shape).elim .implicitNil .unsupported) =
    _) ∨ Node.mk (twin.move position) ((twin.fill shape).elim .implicitNil .unsupported) = _
  cases twin.fill shape with
  | none => exact .inr rfl
  | some other => exact .inl ⟨other, rfl⟩

/-- The twin of an unsupported node is unsupported or absent. -/
theorem of_unsupported (twin : Twin) (position : Position) (shape : Unsupported Node) :
    (∃ other, twin.of ⟨position, .unsupported shape⟩ =
      ⟨twin.move position, .unsupported other⟩) ∨
      twin.of ⟨position, .unsupported shape⟩ = ⟨twin.move position, .implicitNil⟩ := by
  rw [of_mk]
  exact twin.layer_unsupported position (twin.of <$> shape)

theorem layer_unchanged : unchanged.layer = Node.mk := by
  funext position shape
  cases shape <;> rfl

/-- A tree is its twin under the change that changes nothing. -/
theorem of_unchanged (node : Node) : unchanged.of node = node := by
  rw [of, layer_unchanged, Node.fold_mk]

/-- A node extends a list of arguments if its twin does. -/
theorem isConcatenation_of (twin : Twin) (node : Node) :
    (twin.of node).isConcatenation = node.isConcatenation := by
  obtain ⟨position, shape⟩ := node
  cases shape with
  | unsupported shape => obtain ⟨_, e⟩ | e := twin.of_unsupported position shape <;> rw [e] <;> rfl
  | _ => rfl

end Twin

end Lowering
end RubyModel
