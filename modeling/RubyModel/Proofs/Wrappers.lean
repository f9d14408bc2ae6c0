/-
# Wrappers around values

A statement on a line of its own and an expression inside an interpolated text are wrapped; the
wrapper stands for what is in it (`NEWLINENODE`, `EVSTRNODE` in `SPEC_FULL.md`, §13).  More wrappers
change nothing, as long as they are put around nodes whose kind is not looked at.

| slot | why the kind of the node in it is looked at |
| --- | --- |
| arguments, parameters, exceptions, targets of a multiple assignment | lists give their elements |
| arguments of a call | a block may be passed |
| parts of a concatenation | lists give their elements, splats and concatenations go on |
| body of a method, a `begin` block or an `ensure` node | rescue nodes become clauses |
| clause of a rescue node, next clause, list of a hash, default of a parameter | only one fits |
| element of a list | a concatenation may go on with the list |

The first five rows are the slots in which a node is not read as a plain value (`Place`).
`Node.Wrapped` relates a tree to the tree with more wrappers; its induction goes through the tree
layer by layer, and a layer of both trees at once is a layer of pairs.  The two runs are in step
(`alongside`): a pair has the same outcomes as a value, and a pair without a new wrapper around it
in every position (`alongside_of_wrapped`).
-/

import RubyModel.Proofs.Views
import RubyModel.Raw.Build

namespace RubyModel
namespace Raw

/-- `Wrapped place node other`: around `node`, in a slot that asks for it in the given way, and
around nodes below it there are more wrappers in `other`.  A wrapper is added where a value is
asked for, but not around a concatenation that is an item of a list. -/
inductive Node.Wrapped : Place → Node → Node → Prop where
  | layer (place : Place) (position : Position) (pairs : Shape (Node × Node))
      (below : ∀ slot ∈ pairs.slots, ∀ pair ∈ slot.nodes, Wrapped slot.place pair.1 pair.2)
      (items : ∀ pair ∈ pairs.items, pair.2.isConcatenation = pair.1.isConcatenation) :
      Wrapped place ⟨position, Prod.fst <$> pairs⟩ ⟨position, Prod.snd <$> pairs⟩
  | wrap (wrapper : Wrapper) (position : Position) {node other : Node}
      (inside : Wrapped .value node other) :
      Wrapped .value node ⟨position, .wrap wrapper (some other)⟩

/-- No wrapper has to be added. -/
theorem Node.Wrapped.refl (place : Place) (node : Node) : node.Wrapped place node := by
  induction node using Node.induction generalizing place with
  | step position shape all =>
    -- the layer of pairs has every child twice
    have same := Wrapped.layer place position (shape.beside id)
    rw [shape.fst_beside, shape.snd_beside, id_map] at same
    refine same ?_ ?_
    · rw [Shape.beside, Shape.slots_map]
      refine List.forall_mem_map.2 fun slot mem => List.forall_mem_map.2 fun child inSlot => ?_
      exact Shape.all_iff.1 all child (List.mem_flatMap.2 ⟨slot, mem, inSlot⟩) slot.place
    · rw [Shape.beside, Shape.items_map]
      exact List.forall_mem_map.2 fun child mem => rfl

end Raw

namespace Lowering

open Raw (Node Shape Place Unsupported)

/-- A layer that is not changed keeps the nodes of the second tree. -/
theorem nodes_unchanged {p q : Policy} {L : LockStep p q} (unchanged : L.twin = .unchanged)
    (position : Position) (pairs : Shape (Node × Node)) :
    L.nodes position pairs = (⟨position, Prod.fst <$> pairs⟩, ⟨position, Prod.snd <$> pairs⟩) := by
  rw [LockStep.nodes, unchanged, Twin.layer_unchanged]

/-- Unsupported nodes with the same type name are refused or left out alike. -/
theorem leaveOut_same (policy : Policy) (position : Position) (pairs : Unsupported (Node × Node)) :
    View.places.Same (leaveOut policy ⟨position, .unsupported (Prod.fst <$> pairs)⟩)
      (leaveOut policy ⟨position, .unsupported (Prod.snd <$> pairs)⟩) := by
  cases policy with
  | strict => exact .fail rfl
  | permissive =>
    refine .ok none ?_
    cases pairs <;> rfl

/-- Two runs under one policy over nodes that stand on the same lines: what is seen of them are
causes and lines of failures, and whole warnings. -/
def alongside (policy : Policy) : LockStep policy policy where
  twin := .unchanged
  Match node other := node.line = other.line
  Rel _ _ x y := View.places.Same x y
  ok := .pure
  bind := .bind
  enter _ _ _ _ _ _ below := below
  settled same _ := same
  unsupported position pairs _ := leaveOut_same policy position pairs
  violated _ _ matched := .fail (congrArg₂ View.places.fault rfl (congrArg some matched))
  argumentShape _ _ matched := .fail (congrArg₂ View.places.fault rfl (congrArg some matched))

/-- **The whole tree:** with more wrappers a node looks the same as a value, and in every position
if no wrapper is put around the node itself. -/
theorem alongside_of_wrapped (policy : Policy) {place : Place} {node other : Node}
    (wrapped : node.Wrapped place other) :
    (alongside policy).Values (some (node, other)) ∧
      (place ≠ .value ∨ other.isConcatenation = true →
        (alongside policy).InStep (some (node, other))) := by
  induction wrapped with
  | layer place position pairs below items ih =>
    have h : (alongside policy).Below position pairs := {
      matched := by
        rw [nodes_unchanged rfl]
        exact rfl
      values := List.forall_iff_forall_mem.2 fun slot mem pair inSlot =>
        (ih slot mem pair inSlot).1
      kept := List.forall_iff_forall_mem.2 fun slot mem kept pair inSlot =>
        (ih slot mem pair inSlot).2 (.inl kept)
      items := fun pair mem => by
        obtain ⟨slot, inShape, inSlot⟩ := Shape.mem_slots_of_mem_items mem
        exact ⟨items pair mem, fun concatenation =>
          (ih slot inShape pair inSlot).2 (.inr concatenation)⟩ }
    rw [← nodes_unchanged (L := alongside policy) rfl position pairs]
    exact ⟨h.inStep.toValues, fun _ => h.inStep⟩
  | wrap wrapper position inside ih =>
    -- the wrapper gives the value of what is in it, and is no concatenation
    refine ⟨⟨ih.1.asValue⟩, ?_⟩
    rintro (kept | concatenation)
    · exact absurd rfl kept
    · exact absurd concatenation Bool.false_ne_true

/-- Nodes that are in step as values look the same. -/
theorem same_of_values {policy : Policy} {place : Option (Node × Node)}
    (h : (alongside policy).Values place) :
    View.places.Same (child policy (Prod.fst <$> place)) (child policy (Prod.snd <$> place)) := by
  have related : (alongside policy).Rel none _ (child policy (Prod.fst <$> place))
    (child policy (Prod.snd <$> place)) := h.asValue
  exact related

end Lowering

namespace ModelTree

open Raw (Node)

/-- **Wrappers are transparent.**  With more wrappers around nodes whose kind is not looked at, a
node succeeds with the same root and the same warnings, or fails for the same cause on the same
line; so does a program, if there is no wrapper around its root. -/
theorem wrappers_transparent (settings : Settings) (node other : Node) :
    (node.Wrapped .value other →
      View.places.SameEnd (ofNode settings node) (ofNode settings other)) ∧
    (node.Wrapped .program other →
      View.places.SameEnd (ofProgram settings node) (ofProgram settings other)) := by
  refine ⟨fun wrapped => ?_, fun wrapped => ?_⟩
  · have values := (Lowering.alongside_of_wrapped settings.unknownNodes wrapped).1
    exact (Lowering.same_of_values values).sameEnd
  · cases wrapped with
    | layer _ position pairs below items =>
      cases pairs with
      | root body =>
        have values : (Lowering.alongside settings.unknownNodes).Values body :=
          .of_forall fun pair mem =>
            (Lowering.alongside_of_wrapped _ (below _ List.mem_cons_self pair mem)).1
        exact (Lowering.same_of_values values).sameEnd
      | _ => exact .inr ⟨_, _, rfl, rfl, rfl⟩

section Transparent

open Raw.Build

/-- The assignment `a ||= 1`. -/
def plainUpdate : Node :=
  unplaced (.logicalAssign .or (localVar "a") (assignLocal "a" (some (int 1))))

/-- The assignment with two wrappers around its right operand, and one around the value in it. -/
def wrappedUpdate : Node :=
  unplaced (.logicalAssign .or (localVar "a")
    (newline (interpolation (assignLocal "a" (some (newline (int 1)))))))

/-- The value is found behind the wrappers. -/
theorem wrappedUpdate_transparent :
    plainUpdate.Wrapped .value wrappedUpdate ∧
    ofNode {} wrappedUpdate = .ok ⟨some ⟨.logicalAssign .or
      (some ⟨.leaf (.localVar .method "a")⟩) (some ⟨.leaf (.int 1)⟩)⟩, []⟩ := by
  have number : (int 1).Wrapped .value (newline (int 1)) := .wrap .newline {} (.refl .value (int 1))
  have assignment : (assignLocal "a" (some (int 1))).Wrapped .value
      (assignLocal "a" (some (newline (int 1)))) := by
    refine .layer .value {} (.localAssign .method "a" (some (int 1, newline (int 1)))) ?_ nofun
    exact List.forall_mem_singleton.2 (List.forall_mem_singleton.2 number)
  have wrapped : plainUpdate.Wrapped .value wrappedUpdate := by
    refine .layer .value {} (.logicalAssign .or (localVar "a", localVar "a")
      (assignLocal "a" (some (int 1)),
        newline (interpolation (assignLocal "a" (some (newline (int 1))))))) ?_ nofun
    refine List.forall_mem_cons.2
      ⟨List.forall_mem_singleton.2 (.refl .value (localVar "a")), ?_⟩
    exact List.forall_mem_singleton.2 (List.forall_mem_singleton.2
      (.wrap .newline {} (.wrap .interpolation {} assignment)))
  have same := (wrappers_transparent {} plainUpdate wrappedUpdate).1 wrapped
  exact ⟨wrapped, (same.ok_iff _).1 rfl⟩

end Transparent

end ModelTree
end RubyModel
