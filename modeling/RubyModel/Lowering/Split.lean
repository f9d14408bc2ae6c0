/-
# Concatenations split in three

A concatenation can be taken apart at its first splat: the nodes before it, the value that
is spread, and the nodes after it.  Giving each part its models in turn gives the arguments
of the concatenation; a concatenation that is found among the nodes of a part is taken apart
in the same way.

This is the three-way flattening of `SPEC_FULL.md`, §4.2 and §9: `split` is
`flatten_rhs_values`, `splitArgs` is `normalize_concatenation` and `partArgs` is
`normalize_group`.
-/

import RubyModel.Lowering.Value

namespace RubyModel
namespace Lowering

open Raw (Node)

/-- The three parts of a concatenation. -/
structure Split where
  leading : List Node := []
  middle : Option Node := none
  trailing : List Node := []

/-- The parts with one more node at the end. -/
def Split.push (parts : Split) (node : Node) : Split :=
  { parts with trailing := parts.trailing ++ [node] }

@[simp] theorem Split.leading_push (parts : Split) (node : Node) :
    (parts.push node).leading = parts.leading := rfl

@[simp] theorem Split.middle_push (parts : Split) (node : Node) :
    (parts.push node).middle = parts.middle := rfl

@[simp] theorem Split.trailing_push (parts : Split) (node : Node) :
    (parts.push node).trailing = parts.trailing ++ [node] := rfl

/-- The elements of a list, or the node itself. -/
def elementsOf (node : Node) : List Node := node.listElements?.getD [node]

/-- The parts of a node that is no concatenation and that a node is pushed onto: it is spread
if it is a splat. -/
def splitFirst : Node → Split
  | ⟨position, .splat value⟩ => { middle := some ⟨position, .splat value⟩ }
  | other => { leading := elementsOf other }

/-- Splits a concatenation.  A pushed node comes last; what it is pushed onto is split again
if it is a concatenation. -/
def split : Node → Split
  | ⟨_, .concat .cat first second⟩ => { leading := elementsOf first, middle := some second }
  | ⟨_, .concat .push first second⟩ =>
    (if first.isConcatenation then split first else splitFirst first).push second
  | node => { leading := [node] }

/-- A concatenation has two parts. -/
theorem exists_of_isConcatenation {node : Node} (h : node.isConcatenation = true) :
    ∃ position form first second, node = ⟨position, .concat form first second⟩ := by
  obtain ⟨position, shape⟩ := node
  cases shape with
  | concat form first second => exact ⟨position, form, first, second, rfl⟩
  | _ => exact absurd h Bool.false_ne_true

/-- The elements of a node take little more room than the node. -/
theorem sizeOf_elementsOf (node : Node) : sizeOf (elementsOf node) ≤ sizeOf node + 2 := by
  unfold elementsOf
  fun_cases Node.listElements? node with
  | case1 position form items =>
    rw [Option.getD_some, Node.mk.sizeOf_spec, Raw.Shape.elements.sizeOf_spec]
    omega
  | case2 node _ =>
    rw [Option.getD_none, List.cons.sizeOf_spec, List.nil.sizeOf_spec]
    omega

/-- The measure that decreases while a concatenation is split. -/
theorem sizeOf_append_singleton (nodes : List Node) (node : Node) :
    sizeOf (nodes ++ [node]) = sizeOf nodes + sizeOf node + 1 := by
  induction nodes with
  | nil => rw [List.nil_append, List.cons.sizeOf_spec, List.nil.sizeOf_spec]
  | cons first others ih =>
    rw [List.cons_append, List.cons.sizeOf_spec, List.cons.sizeOf_spec, ih]
    omega

/-- The outer parts of a node that is pushed onto take little more room than the node. -/
theorem sizeOf_splitFirst (node : Node) :
    sizeOf (splitFirst node).leading ≤ sizeOf node + 2 ∧
      sizeOf (splitFirst node).trailing = 1 := by
  fun_cases splitFirst node with
  | case1 position value =>
    refine ⟨?_, rfl⟩
    change 1 ≤ _
    omega
  | case2 node _ => exact ⟨sizeOf_elementsOf node, rfl⟩

/-- The outer parts of a concatenation take less room than the concatenation. -/
theorem sizeOf_split (node : Node) (h : node.isConcatenation = true) :
    sizeOf (split node).leading < sizeOf node ∧ sizeOf (split node).trailing < sizeOf node := by
  fun_induction split node with
  | case1 position first second =>
    have leading := sizeOf_elementsOf first
    simp only [Node.mk.sizeOf_spec, Raw.Shape.concat.sizeOf_spec, Raw.Concat.cat.sizeOf_spec,
      List.nil.sizeOf_spec]
    omega
  | case2 position first second ih =>
    have parts : sizeOf (if first.isConcatenation then split first else splitFirst first).leading ≤
          sizeOf first + 2 ∧
        sizeOf (if first.isConcatenation then split first else splitFirst first).trailing ≤
          sizeOf first + 1 := by
      split
      · next again => have := ih again; omega
      · have := sizeOf_splitFirst first; omega
    simp only [Split.leading_push, Split.trailing_push, sizeOf_append_singleton,
      Node.mk.sizeOf_spec, Raw.Shape.concat.sizeOf_spec, Raw.Concat.push.sizeOf_spec]
    omega
  | case3 node notCat notPush =>
    obtain ⟨position, form, first, second, rfl⟩ := exists_of_isConcatenation h
    cases form with
    | cat => exact absurd rfl (notCat position first second)
    | push => exact absurd rfl (notPush position first second)

/-- The models of the value that is spread. -/
def middleArgs (policy : Policy) : Option Node → Outcome (List Model)
  | none => .ok []
  | some node =>
    match node.listElements? with
    | some items => list policy items
    | none => do
      let model ← value policy node
      return (model.map Model.intoSplat).toList

mutual
/-- The arguments of a concatenation, part by part; any other node gives its value. -/
def splitArgs (policy : Policy) (node : Node) : Outcome (List Model) :=
  if _h : node.isConcatenation = true then do
    let leading ← partArgs policy (split node).leading
    let middle ← middleArgs policy (split node).middle
    let trailing ← partArgs policy (split node).trailing
    return leading ++ middle ++ trailing
  else do
    let model ← value policy node
    return model.toList
termination_by sizeOf node
decreasing_by
  · exact (sizeOf_split node ‹_›).1
  · exact (sizeOf_split node ‹_›).2

/-- The arguments that the leading or trailing nodes stand for. -/
def partArgs (policy : Policy) : List Node → Outcome (List Model)
  | [] => .ok []
  | node :: nodes => do
    let first ← splitArgs policy node
    let others ← partArgs policy nodes
    return first ++ others
termination_by nodes => sizeOf nodes
end

end Lowering
end RubyModel
