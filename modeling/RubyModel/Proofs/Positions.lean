/-
# What a node gives in each position

The position of a node decides how it is read, but only a few kinds are read in a way of
their own: a concatenation goes on with the list of arguments, an array or list gives its
elements.  The lemmas here say so once for all other kinds, in terms of the value of the node,
so that no later proof has to go through the kinds again.
-/

import RubyModel.Lowering.Value

namespace RubyModel
namespace Lowering

open Raw (Node Shape)

/-- A concatenation among the items of a list gives its arguments, any other node its value. -/
theorem item_eq (policy : Policy) (node : Node) :
    item policy node = if node.isConcatenation then args policy node
      else value policy node >>= fun model => pure model.toList := by
  obtain ⟨position, shape⟩ := node
  cases shape with
  | concat form first second => cases form <;> rfl
  | _ => rfl

/-- Before the last part of a concatenation, a list gives its items one by one, and any other
node is an item itself. -/
theorem group_eq (policy : Policy) (node : Node) :
    group policy node = match node.listElements? with
      | some items => itemList policy items
      | none => item policy node := by
  obtain ⟨position, shape⟩ := node
  cases shape with
  | concat form first second => cases form <;> rfl
  | _ => rfl

/-- A list that is spread gives its elements, any other node a splat of its value. -/
theorem spread_eq (policy : Policy) (node : Node) :
    spread policy node = match node.listElements? with
      | some items => list policy items
      | none => value policy node >>= fun model => pure (model.map Model.intoSplat).toList := by
  obtain ⟨position, shape⟩ := node
  cases shape with
  | _ => rfl

/-- In value position, a concatenation is the array of its arguments. -/
theorem value_of_isConcatenation (policy : Policy) {node : Node}
    (h : node.isConcatenation = true) :
    value policy node = args policy node >>= fun values => pure (some ⟨.array values⟩) := by
  obtain ⟨position, shape⟩ := node
  cases shape with
  | concat form first second =>
    cases form with
    | cat =>
      change (group policy first >>= fun before => spread policy second >>= fun last => _) =
        (group policy first >>= fun before => spread policy second >>= fun last => _) >>= _
      simp only [bind_assoc, pure_bind]
    | push =>
      change (group policy first >>= fun before => item policy second >>= fun last => _) =
        (group policy first >>= fun before => item policy second >>= fun last => _) >>= _
      simp only [bind_assoc, pure_bind]
  | _ => exact absurd h Bool.false_ne_true

end Lowering
end RubyModel
