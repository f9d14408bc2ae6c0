/-
# What a model does not depend on

Some data of a raw tree has no counterpart in the model: where nodes stand, how a variable is
written in the source if the parser gives its bare name too, and what an unsupported node holds.
The essence of a tree (`Node.essence`) is the tree without it.

| data | in the essence |
| --- | --- |
| position | the default one |
| lexical name of a variable | empty, but still there |
| unsupported node | only its type name is known |

Two trees with the same essence differ in such data only.  A run over either looks like the run
over the essence, so none of the data reaches a model, the cause of a failure or the node type of
a warning.
-/

import RubyModel.Proofs.Views
import RubyModel.Raw.Build

namespace RubyModel
namespace Raw

/-- The name of a variable without the text of its lexical name. -/
def VarName.essence (name : VarName) : VarName :=
  { name with lexicalName := name.lexicalName.map fun _ => "" }

/-- The type name of an unsupported shape. -/
def Unsupported.typeName {α : Type} (shape : Unsupported α) : String :=
  (Entry.ofShape (.unsupported shape)).typeName

/-- Rebuilding the children keeps the type name. -/
theorem Unsupported.typeName_fold {β : Type} (f : Position → Shape β → β)
    (shape : Unsupported Node) : (Node.foldUnsupported f shape).typeName = shape.typeName := by
  cases shape <;> rw [Node.foldUnsupported] <;> rfl

/-- One layer without the data that has no counterpart in the model. -/
def Shape.essence {α : Type} : Shape α → Shape α
  | .var scope name => .var scope name.essence
  | .varAssign form name value => .varAssign form name.essence value
  | .unsupported shape => .unsupported (.unlisted shape.typeName)
  | shape => shape

/-- The tree without the data that has no counterpart in the model. -/
def Node.essence : Node → Node := Node.fold fun _ shape => ⟨{}, shape.essence⟩

end Raw

namespace Lowering

open Raw (Node Unsupported VarName)

/-- The essence of a name is its logical name. -/
theorem varName_essence (scope : Scope) (name : VarName) :
    varName scope name.essence = varName scope name := by
  obtain ⟨name, lexicalName⟩ := name
  cases lexicalName <;> rfl

/-- The change of a tree into its essence. -/
def Twin.essence : Twin where
  move _ := {}
  rename _ name := name.essence
  fill shape := some (.unlisted shape.typeName)
  varName_rename := varName_essence

/-- The twin of a tree is its essence. -/
theorem Twin.of_essence (node : Node) : Twin.essence.of node = node.essence := by
  have layers : Twin.essence.layer = fun _ shape => ⟨{}, shape.essence⟩ := by
    funext position shape
    cases shape <;> rfl
  rw [Twin.of, layers, Node.essence]

/-- Neither the cause of a failure nor the node type of a warning depends on more than the
essence. -/
theorem Twin.essence_unseen : Twin.essence.Unseen .kinds where
  line _ _ := rfl
  leftOut _ shape := ⟨_, rfl, Unsupported.typeName_fold Twin.essence.layer shape⟩

end Lowering

namespace ModelTree

open Raw (Node)

/-- **The essence of a tree decides its model.**  Two trees that differ only in positions, in the
text of lexical names and in what their unsupported nodes hold, taken as nodes or as programs,
succeed with the same root and with warnings about nodes of the same types in the same order, or
fail for the same cause. -/
theorem essence_decides (settings : Settings) {node other : Node}
    (same : node.essence = other.essence) :
    View.kinds.SameEnd (ofNode settings node) (ofNode settings other) ∧
    View.kinds.SameEnd (ofProgram settings node) (ofProgram settings other) := by
  rw [← Lowering.Twin.of_essence, ← Lowering.Twin.of_essence] at same
  obtain ⟨asNode, asProgram⟩ := Lowering.Twin.essence_unseen.sameEnd settings node
  obtain ⟨asNode', asProgram'⟩ := Lowering.Twin.essence_unseen.sameEnd settings other
  rw [same] at asNode asProgram
  exact ⟨asNode.trans asNode'.symm, asProgram.trans asProgram'.symm⟩

section Rewritten

open Raw.Build

/-- The program `@x = 1; for y in z; end` on lines of its own. -/
def loopProgram : Node :=
  ⟨.onLine 1, .root (some ⟨.onLine 1, .block [
    ⟨.onLine 1, .varAssign .instances ⟨"x", some "@x"⟩ (some ⟨.onLine 1, .leaf (.int 1)⟩)⟩,
    ⟨.onLine 2, .unsupported (.forLoop (some (assignLocal "y" none)) (some (localVar "z"))
      none)⟩]⟩)⟩

/-- The program without what the loop holds, with another lexical name and on one line. -/
def rewrittenLoop : Node :=
  ⟨.onLine 7, .root (some ⟨.onLine 7, .block [
    ⟨.onLine 7, .varAssign .instances ⟨"x", some "x"⟩ (some ⟨.onLine 7, .leaf (.int 1)⟩)⟩,
    ⟨.onLine 7, .unsupported (.unlisted "FORNODE")⟩]⟩)⟩

/-- The model of both programs. -/
def loopModel : Model :=
  ⟨.block [⟨.assign (.sigil .instances) "x" (some ⟨.leaf (.int 1)⟩)⟩]⟩

/-- The two programs have the same model and a warning about the loop each, though on different
lines. -/
theorem rewrittenLoop_same :
    loopProgram.essence = rewrittenLoop.essence ∧
    ∃ warning other : Diagnostic,
      ofProgram { unknownNodes := .permissive } loopProgram = .ok ⟨some loopModel, [warning]⟩ ∧
      ofProgram { unknownNodes := .permissive } rewrittenLoop = .ok ⟨some loopModel, [other]⟩ ∧
      warning.nodeType = other.nodeType ∧ warning.line = 2 ∧ other.line = 7 := by
  have same : loopProgram.essence = rewrittenLoop.essence := rfl
  have found : ofProgram { unknownNodes := .permissive } loopProgram =
    .ok ⟨some loopModel, [.leftOut ⟨.onLine 2, _⟩]⟩ := rfl
  refine ⟨same, _, .leftOut ⟨.onLine 7, .unsupported (.unlisted "FORNODE")⟩, found, rfl, ?_⟩
  obtain ⟨_, _, e, e', -, types⟩ | ⟨_, _, e, -⟩ :=
    (essence_decides { unknownNodes := .permissive } same).2
  · cases found.symm.trans e
    cases e'
    exact ⟨(List.cons.inj types).1, rfl, rfl⟩
  · cases found.symm.trans e

end Rewritten

end ModelTree
end RubyModel
