/-
# Old and new parsers

A newer parser gives the bare name of a variable and its lexical name beside it; an older one
gives only the name with its sigil (`SPEC_FULL.md`, §4.4).

| variable | newer parser | older parser |
| --- | --- | --- |
| global | `x`, with a lexical name | `$x` |
| of a class | `x`, with a lexical name | `@@x` |
| of an instance | `x`, with a lexical name | `@x` |

`Node.legacy` writes a tree of the newer parser as the older one does.  As every name keeps its
logical name (`varName_legacy`), whatever its characters are, models do not tell the parsers apart.
-/

import RubyModel.Proofs.Views
import RubyModel.Raw.Build

namespace RubyModel
namespace Raw

/-- The name of a variable as an older parser writes it. -/
def VarName.legacy (scope : Scope) : VarName → VarName
  | ⟨name, some _⟩ => ⟨scope.sigil ++ name, none⟩
  | ⟨name, none⟩ => ⟨name, none⟩

/-- One layer as an older parser writes it. -/
def Shape.legacy {α : Type} : Shape α → Shape α
  | .var scope name => .var scope (name.legacy scope)
  | .varAssign form name value => .varAssign form (name.legacy form.scope) value
  | shape => shape

/-- The tree as an older parser writes it. -/
def Node.legacy : Node → Node := Node.fold fun position shape => ⟨position, shape.legacy⟩

end Raw

namespace Lowering

open Raw (Node Unsupported VarName)

/-- The logical name of a variable does not depend on the parser. -/
theorem varName_legacy (scope : Scope) (name : VarName) :
    varName scope (name.legacy scope) = varName scope name := by
  obtain ⟨name, lexicalName⟩ := name
  cases lexicalName with
  | none => rfl
  | some lexicalName =>
    -- the sigil is cut off again, character by character
    change String.ofList ((scope.sigil ++ name).toList.drop scope.sigil.length) = name
    rw [String.toList_append, ← String.length_toList, List.drop_left, String.ofList_toList]

/-- The change from a newer parser to an older one. -/
def Twin.legacy : Twin where
  move position := position
  rename := VarName.legacy
  fill := some
  varName_rename := varName_legacy

/-- The twin of a tree is the tree as the older parser writes it. -/
theorem Twin.of_legacy (node : Node) : Twin.legacy.of node = node.legacy := by
  have layers : Twin.legacy.layer = fun position shape => ⟨position, shape.legacy⟩ := by
    funext position shape
    cases shape <;> rfl
  rw [Twin.of, layers, Node.legacy]

/-- Lines and warnings do not depend on the parser. -/
theorem Twin.legacy_unseen : Twin.legacy.Unseen .places where
  line _ _ := rfl
  leftOut position shape := by
    refine ⟨Node.foldUnsupported Twin.legacy.layer shape, rfl, ?_⟩
    cases shape <;> rfl

end Lowering

namespace ModelTree

open Raw (Node)

/-- **Models do not depend on the version of the parser.**  A tree and the same tree as an older
parser writes it, taken as a node or as a program, succeed with the same root and the same
warnings, or fail for the same cause on the same line. -/
theorem parser_versions (settings : Settings) (node : Node) :
    View.places.SameEnd (ofNode settings node) (ofNode settings node.legacy) ∧
    View.places.SameEnd (ofProgram settings node) (ofProgram settings node.legacy) := by
  rw [← Lowering.Twin.of_legacy]
  exact Lowering.Twin.legacy_unseen.sameEnd settings node

/-- A name may be empty, or hold characters of several bytes. -/
example :
    (Raw.Build.var .classes (Raw.Build.bareName "é")).legacy =
      Raw.Build.var .classes (Raw.Build.sigilName "@@é") ∧
    (Raw.Build.assignVar .globals (Raw.Build.bareName "") (Raw.Build.int 1)).legacy =
      Raw.Build.assignVar .globals (Raw.Build.sigilName "$") (Raw.Build.int 1) :=
  ⟨rfl, rfl⟩

end ModelTree
end RubyModel
