/-
# Skipping is absence

A permissive run leaves out the nodes without a counterpart.  That is the same as if they had
never been there: a strict run over the tree with an implicit `nil` in the place of each of them
(`Node.withGaps`) ends alike.  This is the gap of `SPEC_FULL.md`, §4.5 and §15.

| permissive run over the tree | strict run over the tree with gaps |
| --- | --- |
| a model | the same model |
| a failure | a failure with the same cause, on the same line |

The places in which a run looks at the kind of a child (a rescue clause, the list of a hash, the
default of a parameter, the parts of a concatenation) refuse an unsupported node and an implicit
`nil` alike, and lists drop both.  `Alike` is the table as a relation between outcomes; it is a
simulation of a tree by the tree with gaps.
-/

import RubyModel.Program
import RubyModel.Proofs.Simulation
import RubyModel.Raw.Build

namespace RubyModel
namespace Raw

/-- The shape, or an implicit `nil` if it is unsupported. -/
def Shape.emptied {α : Type} : Shape α → Shape α
  | .unsupported _ => .implicitNil
  | shape => shape

/-- The tree with an implicit `nil` in the place of every unsupported node. -/
def Node.withGaps : Node → Node := Node.fold fun position shape => ⟨position, shape.emptied⟩

/-- A node stays on its line. -/
theorem Node.line_withGaps (node : Node) : node.withGaps.line = node.line := by
  obtain ⟨position, shape⟩ := node
  rfl

/-- A program stays a program. -/
theorem Node.isRoot_withGaps (node : Node) : node.withGaps.isRoot = node.isRoot := by
  obtain ⟨position, shape⟩ := node
  cases shape <;> rfl

end Raw

namespace Failure

/-- The two failures have the same cause, on the same line. -/
def Alike (first second : Failure) : Prop :=
  first.cause = second.cause ∧ first.line? = second.line?

end Failure

namespace Lowering

open Raw (Node Shape)

/-- Outcomes with the same result, or with failures that are alike; warnings do not count. -/
inductive Alike {α : Type} : Outcome α → Outcome α → Prop where
  | same (value : α) (before after : List Diagnostic) :
      Alike ⟨.ok value, before⟩ ⟨.ok value, after⟩
  | failed (failure other : Failure) (before after : List Diagnostic)
      (alike : failure.Alike other) : Alike ⟨.error failure, before⟩ ⟨.error other, after⟩

/-- **One step more:** outcomes that are alike go on to outcomes that are alike. -/
theorem Alike.bind {α β : Type} {x y : Outcome α} {f g : α → Outcome β} (first : Alike x y)
    (next : ∀ result, Alike (f result) (g result)) : Alike (x >>= f) (y >>= g) := by
  cases first with
  | same value before after =>
    have goesOn := next value
    rw [Outcome.bind_ok, Outcome.bind_ok]
    generalize f value = x at goesOn
    generalize g value = y at goesOn
    cases goesOn with
    | same result => exact .same result _ _
    | failed failure other _ _ alike => exact .failed failure other _ _ alike
  | failed failure other before after alike => exact .failed failure other before after alike

/-- The change that puts an implicit `nil` in the place of every unsupported node. -/
def Twin.gaps : Twin := .filling fun _ => none

/-- The twin of a tree is the tree with gaps. -/
theorem Twin.of_gaps (node : Node) : Twin.gaps.of node = node.withGaps := by
  have layers : Twin.gaps.layer = fun position shape => ⟨position, shape.emptied⟩ := by
    funext position shape
    cases shape <;> rfl
  rw [Twin.of, layers, Node.withGaps]

/-- A permissive run over a tree and a strict run over the tree with gaps. -/
def absence : Simulation .permissive .strict where
  twin := .gaps
  Rel := Alike
  ok result := .same result [] []
  bind := Alike.bind
  unsupported position shape := .same none [.leftOut ⟨position, .unsupported shape⟩] []
  violated violation node := by
    refine .failed _ _ [] [] ⟨rfl, congrArg some ?_⟩
    rw [Twin.of_gaps, Node.line_withGaps]
  argumentShape node := by
    refine .failed _ _ [] [] ⟨rfl, congrArg some ?_⟩
    rw [Twin.of_gaps, Node.line_withGaps]

/-- The two runs over one node, in value position. -/
theorem value_alike (node : Node) :
    Alike (value .permissive node) (value .strict node.withGaps) := by
  have alike := absence.value_rel node
  rwa [show absence.twin.of node = node.withGaps from Twin.of_gaps node] at alike

end Lowering

namespace ModelTree

open Raw (Node Shape)

/-- The two runs succeed with the same root, or fail alike. -/
def EndAlike (first second : Except Failure ModelTree) : Prop :=
  (∀ root, (∃ warnings, first = .ok ⟨root, warnings⟩) ↔ ∃ warnings, second = .ok ⟨root, warnings⟩) ∧
  ∀ failure other, first = .error failure → second = .error other → failure.Alike other

/-- Runs that end with the same root. -/
theorem EndAlike.ok (root : Option Model) (before after : List Diagnostic) :
    EndAlike (.ok ⟨root, before⟩) (.ok ⟨root, after⟩) := by
  refine ⟨fun other => ⟨?_, ?_⟩, fun _ _ e => nomatch e⟩
  · rintro ⟨warnings, e⟩
    obtain ⟨rfl, -⟩ := ModelTree.mk.inj (Except.ok.inj e)
    exact ⟨after, rfl⟩
  · rintro ⟨warnings, e⟩
    obtain ⟨rfl, -⟩ := ModelTree.mk.inj (Except.ok.inj e)
    exact ⟨before, rfl⟩

/-- Runs that end with failures that are alike. -/
theorem EndAlike.error {failure other : Failure} (alike : failure.Alike other) :
    EndAlike (.error failure) (.error other) := by
  refine ⟨fun root => ⟨nofun, nofun⟩, ?_⟩
  rintro _ _ ⟨⟩ ⟨⟩
  exact alike

/-- Outcomes that are alike are ends of runs that are alike. -/
theorem EndAlike.ofOutcome {x y : Outcome (Option Model)} (alike : Lowering.Alike x y) :
    EndAlike (ofOutcome x) (ofOutcome y) := by
  cases alike with
  | same root before after => exact .ok root before after
  | failed failure other before after alike => exact .error alike

/-- **Skipping is the same as absence.**  A permissive run over a node or a program succeeds
exactly if a strict run does over the tree with an implicit `nil` in the place of every
unsupported node, and then both give the same root; if they fail, they fail for the same cause
on the same line. -/
theorem skipping_absence (node : Node) :
    EndAlike (ofNode { unknownNodes := .permissive } node)
      (ofNode { unknownNodes := .strict } node.withGaps) ∧
    EndAlike (ofProgram { unknownNodes := .permissive } node)
      (ofProgram { unknownNodes := .strict } node.withGaps) := by
  refine ⟨.ofOutcome (Lowering.value_alike node), ?_⟩
  cases isRoot : node.isRoot with
  | false =>
    rw [ofProgram_of_not_isRoot _ isRoot,
      ofProgram_of_not_isRoot _ (node.isRoot_withGaps.trans isRoot)]
    exact .error ⟨rfl, rfl⟩
  | true =>
    obtain ⟨position, body, rfl⟩ := Node.exists_of_isRoot isRoot
    cases body with
    | none => exact .ok none [] []
    | some body => exact .ofOutcome (Lowering.value_alike body)

section Emptied

open Raw.Build

/-- A hash with a shell command as its first value, on the third line. -/
def skippedValue : Node :=
  hash [(symbol "a", ⟨.onLine 3, .unsupported (.shell "ls")⟩), (symbol "b", int 1)]

/-- The model of that hash, whose first pair is incomplete. -/
def incompleteHash : Model := ⟨.hash [
  ⟨.hashPair (some ⟨.leaf (.symbol "a")⟩) none⟩,
  ⟨.hashPair (some ⟨.leaf (.symbol "b")⟩) (some ⟨.leaf (.int 1)⟩)⟩]⟩

/-- A skipped value leaves its pair incomplete, as an implicit `nil` does. -/
theorem skippedValue_absent :
    (∃ warnings, ofNode { unknownNodes := .permissive } skippedValue =
      .ok ⟨some incompleteHash, warnings⟩) ∧
    ∃ warnings, ofNode { unknownNodes := .strict } skippedValue.withGaps =
      .ok ⟨some incompleteHash, warnings⟩ := by
  have skipped : ∃ warnings, ofNode { unknownNodes := .permissive } skippedValue =
      .ok ⟨some incompleteHash, warnings⟩ := ⟨_, rfl⟩
  exact ⟨skipped, ((skipping_absence skippedValue).1.1 _).1 skipped⟩

end Emptied

end ModelTree
end RubyModel
