/-
# What is seen of a run

Two runs are compared by what somebody sees of them who looks at all results, but only at a
part of each failure and of each warning.  A `View` says which part.

| view | of a failure | of a warning |
| --- | --- | --- |
| `View.places` | its cause and its line | all of it |
| `View.kinds` | its cause | the type of the node |

Outcomes that look the same go on to outcomes that look the same (`View.Same.bind`).  So a change
of the tree that a view does not show (`Twin.Unseen`) makes a simulation, and the runs over a tree
and over its twin look the same from beginning to end (`Twin.Unseen.sameEnd`).
-/

import RubyModel.Program
import RubyModel.Proofs.Simulation

namespace RubyModel

open Raw (Node Unsupported)

/-- What is seen of a failure, which is at most its cause and its line, and of a warning. -/
structure View where
  Fault : Type
  Note : Type
  fault : Failure.Cause → Option UInt64 → Fault
  note : Diagnostic → Note

namespace View

/-- Causes and lines of failures, and whole warnings. -/
def places : View where
  Fault := Failure.Cause × Option UInt64
  Note := Diagnostic
  fault cause line := (cause, line)
  note diagnostic := diagnostic

/-- Causes of failures, and the node types in warnings. -/
def kinds : View where
  Fault := Failure.Cause
  Note := String
  fault cause _ := cause
  note := Diagnostic.nodeType

variable (view : View)

/-- What is seen of a failure. -/
def failure (failure : Failure) : view.Fault := view.fault failure.cause failure.line?

/-- Two outcomes with the same result, or with failures that look the same; the warnings look the
same in either case. -/
inductive Same {α : Type} : Outcome α → Outcome α → Prop where
  | ok (value : α) {before after : List Diagnostic}
      (notes : before.map view.note = after.map view.note) :
      Same ⟨.ok value, before⟩ ⟨.ok value, after⟩
  | failed {failure other : Failure} {before after : List Diagnostic}
      (fault : view.failure failure = view.failure other)
      (notes : before.map view.note = after.map view.note) :
      Same ⟨.error failure, before⟩ ⟨.error other, after⟩

/-- Two runs that succeed with the same root and with warnings that look the same, or that fail
with failures that look the same. -/
def SameEnd (first second : Except Failure ModelTree) : Prop :=
  (∃ tree other, first = .ok tree ∧ second = .ok other ∧ tree.root = other.root ∧
    tree.diagnostics.map view.note = other.diagnostics.map view.note) ∨
  ∃ failure other, first = .error failure ∧ second = .error other ∧
    view.failure failure = view.failure other

variable {view}

namespace Same

variable {α β : Type}

theorem pure (value : α) : view.Same (.ok value) (.ok value) := .ok value rfl

/-- Failures that look the same. -/
theorem fail {failure other : Failure} (fault : view.failure failure = view.failure other) :
    view.Same (.fail failure : Outcome α) (.fail other) :=
  .failed fault rfl

/-- **One step more:** outcomes that look the same go on to outcomes that look the same. -/
theorem bind {x y : Outcome α} {f g : α → Outcome β} (first : view.Same x y)
    (next : ∀ result, view.Same (f result) (g result)) : view.Same (x >>= f) (y >>= g) := by
  cases first with
  | failed fault notes => exact .failed fault notes
  | ok value notes =>
    have goesOn := next value
    rw [Outcome.bind_ok, Outcome.bind_ok]
    generalize f value = x at goesOn
    generalize g value = y at goesOn
    -- the warnings of both parts are seen one after the other
    cases goesOn with
    | ok result later =>
      refine .ok result ?_
      rw [List.map_append, List.map_append, notes, later]
    | failed fault later =>
      refine .failed fault ?_
      rw [List.map_append, List.map_append, notes, later]

/-- Outcomes that look the same are the ends of runs that look the same. -/
theorem sameEnd {x y : Outcome (Option Model)} (same : view.Same x y) :
    view.SameEnd (ModelTree.ofOutcome x) (ModelTree.ofOutcome y) := by
  cases same with
  | ok root notes => exact .inl ⟨⟨root, _⟩, ⟨root, _⟩, rfl, rfl, rfl, notes⟩
  | failed fault notes => exact .inr ⟨_, _, rfl, rfl, fault⟩

end Same

namespace SameEnd

variable {first second third : Except Failure ModelTree}

/-- Runs look the same in either order. -/
theorem symm (same : view.SameEnd first second) : view.SameEnd second first := by
  obtain ⟨tree, other, rfl, rfl, root, notes⟩ | ⟨failure, other, rfl, rfl, fault⟩ := same
  · exact .inl ⟨other, tree, rfl, rfl, root.symm, notes.symm⟩
  · exact .inr ⟨other, failure, rfl, rfl, fault.symm⟩

/-- Runs that look the same as a third one look the same. -/
theorem trans (same : view.SameEnd first second) (again : view.SameEnd second third) :
    view.SameEnd first third := by
  obtain ⟨tree, middle, rfl, rfl, root, notes⟩ | ⟨failure, middle, rfl, rfl, fault⟩ := same
  · obtain ⟨_, last, ⟨⟩, rfl, root', notes'⟩ | ⟨_, _, ⟨⟩, _⟩ := again
    exact .inl ⟨tree, last, rfl, rfl, root.trans root', notes.trans notes'⟩
  · obtain ⟨_, _, ⟨⟩, _⟩ | ⟨_, last, ⟨⟩, rfl, fault'⟩ := again
    exact .inr ⟨failure, last, rfl, rfl, fault.trans fault'⟩

/-- Runs that look the same with causes, lines and whole warnings have the same model tree. -/
theorem ok_iff (same : places.SameEnd first second) (tree : ModelTree) :
    first = .ok tree ↔ second = .ok tree := by
  obtain ⟨⟨root, before⟩, ⟨root', after⟩, rfl, rfl, e, notes⟩ | ⟨_, _, rfl, rfl, -⟩ := same
  · obtain rfl : root = root' := e
    obtain rfl : before = after := by simpa only [places, List.map_id'] using notes
    exact Iff.rfl
  · exact ⟨nofun, nofun⟩

end SameEnd
end View

namespace Lowering.Twin

/-- A twin stands where the change moves it to. -/
theorem position_of (twin : Twin) (node : Node) :
    (twin.of node).position = twin.move node.position := by
  obtain ⟨position, shape⟩ := node
  cases shape with
  | unsupported shape => obtain ⟨_, e⟩ | e := twin.of_unsupported position shape <;> rw [e] <;> rfl
  | _ => rfl

/-- The twin of a program is a program. -/
theorem isRoot_of (twin : Twin) (node : Node) : (twin.of node).isRoot = node.isRoot := by
  obtain ⟨position, shape⟩ := node
  cases shape with
  | unsupported shape => obtain ⟨_, e⟩ | e := twin.of_unsupported position shape <;> rw [e] <;> rfl
  | _ => rfl

/-- A change of trees that a view does not show: failures about a node and about its twin look the
same, and an unsupported node has an unsupported twin with the same warning. -/
structure Unseen (twin : Twin) (view : View) : Prop where
  line (cause : Failure.Cause) (position : Position) :
    view.fault cause (some (twin.move position).startLine) =
      view.fault cause (some position.startLine)
  leftOut (position : Position) (shape : Unsupported Node) :
    ∃ other, twin.of ⟨position, .unsupported shape⟩ = ⟨twin.move position, .unsupported other⟩ ∧
      view.note (.leftOut ⟨twin.move position, .unsupported other⟩) =
        view.note (.leftOut ⟨position, .unsupported shape⟩)

namespace Unseen

variable {twin : Twin} {view : View} (unseen : twin.Unseen view)

include unseen

/-- A failure about a node and one about its twin look the same. -/
theorem fault_eq (cause : Failure.Cause) (node : Node) :
    view.fault cause (some node.line) = view.fault cause (some (twin.of node).line) := by
  rw [Node.line, Node.line, position_of, unseen.line]

/-- An unsupported node and its twin are refused or left out alike. -/
theorem leaveOut_same (policy : Policy) (position : Position) (shape : Unsupported Node) :
    view.Same (leaveOut policy ⟨position, .unsupported shape⟩)
      (value policy (twin.of ⟨position, .unsupported shape⟩)) := by
  have fault := unseen.fault_eq .unrecognized ⟨position, .unsupported shape⟩
  obtain ⟨other, e, note⟩ := unseen.leftOut position shape
  rw [e] at fault ⊢
  cases policy with
  | strict => exact .fail fault
  | permissive => exact .ok none (congrArg (fun note => [note]) note.symm)

/-- A run over a tree and a run over its twin, under the same policy. -/
def simulation (policy : Policy) : Simulation policy policy where
  twin := twin
  Rel := view.Same
  ok := .pure
  bind := .bind
  unsupported := unseen.leaveOut_same policy
  violated _ node := .fail (unseen.fault_eq .violated node)
  argumentShape node := .fail (unseen.fault_eq .argumentShape node)

/-- The two runs over one node, in value position. -/
theorem value_same (policy : Policy) (node : Node) :
    view.Same (value policy node) (value policy (twin.of node)) :=
  (unseen.simulation policy).value_rel node

/-- **Runs over a tree and its twin look the same,** for single nodes and for programs. -/
theorem sameEnd (settings : Settings) (node : Node) :
    view.SameEnd (ModelTree.ofNode settings node) (ModelTree.ofNode settings (twin.of node)) ∧
    view.SameEnd (ModelTree.ofProgram settings node)
      (ModelTree.ofProgram settings (twin.of node)) := by
  refine ⟨(unseen.value_same _ node).sameEnd, ?_⟩
  cases isRoot : node.isRoot with
  | false =>
    have twinIsNone := (twin.isRoot_of node).trans isRoot
    rw [ModelTree.ofProgram_of_not_isRoot _ isRoot, ModelTree.ofProgram_of_not_isRoot _ twinIsNone]
    exact .inr ⟨_, _, rfl, rfl, rfl⟩
  | true =>
    obtain ⟨position, body, rfl⟩ := Node.exists_of_isRoot isRoot
    cases body with
    | none => exact (View.Same.pure none).sameEnd
    | some body => exact (unseen.value_same _ body).sameEnd

end Unseen
end Lowering.Twin
end RubyModel
