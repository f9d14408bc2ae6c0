/-
# Models of programs

A whole program is a tree with a program root at its top; its model is the model of what
the root holds.  Any other node can be turned into a model by itself.

`SPEC_FULL.md`, §6 and §17: `ofProgram`, `ofNode` and `ofText` are `tree_to_model`, `node_to_model`
and `parse_json`.
-/

import RubyModel.Loading
import RubyModel.Lowering.Value
import RubyModel.Model.Written

namespace RubyModel

open Raw (Node)

/-- The node is the root of a program. -/
def Raw.Node.isRoot : Node → Bool
  | ⟨_, .root _⟩ => true
  | _ => false

/-- The root of a program holds at most one node. -/
theorem Raw.Node.exists_of_isRoot {node : Node} (h : node.isRoot = true) :
    ∃ position body, node = ⟨position, .root body⟩ := by
  obtain ⟨position, shape⟩ := node
  cases shape with
  | root body => exact ⟨position, body, rfl⟩
  | _ => cases h

/-- Why the text of a program has no model. -/
inductive ProgramError where
  | load (error : LoadError)
  | lower (failure : Failure)

namespace ModelTree

/-- The model tree of an outcome; a failure drops the warnings. -/
def ofOutcome (outcome : Outcome (Option Model)) : Except Failure ModelTree :=
  match outcome.result with
  | .error failure => .error failure
  | .ok root => .ok ⟨root, outcome.diagnostics⟩

/-- A model tree is a result with the warnings before it. -/
theorem ofOutcome_eq_ok {outcome : Outcome (Option Model)} {tree : ModelTree} :
    ofOutcome outcome = .ok tree ↔
      outcome.result = .ok tree.root ∧ outcome.diagnostics = tree.diagnostics := by
  obtain ⟨failure | root, diagnostics⟩ := outcome
  · exact ⟨nofun, nofun⟩
  · obtain ⟨found, noted⟩ := tree
    simp [ofOutcome]

/-- A failure drops the warnings before it. -/
theorem ofOutcome_eq_error {outcome : Outcome (Option Model)} {failure : Failure} :
    ofOutcome outcome = .error failure ↔ outcome.result = .error failure := by
  obtain ⟨other | root, diagnostics⟩ := outcome <;> simp [ofOutcome]

/-- The model of a node. -/
def ofNode (settings : Settings) (node : Node) : Except Failure ModelTree :=
  ofOutcome (Lowering.value settings.unknownNodes node)

/-- The model of a program. -/
def ofProgram (settings : Settings) (root : Node) : Except Failure ModelTree :=
  match root with
  | ⟨_, .root body⟩ => ofOutcome (Lowering.child settings.unknownNodes body)
  | other => .error (.rootExpected other.typeName)

/-- What has no program root at its top is refused. -/
theorem ofProgram_of_not_isRoot (settings : Settings) {node : Node} (h : node.isRoot = false) :
    ofProgram settings node = .error (.rootExpected node.typeName) := by
  obtain ⟨position, shape⟩ := node
  cases shape with
  | root => cases h
  | _ => rfl

/-- The model of the program in a text. -/
def ofText (settings : Settings) (bytes : List UInt8) : Except ProgramError ModelTree :=
  match Node.load bytes with
  | .error error => .error (.load error)
  | .ok root => (ofProgram settings root).mapError .lower

end ModelTree
end RubyModel
