/-
# Settings of a run

What happens to raw nodes that have no counterpart in the model, and the names under which
the command reads its settings from the environment.

`SPEC_FULL.md`, §4.5 and §16.3: `UnknownNodePolicy`, `TransformConfig` and the variable
`RUBYMM_SKIP_UNKNOWN_NODES`.
-/

import RubyModel.Vocabulary

namespace RubyModel

/-- What is done about a raw node without a counterpart in the model. -/
inductive Policy where
  /-- The run fails. -/
  | strict
  /-- The node is left out with a warning. -/
  | permissive
  deriving DecidableEq

namespace Policy

/-- Nodes are skipped rather than refused. -/
def skipsUnknown : Policy → Bool
  | .strict => false
  | .permissive => true

/-- The policy for a switch that says whether to skip. -/
def ofSkip (skip : Bool) : Policy := if skip then .permissive else .strict

/-- The name of the policy. -/
def text : Policy → String
  | .strict => "strict"
  | .permissive => "permissive"

/-- A policy is told by whether it skips nodes. -/
@[simp] theorem ofSkip_skipsUnknown (policy : Policy) : ofSkip policy.skipsUnknown = policy := by
  cases policy <;> rfl

@[simp] theorem skipsUnknown_ofSkip (skip : Bool) : (ofSkip skip).skipsUnknown = skip := by
  cases skip <;> rfl

end Policy

/-- The settings that a run reads. -/
structure Settings where
  unknownNodes : Policy := .strict
  deriving DecidableEq

namespace Settings

/-- The settings with another policy. -/
def withUnknownNodes (settings : Settings) (policy : Policy) : Settings :=
  { settings with unknownNodes := policy }

/-- The settings in one line. -/
def text (settings : Settings) : String := "unknown_nodes=" ++ settings.unknownNodes.text

end Settings

/-- The variable of the environment that selects the permissive policy. -/
def skipVariable : String := "RUBYMM_SKIP_UNKNOWN_NODES"

/-- The variable of the environment that holds the log filter. -/
def logVariable : String := "RUBYMM_LOG"

end RubyModel
