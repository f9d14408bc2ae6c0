/-
# Diagnostics

A warning about a raw node that was left out of the model.

This is `Diagnostic` of `SPEC_FULL.md`, §16.2 (`skipped`, `with_hint`).  When a warning is read, two
sorts of values are left out that no written warning has: an array of the members, which is
refused here, and an object in which a key is repeated, of which the last member counts here.
-/

import RubyModel.Raw.Entry

namespace RubyModel

open Record (Fault readText readLongWord)

/-- A raw node that was left out, and where. -/
structure Diagnostic where
  message : String
  nodeType : String
  line : UInt64
  hint : Option String
  deriving DecidableEq

namespace Diagnostic

/-- The warning that a node was skipped. -/
def skipped (node : Raw.Node) : Diagnostic where
  message := "skipping " ++ node.typeName ++ " at " ++ node.position.text
  nodeType := node.typeName
  line := node.line
  hint := none

/-- The warning with a hint. -/
def withHint (diagnostic : Diagnostic) (hint : String) : Diagnostic :=
  { diagnostic with hint := some hint }

/-- The warning about a node of an unsupported kind. -/
def leftOut (node : Raw.Node) : Diagnostic :=
  (skipped node).withHint "the node has no metamodel counterpart and is left out"

/-- The text of the warning. -/
def text (diagnostic : Diagnostic) : String :=
  "warning: " ++ diagnostic.message ++
    match diagnostic.hint with
    | none => ""
    | some hint => "; " ++ hint

/-- The JSON form of a warning. -/
def toJson (diagnostic : Diagnostic) : Json :=
  .object [
    ("message", .string diagnostic.message),
    ("node_type", .string diagnostic.nodeType),
    ("line", .int diagnostic.line.toNat),
    ("hint", match diagnostic.hint with
      | none => .null
      | some hint => .string hint)]

/-- A member that may be absent or `null`. -/
def readHint : Option Json → Except Fault (Option String)
  | none | some .null => .ok none
  | some found => (readText found).map some

/-- What a member holds, if it is there. -/
def readMember {α : Type} (read : Json → Except Fault α) : Option Json → Except Fault (Option α)
  | none => .ok none
  | some found => (read found).map some

/-- A member that must be there. -/
def require {α : Type} (name : String) : Option α → Except Fault α
  | none => .error (.missing name)
  | some value => .ok value

/-- Reads a warning: the members that are there in the order of their names, then those
that are missing in the order of their declaration. -/
def ofJson : Json → Except Fault Diagnostic
  | .object members => do
    let hint ← readHint (Json.member? "hint" members)
    let line ← readMember readLongWord (Json.member? "line" members)
    let message ← readMember readText (Json.member? "message" members)
    let nodeType ← readMember readText (Json.member? "node_type" members)
    let message ← require "message" message
    let nodeType ← require "node_type" nodeType
    let line ← require "line" line
    return { message, nodeType, line, hint }
  | other => .error (.wrongType other .diagnostic)

end Diagnostic
end RubyModel
