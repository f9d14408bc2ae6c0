/-
# Loading values from text

Text is loaded in two steps: it is read as JSON, and the JSON value is read as what is
wanted.  The faults of the first step are told apart only by whether the text ended too
early.

`SPEC_FULL.md`, §11 and §16.1: a tree is loaded by `from_json`, and what can go wrong is a
`CstLoadError`.
-/

import RubyModel.Json.Writer
import RubyModel.Raw.Written

namespace RubyModel

/-- Why a text could not be loaded. -/
inductive LoadError where
  /-- The text ended inside a JSON value. -/
  | unfinished
  /-- The text is not JSON. -/
  | malformed
  /-- The JSON value is not what is wanted. -/
  | invalid (fault : Record.Fault)

namespace LoadError

/-- The sort of failure. -/
def category : LoadError → String
  | .unfinished => "eof"
  | .malformed => "syntax"
  | .invalid _ => "data"

/-- What is wrong with the value; the wording for text that is not JSON is left open. -/
def message? : LoadError → Option String
  | .unfinished | .malformed => none
  | .invalid fault => some fault.message

/-- The failure of a text that is not one JSON value. -/
def ofFault : Json.Fault → LoadError
  | .unfinished => .unfinished
  | .malformed => .malformed
  | .trailing _ => .malformed

end LoadError

/-- The bytes of a text. -/
def bytesOf (text : String) : List UInt8 := text.toUTF8.data.toList

/-- Loads a value from the whole of a text. -/
def load {α : Type} (ofJson : Json → Except Record.Fault α) (bytes : List UInt8) :
    Except LoadError α :=
  match Json.read bytes with
  | .error fault => .error (.ofFault fault)
  | .ok value => (ofJson value).mapError .invalid

namespace Raw

/-- Loads a tree.  What is wrong with the tree is reported before what follows it in the
text. -/
def Node.load (bytes : List UInt8) : Except LoadError Node :=
  match Json.read bytes with
  | .error (.trailing value) =>
    match Node.ofJson value with
    | .error fault => .error (.invalid fault)
    | .ok _ => .error .malformed
  | .error fault => .error (.ofFault fault)
  | .ok value => (Node.ofJson value).mapError .invalid

/-- The text of a tree. -/
def Node.text (node : Node) : String := node.toJson.text

/-- Writing the tree and loading that text gives the tree again. -/
def Node.roundTrips (node : Node) : Bool :=
  match Node.load (bytesOf node.text) with
  | .ok loaded => loaded.same node
  | .error _ => false

end Raw
end RubyModel
