/-
# Why a raw tree has no model

| failure | node it is about |
| --- | --- |
| `unrecognized` | a node of an unsupported kind, under the strict policy |
| `violated` | a node that does not have the shape its place calls for |
| `argumentShape` | a node that can never be an argument |
| `rootExpected` | none: what should be a program is not a program root |

These are the error kinds of `SPEC_FULL.md`, §7 and §16.1 (`TransformError`), with their texts;
an argument fails as §15 decides.
-/

import RubyModel.Raw.Entry

namespace RubyModel

/-- What is wrong with the shape of a node. -/
inductive Violation where
  /-- The node is no value, but stands where a value is wanted. -/
  | notAValue
  /-- A node of another kind is wanted. -/
  | kindExpected (kind : Raw.Kind)
  /-- The node has no rescue clause. -/
  | clauseMissing
  /-- Keys and values of a hash do not pair up. -/
  | oddHash (count : Nat)
  /-- An element is picked by more than one index. -/
  | severalIndices (count : Nat)
  /-- The right operand of a logical assignment is no assignment. -/
  | assignmentExpected (found : String)

/-- What is wrong with the node. -/
def Violation.message (node : Raw.Node) : Violation → String
  | .notAValue => node.typeName ++ " found in value position"
  | .kindExpected kind => kind.typeName ++ " expected but " ++ node.typeName ++ " found"
  | .clauseMissing => Raw.Kind.rescueBody.typeName ++ " expected but nothing found"
  | .oddHash count => "hash with an odd number of elements (" ++ toString count ++ ")"
  | .severalIndices count =>
    "single index expected in element assignment but " ++ toString count ++ " found"
  | .assignmentExpected found =>
    "assignment expected as right operand but " ++ found ++ " found"

/-- Why a raw tree has no model. -/
inductive Failure where
  | unrecognized (node : Raw.Node)
  | violated (violation : Violation) (node : Raw.Node)
  | argumentShape (node : Raw.Node)
  | rootExpected (typeName : String)

namespace Failure

/-- The causes of failures, whatever node they are about. -/
inductive Cause where
  | unrecognized
  | violated
  | argumentShape
  | rootExpected
  deriving DecidableEq

/-- The cause of the failure. -/
def cause : Failure → Cause
  | .unrecognized _ => .unrecognized
  | .violated _ _ => .violated
  | .argumentShape _ => .argumentShape
  | .rootExpected _ => .rootExpected

/-- The node that the failure is about. -/
def node? : Failure → Option Raw.Node
  | .unrecognized node => some node
  | .violated _ node => some node
  | .argumentShape node => some node
  | .rootExpected _ => none

/-- The line on which that node starts. -/
def line? (failure : Failure) : Option UInt64 := failure.node?.map Raw.Node.line

/-- The line of a node, at the end of a message. -/
def lineNote (node : Raw.Node) : String := ", start line: " ++ toString node.line.toNat

/-- The text of the failure. -/
def message : Failure → String
  | .unrecognized node => "Unknown node type: type=" ++ node.typeName ++ lineNote node
  | .violated violation node => "Assertion failed: " ++ violation.message node ++ lineNote node
  | .argumentShape node => "Unknown node type in args: type=" ++ node.typeName ++ lineNote node
  | .rootExpected typeName => "Root expected but " ++ typeName ++ " found"

end Failure
end RubyModel
