/-
# The written form of raw trees

A node is written as an object with its type name, its position and the fields of its
kind; a node of an unlisted type has only the first two.  Reading is more lenient:

* members that the kind does not declare are ignored, whatever they hold;
* a position, an absent child and every field with a default may be left out;
* a type name that is not listed is kept, with its position, and nothing else is looked at.

The position of a node of a listed kind may not be `null`; one type name is reserved and
belongs to neither sort of node.

This is the serialized form of `SPEC_FULL.md`, §11, as `from_json` and `from_reader` load it.
-/

import RubyModel.Json.Reader
import RubyModel.Raw.Entry

namespace RubyModel
namespace Raw

open Record (Fault Members Rule)

/-- The members for the fields of a record. -/
def Entry.members : Entry Json → List (String × Json)
  | .listed kind slots => Record.members kind.fields slots
  | .unlisted _ => []

/-- The written form of a node whose children are written already. -/
def written (position : Position) (shape : Shape Json) : Json :=
  let entry := Entry.ofShape shape
  .object (("type", .string entry.typeName) :: ("position", position.toJson) :: entry.members)

/-- The written form of a tree. -/
def Node.toJson (node : Node) : Json := node.fold written

/-- The type name that no node may have. -/
def reservedName : String := "UNRECOGNIZED"

/-- The position of a node of a listed kind: left out, or a position. -/
def readPosition (members : Members Node) : Except Fault Position :=
  match members.value "position" with
  | none => .ok {}
  | some found => Position.ofJson found

/-- The position of a node of an unlisted type, which may also be `null`. -/
def readLoosePosition (members : Members Node) : Except Fault Position :=
  match members.value "position" with
  | none | some .null => .ok {}
  | some found => Position.ofJson found

/-- Reads a node with the given type name. -/
def readNode (typeName : String) (members : Members Node) : Except Fault Node :=
  match Kind.ofTypeName? typeName with
  | some kind => do
    let position ← readPosition members
    let slots ← Record.readSlots kind.fields members
    return ⟨position, Entry.shape (.listed kind slots)⟩
  | none =>
    if typeName = reservedName then do
      let _ ← readPosition members
      throw (.unknownVariant typeName (Kind.all.map Kind.typeName))
    else do
      let position ← readLoosePosition members
      return ⟨position, .unsupported (.unlisted typeName)⟩

/-- How raw trees are read: what has no type name is no node. -/
def rule : Rule Node where
  ofMembers _ members :=
    match members.value "type" with
    | some (.string typeName) => readNode typeName members
    | _ => .error (.missing "type")
  ofOther _ _ := .missing "type"

/-- Reads a tree from its written form. -/
def Node.ofJson (value : Json) : Except Fault Node := Record.decode rule false value

/-- The two trees are the same, as far as their written forms tell. -/
def Node.same (a b : Node) : Bool := a.toJson.same b.toJson

end Raw
end RubyModel
