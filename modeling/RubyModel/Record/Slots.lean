/-
# Records with declared fields

A kind of record is a list of fields.  What a record of that kind holds is one value
per field, a nested pair in the order of declaration (`Slots`).

| content | value | missing | `null` |
| --- | --- | --- | --- |
| `child` | at most one child | absent | absent |
| `node` | one child | a fault | read as a child |
| `nodes` | children | empty, unless required | a fault |
| `text` | a string | empty, unless required | a fault |
| `optionalText` | at most one string | absent | absent |
| `flag` | a truth value | false, unless required | a fault |
| `int` | a signed 64-bit word | a fault | a fault |
| `float` | a double; integers are converted | a fault | a fault |
| `word` | an unsigned 32-bit word | a fault | a fault |

Fields are looked at in the order of their names, those marked `early` before the
others, and the first fault is the one reported; a field that is missing is reported
only if all others are fine, the first in the order of declaration.

The rules are those of the derived readers and writers of `SPEC_FULL.md`, §16.4, for the fields of
§11 and §12.
-/

import RubyModel.Record.Fault

namespace RubyModel
namespace Record

/-- What a field holds. -/
inductive Content where
  | child
  | node
  | nodes
  | text
  | optionalText
  | flag
  | int
  | float
  | word
  deriving DecidableEq

/-- The values of a field, over a type of children. -/
@[reducible] def Content.Value (α : Type) : Content → Type
  | .child => Option α
  | .node => α
  | .nodes => List α
  | .text => String
  | .optionalText => Option String
  | .flag => Bool
  | .int => Int64
  | .float => Float
  | .word => UInt32

/-- A declared field. -/
structure Field where
  name : String
  content : Content
  /-- The field may not be missing, although its content has a default. -/
  required : Bool
  /-- The field is looked at before those that are not early. -/
  early : Bool

namespace Field

/-- A child that may be absent. -/
@[reducible] def child (name : String) : Field := ⟨name, .child, false, false⟩

/-- A child. -/
@[reducible] def node (name : String) : Field := ⟨name, .node, true, false⟩

/-- A list of children, empty if it is left out. -/
@[reducible] def nodes (name : String) : Field := ⟨name, .nodes, false, false⟩

/-- A string. -/
@[reducible] def text (name : String) : Field := ⟨name, .text, true, false⟩

/-- A string, empty if it is left out. -/
@[reducible] def textOrEmpty (name : String) : Field := ⟨name, .text, false, false⟩

/-- A string that may be absent. -/
@[reducible] def optionalText (name : String) : Field := ⟨name, .optionalText, false, false⟩

/-- A truth value, false if it is left out. -/
@[reducible] def flag (name : String) : Field := ⟨name, .flag, false, false⟩

/-- A signed 64-bit word. -/
@[reducible] def int (name : String) : Field := ⟨name, .int, true, false⟩

/-- A double. -/
@[reducible] def double (name : String) : Field := ⟨name, .float, true, false⟩

/-- An unsigned 32-bit word. -/
@[reducible] def word (name : String) : Field := ⟨name, .word, true, false⟩

/-- The field, but not to be left out. -/
@[reducible] def needed (field : Field) : Field := { field with required := true }

/-- The field, but looked at before the others. -/
@[reducible] def first (field : Field) : Field := { field with early := true }

end Field

/-- One `F` per field, as a nested pair. -/
@[reducible] def Fill (F : Field → Type) : List Field → Type
  | [] => Unit
  | field :: rest => F field × Fill F rest

/-- The values of a record, over a type of children. -/
@[reducible] def Slots (α : Type) (fields : List Field) : Type :=
  Fill (fun field => field.content.Value α) fields

namespace Content

/-- The value with its children replaced. -/
def map {α β : Type} (f : α → β) : (content : Content) → content.Value α → content.Value β
  | .child, value => value.map f
  | .node, value => f value
  | .nodes, value => value.map f
  | .text, value => value
  | .optionalText, value => value
  | .flag, value => value
  | .int, value => value
  | .float, value => value
  | .word, value => value

/-- The value of a field that is left out. -/
def default? {α : Type} : (content : Content) → Option (content.Value α)
  | .child => some none
  | .node => none
  | .nodes => some []
  | .text => some ""
  | .optionalText => some none
  | .flag => some false
  | .int => none
  | .float => none
  | .word => none

/-- The JSON form of a value whose children are JSON already; a double that is not finite is
written as if it were absent. -/
def toJson : (content : Content) → content.Value Json → Json
  | .child, none => .null
  | .child, some value => value
  | .node, value => value
  | .nodes, values => .array values
  | .text, value => .string value
  | .optionalText, none => .null
  | .optionalText, some value => .string value
  | .flag, value => .bool value
  | .int, value => .int value.toInt
  | .float, value => if value.isFinite then .float value else .null
  | .word, value => .int value.toNat

end Content

/-- The values with their children replaced. -/
def mapSlots {α β : Type} (f : α → β) : (fields : List Field) → Slots α fields → Slots β fields
  | [], _ => ()
  | field :: rest, (value, values) => (field.content.map f value, mapSlots f rest values)

/-- The members of a record whose children are JSON already, in the order of declaration. -/
def members : (fields : List Field) → Slots Json fields → List (String × Json)
  | [], _ => []
  | field :: rest, (value, values) =>
    (field.name, field.content.toJson value) :: members rest values

/-- What can be asked about the members of an object: a member's value, what it is as a
child, and what it is as a list of children. -/
structure Members (α : Type) where
  value : String → Option Json
  child : String → Option (Except Fault α)
  children : String → Option (Except Fault (List α))

/-- A string. -/
def readText : Json → Except Fault String
  | .string value => .ok value
  | found => .error (.wrongType found .text)

/-- A truth value. -/
def readFlag : Json → Except Fault Bool
  | .bool value => .ok value
  | found => .error (.wrongType found .flag)

/-- A signed 64-bit word. -/
def readInt : Json → Except Fault Int64
  | .int value =>
    if -9223372036854775808 ≤ value ∧ value < 9223372036854775808 then .ok (Int64.ofInt value)
    else .error (.outOfRange value .int64)
  | found => .error (.wrongType found .int64)

/-- The double nearest to a 64-bit word. -/
def floatOfInt : Int → Float
  | .ofNat n => n.toUInt64.toFloat
  | .negSucc n => -(n + 1).toUInt64.toFloat

/-- A double; an integer is converted. -/
def readFloat : Json → Except Fault Float
  | .float value => .ok value
  | .int value => .ok (floatOfInt value)
  | found => .error (.wrongType found .float64)

/-- An unsigned 32-bit word. -/
def readWord : Json → Except Fault UInt32
  | .int value =>
    if 0 ≤ value ∧ value < 4294967296 then .ok value.toNat.toUInt32
    else .error (.outOfRange value .word32)
  | found => .error (.wrongType found .word32)

/-- An unsigned 64-bit word. -/
def readLongWord : Json → Except Fault UInt64
  | .int value =>
    if 0 ≤ value ∧ value < 18446744073709551616 then .ok value.toNat.toUInt64
    else .error (.outOfRange value .word64)
  | found => .error (.wrongType found .word64)

/-- The value of a member that is there. -/
def readContent {α : Type} (members : Members α) (name : String) (found : Json) :
    (content : Content) → Except Fault (content.Value α)
  | .child =>
    match found, members.child name with
    | .null, _ => .ok none
    | _, some child => child.map some
    | _, none => .ok none
  | .node => (members.child name).getD (.error (.missing name))
  | .nodes => (members.children name).getD (.ok [])
  | .text => readText found
  | .optionalText =>
    match found with
    | .null => .ok none
    | found => (readText found).map some
  | .flag => readFlag found
  | .int => readInt found
  | .float => readFloat found
  | .word => readWord found

/-- What a field was found to hold: a value, or `none` if it is missing and may not be. -/
abbrev Found (α : Type) (field : Field) : Type :=
  Except Fault (Option (field.content.Value α))

/-- Looks at one field. -/
def look {α : Type} (members : Members α) (field : Field) : Found α field :=
  match members.value field.name with
  | none => .ok (if field.required then none else field.content.default?)
  | some found => (readContent members field.name found field.content).map some

/-- Looks at all fields. -/
def lookAll {α : Type} (members : Members α) :
    (fields : List Field) → Fill (Found α) fields
  | [] => ()
  | field :: rest => (look members field, lookAll members rest)

/-- The faults that were found, each with its field. -/
def faults {α : Type} : (fields : List Field) → Fill (Found α) fields → List (Field × Fault)
  | [], _ => []
  | field :: rest, (.error fault, others) => (field, fault) :: faults rest others
  | _ :: rest, (.ok _, others) => faults rest others

/-- The values, if no field is missing. -/
def gather {α : Type} :
    (fields : List Field) → Fill (Found α) fields → Except Fault (Slots α fields)
  | [], _ => .ok ()
  | field :: rest, (found, others) => do
    match ← found with
    | some value => return (value, ← gather rest others)
    | none => throw (.missing field.name)

/-- The first field is looked at no later than the second. -/
def Field.before (a b : Field) : Bool :=
  if a.early = b.early then a.name ≤ b.name else a.early

/-- The fault of the field that is looked at first. -/
def firstFault : List (Field × Fault) → Option (Field × Fault)
  | [] => none
  | (field, fault) :: rest =>
    match firstFault rest with
    | none => some (field, fault)
    | some (other, second) =>
      if field.before other then some (field, fault) else some (other, second)

/-- Reads the fields of a record. -/
def readSlots {α : Type} (fields : List Field) (members : Members α) :
    Except Fault (Slots α fields) :=
  let found := lookAll members fields
  match firstFault (faults fields found) with
  | some (_, fault) => .error fault
  | none => gather fields found

/-- How a type of trees is read from JSON: from the members of an object, `nested` if the
object is a child, or else from what is no object. -/
structure Rule (α : Type) where
  ofMembers : (nested : Bool) → Members α → Except Fault α
  ofOther : (nested : Bool) → Json → Fault

mutual
/-- Reads a tree. -/
def decode {α : Type} (rule : Rule α) (nested : Bool) : Json → Except Fault α
  | .object members =>
    rule.ofMembers nested
      { value := fun key => Json.member? key members
        child := fun key => decodeMember rule key members
        children := fun key => decodeMembers rule key members }
  | other => .error (rule.ofOther nested other)

/-- Reads the last member named `key` as a child. -/
def decodeMember {α : Type} (rule : Rule α) (key : String) :
    List (String × Json) → Option (Except Fault α)
  | [] => none
  | (name, value) :: rest =>
    match decodeMember rule key rest with
    | some later => some later
    | none => if name = key then some (decode rule true value) else none

/-- Reads the last member named `key` as a list of children. -/
def decodeMembers {α : Type} (rule : Rule α) (key : String) :
    List (String × Json) → Option (Except Fault (List α))
  | [] => none
  | (name, value) :: rest =>
    match decodeMembers rule key rest with
    | some later => some later
    | none => if name = key then some (decodeList rule value) else none

/-- Reads an array of children. -/
def decodeList {α : Type} (rule : Rule α) : Json → Except Fault (List α)
  | .array items => decodeItems rule items
  | other => .error (.wrongType other .sequence)

/-- Reads children one after the other. -/
def decodeItems {α : Type} (rule : Rule α) : List Json → Except Fault (List α)
  | [] => .ok []
  | item :: items => do
    let first ← decode rule true item
    let others ← decodeItems rule items
    return first :: others
end

end Record
end RubyModel
