/-
# Why a JSON value is not the record it should be

| fault | text |
| --- | --- |
| `missing` | the field is required and not there |
| `wrongType` | a value of another type stands there |
| `outOfRange` | an integer stands there, but not one of the expected range |
| `unknownVariant` | the type name is none of the listed ones |
| `tooLong` | an array has more items than there are places |

The texts are those that a load error carries (`SPEC_FULL.md`, §16.1).
-/

import RubyModel.Decimal.Text
import RubyModel.Json.Value
import RubyModel.Text.Quoted

namespace RubyModel
namespace Record

/-- What is expected in a place. -/
inductive Expected where
  | text
  | flag
  | sequence
  | int64
  | float64
  | word32
  | word64
  | position
  | variantName
  | variantIndex (count : Nat)
  | model
  | modelTree
  | diagnostic

/-- The expectation in messages. -/
def Expected.phrase : Expected → String
  | .text => "a string"
  | .flag => "a boolean"
  | .sequence => "a sequence"
  | .int64 => "i64"
  | .float64 => "f64"
  | .word32 => "u32"
  | .word64 => "usize"
  | .position => "struct SourcePosition"
  | .variantName => "variant identifier"
  | .variantIndex count => "variant index 0 <= i < " ++ toString count
  | .model => "internally tagged enum ModelNode"
  | .modelTree => "struct ModelTree"
  | .diagnostic => "struct Diagnostic"

/-- Why a JSON value is not the record it should be. -/
inductive Fault where
  | missing (field : String)
  | wrongType (found : Json) (expected : Expected)
  | outOfRange (found : Int) (expected : Expected)
  | unknownVariant (name : String) (listed : List String)
  | tooLong (length : Nat)

/-- A value in messages: scalars are shown, arrays and objects only named. -/
def describe : Json → String
  | .null => "null"
  | .bool true => "boolean `true`"
  | .bool false => "boolean `false`"
  | .int value => "integer `" ++ toString value ++ "`"
  | .float value => "floating point `" ++ String.ofList (Decimal.text value) ++ "`"
  | .string value => "string " ++ Text.quoted value
  | .array _ => "sequence"
  | .object _ => "map"

/-- A name in backquotes. -/
def backquoted (name : String) : String := "`" ++ name ++ "`"

/-- The text of a fault. -/
def Fault.message : Fault → String
  | .missing field => "missing field " ++ backquoted field
  | .wrongType found expected =>
    "invalid type: " ++ describe found ++ ", expected " ++ expected.phrase
  | .outOfRange found expected =>
    "invalid value: integer " ++ backquoted (toString found) ++ ", expected " ++ expected.phrase
  | .unknownVariant name listed =>
    "unknown variant " ++ backquoted name ++ ", expected one of " ++
      ", ".intercalate (listed.map backquoted)
  | .tooLong length =>
    "invalid length " ++ toString length ++ ", expected fewer elements in array"

end Record
end RubyModel
