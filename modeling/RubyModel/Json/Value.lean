/-
# JSON values

A value as it is read from text.  A number keeps the class its spelling gives it:

| spelling | constructor |
| --- | --- |
| whole, in the range of 64-bit words | `int` |
| any other number | `float` |

An object keeps its members in text order, repeated keys included; `member?`
looks a key up, and of a repeated key the last member counts.

The values, their reader and their writer are those that `SPEC_FULL.md`, §16.4, uses for trees and
models.
-/

namespace RubyModel

/-- A JSON value. -/
inductive Json where
  | null
  | bool (value : Bool)
  | int (value : Int)
  | float (value : Float)
  | string (value : String)
  | array (items : List Json)
  | object (members : List (String × Json))
  deriving Inhabited

namespace Json

/-- The value of the last member named `key`. -/
def member? (key : String) : List (String × Json) → Option Json
  | [] => none
  | (name, value) :: rest =>
    match member? key rest with
    | some later => some later
    | none => if name = key then some value else none

@[simp] theorem member?_nil (key : String) : member? key [] = none := rfl

mutual
/-- The two values are alike: member by member in order, numbers by value. -/
def same : Json → Json → Bool
  | .null, .null => true
  | .bool a, .bool b => a == b
  | .int a, .int b => a == b
  | .float a, .float b => a == b
  | .string a, .string b => a == b
  | .array a, .array b => sameItems a b
  | .object a, .object b => sameMembers a b
  | _, _ => false

/-- The two lists are alike, item by item. -/
def sameItems : List Json → List Json → Bool
  | [], [] => true
  | a :: as, b :: bs => same a b && sameItems as bs
  | _, _ => false

/-- The two lists are alike, name by name and value by value. -/
def sameMembers : List (String × Json) → List (String × Json) → Bool
  | [], [] => true
  | (k, a) :: as, (l, b) :: bs => k == l && (same a b && sameMembers as bs)
  | _, _ => false
end

end Json
end RubyModel
