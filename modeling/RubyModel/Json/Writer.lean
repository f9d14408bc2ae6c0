/-
# Writing JSON text

Text is written in front of what follows it: `put … rest` is the text of a value and
then `rest`.  One writer serves both layouts:

| layout | between items | after a key |
| --- | --- | --- |
| `compact` | nothing | `:` |
| `indented` | a line break and two spaces for every open array or object | `: ` |

An empty array or object has nothing between its brackets in either layout.  Strings
are written as they are, apart from the quote, the backslash and the characters below
U+0020: these have the short escapes `\b \f \n \r \t` or are written `\u00xx`.

This is the writer of `SPEC_FULL.md`, §16.4; §16.3 says how the command chooses the layout.
-/

import RubyModel.Decimal.Text
import RubyModel.Json.Value

namespace RubyModel
namespace Json

/-- How the parts of a text are set apart. -/
inductive Layout where
  | compact
  | indented
  deriving DecidableEq, Inhabited

namespace Layout

/-- What comes before an item or a closing bracket inside `level` open brackets. -/
def gap (layout : Layout) (level : Nat) : List Char :=
  match layout with
  | .compact => []
  | .indented => '\n' :: List.replicate (2 * level) ' '

/-- What comes between a key and its value. -/
def colon : Layout → List Char
  | .compact => [':']
  | .indented => [':', ' ']

end Layout

/-- The text of a whole number. -/
def intText : Int → List Char
  | .ofNat n => Nat.toDigits 10 n
  | .negSucc n => '-' :: Nat.toDigits 10 (n + 1)

/-- The text of a double; what is not finite has no number text. -/
def floatText (value : Float) : List Char :=
  if value.isFinite then Decimal.text value else ['n', 'u', 'l', 'l']

/-- One character of a string. -/
def escapeChar (c : Char) : List Char :=
  match c.toNat with
  | 0x08 => ['\\', 'b']
  | 0x09 => ['\\', 't']
  | 0x0A => ['\\', 'n']
  | 0x0C => ['\\', 'f']
  | 0x0D => ['\\', 'r']
  | 0x22 => ['\\', c]
  | 0x5C => ['\\', c]
  | n =>
    if n < 0x20 then ['\\', 'u', '0', '0', Nat.digitChar (n / 16), Nat.digitChar (n % 16)]
    else [c]

/-- A string between quotes, and then `rest`. -/
def putString (s : String) (rest : List Char) : List Char :=
  '\x22' :: s.toList.foldr (fun c rest => escapeChar c ++ rest) ('\x22' :: rest)

mutual
/-- The text of a value inside `level` open brackets, and then `rest`. -/
def put (layout : Layout) (level : Nat) : Json → List Char → List Char
  | .null, rest => ['n', 'u', 'l', 'l'] ++ rest
  | .bool true, rest => ['t', 'r', 'u', 'e'] ++ rest
  | .bool false, rest => ['f', 'a', 'l', 's', 'e'] ++ rest
  | .int value, rest => intText value ++ rest
  | .float value, rest => floatText value ++ rest
  | .string value, rest => putString value rest
  | .array [], rest => '[' :: ']' :: rest
  | .array (item :: items), rest =>
    '[' :: layout.gap (level + 1) ++
      put layout (level + 1) item
        (putItems layout (level + 1) items (layout.gap level ++ ']' :: rest))
  | .object [], rest => '\x7b' :: '\x7d' :: rest
  | .object ((key, value) :: members), rest =>
    '\x7b' :: layout.gap (level + 1) ++
      putString key (layout.colon ++
        put layout (level + 1) value
          (putMembers layout (level + 1) members (layout.gap level ++ '\x7d' :: rest)))

/-- The items after the first, each with the comma before it. -/
def putItems (layout : Layout) (level : Nat) : List Json → List Char → List Char
  | [], rest => rest
  | item :: items, rest =>
    ',' :: layout.gap level ++ put layout level item (putItems layout level items rest)

/-- The members after the first, each with the comma before it. -/
def putMembers (layout : Layout) (level : Nat) : List (String × Json) → List Char → List Char
  | [], rest => rest
  | (key, value) :: members, rest =>
    ',' :: layout.gap level ++
      putString key (layout.colon ++ put layout level value (putMembers layout level members rest))
end

/-- The text of a value. -/
def text (value : Json) (layout : Layout := .compact) : String :=
  String.ofList (put layout 0 value [])

end Json
end RubyModel
