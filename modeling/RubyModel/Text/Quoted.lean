/-
# Quoted text in messages

A text is quoted so that it can be read on one line: the quote, the backslash and the
usual controls have short escapes, and a character that cannot be seen by itself is
written by its code point, `\u{…}` in lower-case hexadecimal.

The messages of `SPEC_FULL.md`, §16.1, quote names in this way.
-/

import RubyModel.Text.Combining
import RubyModel.Text.Unprintable

namespace RubyModel
namespace Text

/-- A character by its code point. -/
def byCode (c : Char) : List Char :=
  ['\\', 'u', '\x7b'] ++ Nat.toDigits 16 c.toNat ++ ['\x7d']

/-- One character of a quoted text. -/
def quoteChar (c : Char) : List Char :=
  match c.toNat with
  | 0x00 => ['\\', '0']
  | 0x09 => ['\\', 't']
  | 0x0A => ['\\', 'n']
  | 0x0D => ['\\', 'r']
  | 0x22 => ['\\', c]
  | 0x5C => ['\\', c]
  | _ => if isCombining c || isUnprintable c then byCode c else [c]

/-- The text between double quotes. -/
def quoted (s : String) : String :=
  "\"" ++ String.ofList (s.toList.flatMap quoteChar) ++ "\""

end Text
end RubyModel
