/-
# Positions in the source program

A range of lines and a range of byte offsets, as the parser counts them.  In JSON a
position is an object with up to four members, or an array of up to four numbers in the
order of the fields; what is left out is zero.

This is `SourcePosition` of `SPEC_FULL.md`, §11.
-/

import RubyModel.Record.Slots

namespace RubyModel

/-- Where a node of the raw tree stands. -/
structure Position where
  startLine : UInt64 := 0
  endLine : UInt64 := 0
  startOffset : UInt64 := 0
  endOffset : UInt64 := 0
  deriving DecidableEq, Inhabited

namespace Position

open Record (Fault readLongWord)

/-- A position on a single line, without offsets. -/
def onLine (line : UInt64) : Position := { startLine := line, endLine := line }

/-- The position in messages: a range only if it ends on a later line. -/
def text (position : Position) : String :=
  if position.endLine > position.startLine then
    "lines " ++ toString position.startLine.toNat ++ "-" ++ toString position.endLine.toNat
  else "line " ++ toString position.startLine.toNat

/-- The JSON form: all four numbers. -/
def toJson (position : Position) : Json :=
  .object [
    ("start_line", .int position.startLine.toNat),
    ("end_line", .int position.endLine.toNat),
    ("start_offset", .int position.startOffset.toNat),
    ("end_offset", .int position.endOffset.toNat)]

/-- A number of a position; zero if it is left out. -/
def number (found : Option Json) : Except Fault UInt64 :=
  match found with
  | none => .ok 0
  | some found => readLongWord found

/-- Reads a position.  Members are looked at in the order of their names; of an array with
too many items the first four are looked at before its length. -/
def ofJson : Json → Except Fault Position
  | .object members => do
    let endLine ← number (Json.member? "end_line" members)
    let endOffset ← number (Json.member? "end_offset" members)
    let startLine ← number (Json.member? "start_line" members)
    let startOffset ← number (Json.member? "start_offset" members)
    return { startLine, endLine, startOffset, endOffset }
  | .array items => do
    let startLine ← number items[0]?
    let endLine ← number items[1]?
    let startOffset ← number items[2]?
    let endOffset ← number items[3]?
    if items.length ≤ 4 then return { startLine, endLine, startOffset, endOffset }
    else throw (.tooLong items.length)
  | other => .error (.wrongType other .position)

end Position
end RubyModel
