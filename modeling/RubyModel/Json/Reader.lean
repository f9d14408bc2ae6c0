/-
# Reading JSON text

Text is read byte by byte.  The reader keeps the arrays and objects that are open
around the present place (`Frame`, innermost first) and what it is in the middle
of (`Mode`); `step` moves both over one byte.

| outcome | when |
| --- | --- |
| a value | one value was read, with nothing but white space around it |
| `unfinished` | every byte could be part of a text, but the text ended too early |
| `malformed` | a byte cannot stand where it stands |
| `trailing` | a complete value is followed by something else |

White space is space, tab, line feed and carriage return.  Opening an array or an
object inside `limit` open ones is malformed.  A string is checked to be UTF-8
when it is closed; the four bytes after `\u` are checked once all are there; a
leading surrogate must be followed by an escaped trailing one.

This is the reader of `SPEC_FULL.md`, §16.4; a text that it refuses is the malformed JSON of §11.
-/

import RubyModel.Json.Numeral

namespace RubyModel
namespace Json

/-- Why text is not one JSON value. -/
inductive Fault where
  | unfinished
  | malformed
  | trailing (value : Json)

/-- An array or object that is open, with what it holds so far, last first. -/
inductive Frame where
  | array (before : List Json)
  | object (before : List (String × Json)) (key : String)

/-- What a string is read for. -/
inductive Role where
  | value
  | key (before : List (String × Json))

/-- The place inside a string. -/
inductive Escape where
  /-- Between characters. -/
  | none
  /-- After a backslash. -/
  | slash
  /-- After `\u`, with the bytes read since, last first, and a leading surrogate. -/
  | hex (read : List UInt8) (lead : Option Nat)
  /-- After a leading surrogate: a backslash must follow. -/
  | wantSlash (lead : Nat)
  /-- After a leading surrogate and a backslash: `u` must follow. -/
  | wantU (lead : Nat)

/-- What is being read. -/
inductive Mode where
  /-- A value starts here. -/
  | value
  /-- The first item of an array starts here, or the array ends. -/
  | item
  /-- A key starts here, or, if `closable`, the object ends. -/
  | key (before : List (String × Json)) (closable : Bool)
  /-- A colon follows the key. -/
  | colon (before : List (String × Json)) (key : String)
  /-- The rest of `null`, `true` or `false` follows. -/
  | literal (rest : List UInt8) (value : Json)
  /-- Inside a string; its bytes are kept last first. -/
  | text (role : Role) (escape : Escape) (bytes : List UInt8)
  /-- Inside a number. -/
  | numeral (stage : Numeral.Stage) (numeral : Numeral)
  /-- A value is complete. -/
  | done (value : Json)

/-- The state of the reader. -/
structure ReaderState where
  stack : List Frame := []
  mode : Mode := .value

namespace ReaderState

/-- White space of JSON text. -/
def isBlank (byte : UInt8) : Bool :=
  byte == 0x20 || byte == 0x09 || byte == 0x0A || byte == 0x0D

/-- The value of a hexadecimal digit. -/
def hexDigit? (byte : UInt8) : Option Nat :=
  if 0x30 ≤ byte ∧ byte ≤ 0x39 then some (byte.toNat - 0x30)
  else if 0x41 ≤ byte ∧ byte ≤ 0x46 then some (byte.toNat - 0x41 + 10)
  else if 0x61 ≤ byte ∧ byte ≤ 0x66 then some (byte.toNat - 0x61 + 10)
  else Option.none

/-- The 16-bit unit spelled by four hexadecimal digits. -/
def hexUnit? (a b c d : UInt8) : Option Nat := do
  let a ← hexDigit? a
  let b ← hexDigit? b
  let c ← hexDigit? c
  let d ← hexDigit? d
  return ((a * 16 + b) * 16 + c) * 16 + d

/-- The byte that a one-letter escape stands for. -/
def escaped? (byte : UInt8) : Option UInt8 :=
  match byte with
  | 0x22 => some 0x22
  | 0x5C => some 0x5C
  | 0x2F => some 0x2F
  | 0x62 => some 0x08
  | 0x66 => some 0x0C
  | 0x6E => some 0x0A
  | 0x72 => some 0x0D
  | 0x74 => some 0x09
  | _ => Option.none

/-- The bytes, last first, with the UTF-8 bytes of the code point added. -/
def pushCode (code : Nat) (bytes : List UInt8) : List UInt8 :=
  (String.utf8EncodeChar (Char.ofNat code)).reverse ++ bytes

/-- A 16-bit unit after `\u`: a character, a leading surrogate that waits for its
other half, or the half it waited for. -/
def unit (role : Role) (bytes : List UInt8) (lead : Option Nat) (code : Nat) : Except Fault Mode :=
  match lead with
  | .none =>
    if 0xDC00 ≤ code ∧ code ≤ 0xDFFF then .error .malformed
    else if 0xD800 ≤ code ∧ code ≤ 0xDBFF then .ok (.text role (.wantSlash code) bytes)
    else .ok (.text role .none (pushCode code bytes))
  | some lead =>
    if 0xDC00 ≤ code ∧ code ≤ 0xDFFF then
      .ok (.text role .none
        (pushCode (0x10000 + (lead - 0xD800) * 0x400 + (code - 0xDC00)) bytes))
    else .error .malformed

/-- The end of a string: its bytes must be UTF-8. -/
def close (role : Role) (bytes : List UInt8) : Except Fault Mode :=
  match String.fromUTF8? ⟨bytes.reverse.toArray⟩ with
  | .none => .error .malformed
  | some s =>
    match role with
    | .value => .ok (.done (.string s))
    | .key before => .ok (.colon before s)

/-- One byte inside a string. -/
def textStep (role : Role) (escape : Escape) (bytes : List UInt8) (byte : UInt8) :
    Except Fault Mode :=
  match escape with
  | .none =>
    if byte = 0x22 then close role bytes
    else if byte = 0x5C then .ok (.text role .slash bytes)
    else if byte < 0x20 then .error .malformed
    else .ok (.text role .none (byte :: bytes))
  | .slash =>
    if byte = 0x75 then .ok (.text role (.hex [] .none) bytes)
    else match escaped? byte with
      | some b => .ok (.text role .none (b :: bytes))
      | .none => .error .malformed
  | .hex [c, b, a] lead =>
    match hexUnit? a b c byte with
    | some code => unit role bytes lead code
    | .none => .error .malformed
  | .hex read lead => .ok (.text role (.hex (byte :: read) lead) bytes)
  | .wantSlash lead =>
    if byte = 0x5C then .ok (.text role (.wantU lead) bytes) else .error .malformed
  | .wantU lead =>
    if byte = 0x75 then .ok (.text role (.hex [] (some lead)) bytes) else .error .malformed

/-- The byte that starts a value. -/
def start (limit : Nat) (stack : List Frame) (byte : UInt8) : Except Fault ReaderState :=
  match byte with
  | 0x6E => .ok ⟨stack, .literal [0x75, 0x6C, 0x6C] .null⟩
  | 0x74 => .ok ⟨stack, .literal [0x72, 0x75, 0x65] (.bool true)⟩
  | 0x66 => .ok ⟨stack, .literal [0x61, 0x6C, 0x73, 0x65] (.bool false)⟩
  | 0x22 => .ok ⟨stack, .text .value .none []⟩
  | 0x2D => .ok ⟨stack, .numeral .sign { negative := true }⟩
  | 0x5B => if stack.length < limit then .ok ⟨.array [] :: stack, .item⟩ else .error .malformed
  | 0x7B => if stack.length < limit then .ok ⟨stack, .key [] true⟩ else .error .malformed
  | _ =>
    match Numeral.step .sign {} byte with
    | .next stage numeral => .ok ⟨stack, .numeral stage numeral⟩
    | .ended | .malformed => .error .malformed

/-- The byte after a complete value: a comma, the end of what it stands in, or
white space. -/
def after (stack : List Frame) (value : Json) (byte : UInt8) : Except Fault ReaderState :=
  if isBlank byte then .ok ⟨stack, .done value⟩
  else match stack with
    | [] => .error (.trailing value)
    | .array before :: stack =>
      if byte = 0x2C then .ok ⟨.array (value :: before) :: stack, .value⟩
      else if byte = 0x5D then .ok ⟨stack, .done (.array (value :: before).reverse)⟩
      else .error .malformed
    | .object before key :: stack =>
      if byte = 0x2C then .ok ⟨stack, .key ((key, value) :: before) false⟩
      else if byte = 0x7D then .ok ⟨stack, .done (.object ((key, value) :: before).reverse)⟩
      else .error .malformed

/-- One byte. -/
def step (limit : Nat) (state : ReaderState) (byte : UInt8) : Except Fault ReaderState :=
  let stack := state.stack
  match state.mode with
  | .value => if isBlank byte then .ok state else start limit stack byte
  | .item =>
    if isBlank byte then .ok state
    else if byte = 0x5D then
      match stack with
      | .array before :: stack => .ok ⟨stack, .done (.array before.reverse)⟩
      | _ => .error .malformed
    else start limit stack byte
  | .key before closable =>
    if isBlank byte then .ok state
    else if byte = 0x22 then .ok ⟨stack, .text (.key before) .none []⟩
    else if byte = 0x7D ∧ closable then .ok ⟨stack, .done (.object before.reverse)⟩
    else .error .malformed
  | .colon before key =>
    if isBlank byte then .ok state
    else if byte = 0x3A then .ok ⟨.object before key :: stack, .value⟩
    else .error .malformed
  | .literal (next :: rest) value =>
    if byte = next then
      .ok ⟨stack, if rest.isEmpty then .done value else .literal rest value⟩
    else .error .malformed
  | .literal [] value => after stack value byte
  | .text role escape bytes =>
    match textStep role escape bytes byte with
    | .ok mode => .ok ⟨stack, mode⟩
    | .error fault => .error fault
  | .numeral stage numeral =>
    match Numeral.step stage numeral byte with
    | .next stage numeral => .ok ⟨stack, .numeral stage numeral⟩
    | .malformed => .error .malformed
    | .ended =>
      match numeral.value with
      | some value => after stack value byte
      | .none => .error .malformed
  | .done value => after stack value byte

/-- All bytes, one after the other. -/
def feed (limit : Nat) : ReaderState → List UInt8 → Except Fault ReaderState
  | state, [] => .ok state
  | state, byte :: rest =>
    match step limit state byte with
    | .ok state => feed limit state rest
    | .error fault => .error fault

/-- The end of the text. -/
def finish (state : ReaderState) : Except Fault Json :=
  match state.mode with
  | .done value => if state.stack.isEmpty then .ok value else .error .unfinished
  | .numeral stage numeral =>
    if stage.complete then
      match numeral.value with
      | some value => if state.stack.isEmpty then .ok value else .error .unfinished
      | .none => .error .malformed
    else .error .unfinished
  | _ => .error .unfinished

end ReaderState

/-- Arrays and objects may be open inside each other up to this depth. -/
def depthLimit : Nat := 127

/-- Reads one JSON value from text. -/
def read (bytes : List UInt8) (limit : Nat := depthLimit) : Except Fault Json :=
  match ReaderState.feed limit {} bytes with
  | .ok state => state.finish
  | .error fault => .error fault

end Json
end RubyModel
