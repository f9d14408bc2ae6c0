/-
# Numbers in JSON text

A numeral is read byte by byte through the stages

    [-] (0 | 1-9 digit*) [. digit+] [(e | E) [+ | -] digit+]

and is then given its value.  A numeral without fraction and exponent that fits a
64-bit word is an integer; `-0` and everything else is a double.

The value of a double is found from a significand and a power of ten.  Digits go
into the significand as long as it stays a 64-bit word; a further digit of the
whole part raises the exponent by one, a further digit of the fraction is left
out.  The significand, rounded to a double, is then scaled by one multiplication
or division with a power of ten up to `10 ^ 308`, by two divisions below that.
A magnitude that a double cannot hold is refused, one too small is zero.

This is how the reader of `SPEC_FULL.md`, §16.4, values numbers.
-/

import RubyModel.Json.Value

namespace RubyModel
namespace Json

/-- The parts of a numeral; each list of digits is kept last digit first while it
is being read. -/
structure Numeral where
  negative : Bool := false
  whole : List Nat := []
  fraction : List Nat := []
  /-- The numeral has a fraction or an exponent. -/
  real : Bool := false
  exponentNegative : Bool := false
  exponent : List Nat := []

namespace Numeral

/-- How far a numeral has been read. -/
inductive Stage where
  | sign
  | zero
  | whole
  | point
  | fraction
  | mark
  | markSign
  | exponent
  deriving DecidableEq, Inhabited

/-- A numeral may end in this stage. -/
def Stage.complete : Stage → Bool
  | .zero | .whole | .fraction | .exponent => true
  | .sign | .point | .mark | .markSign => false

/-- What a byte does to a numeral that is being read. -/
inductive Step where
  /-- The byte belongs to the numeral. -/
  | next (stage : Stage) (numeral : Numeral)
  /-- The numeral ended before the byte. -/
  | ended
  /-- No numeral goes on like this. -/
  | malformed

/-- The decimal digit that a byte spells. -/
def digit? (byte : UInt8) : Option Nat :=
  if 0x30 ≤ byte ∧ byte ≤ 0x39 then some (byte.toNat - 0x30) else none

/-- The byte after the whole part: a point, an exponent mark, or the end. -/
def afterWhole (numeral : Numeral) (byte : UInt8) : Step :=
  if byte = 0x2E then .next .point { numeral with real := true }
  else if byte = 0x65 ∨ byte = 0x45 then .next .mark { numeral with real := true }
  else .ended

/-- The byte after the fraction: an exponent mark, or the end. -/
def afterFraction (numeral : Numeral) (byte : UInt8) : Step :=
  if byte = 0x65 ∨ byte = 0x45 then .next .mark numeral else .ended

/-- One more byte of a numeral. -/
def step (stage : Stage) (numeral : Numeral) (byte : UInt8) : Step :=
  match stage, digit? byte with
  | .sign, some 0 => .next .zero { numeral with whole := [0] }
  | .sign, some d => .next .whole { numeral with whole := [d] }
  | .sign, none => .malformed
  | .zero, some _ => .malformed
  | .zero, none => afterWhole numeral byte
  | .whole, some d => .next .whole { numeral with whole := d :: numeral.whole }
  | .whole, none => afterWhole numeral byte
  | .point, some d => .next .fraction { numeral with fraction := [d] }
  | .point, none => .malformed
  | .fraction, some d => .next .fraction { numeral with fraction := d :: numeral.fraction }
  | .fraction, none => afterFraction numeral byte
  | .mark, some d => .next .exponent { numeral with exponent := [d] }
  | .mark, none =>
    if byte = 0x2B then .next .markSign numeral
    else if byte = 0x2D then .next .markSign { numeral with exponentNegative := true }
    else .malformed
  | .markSign, some d => .next .exponent { numeral with exponent := [d] }
  | .markSign, none => .malformed
  | .exponent, some d => .next .exponent { numeral with exponent := d :: numeral.exponent }
  | .exponent, none => .ended

/-- The largest significand, `2 ^ 64 - 1`. -/
def maxSignificand : Nat := 18446744073709551615

/-- The largest exponent that is not taken for an overflow, `2 ^ 31 - 1`. -/
def maxExponent : Nat := 2147483647

/-- Takes digits into the significand while it fits, and gives the digits left. -/
def gather : Nat → List Nat → Nat × List Nat
  | significand, [] => (significand, [])
  | significand, d :: rest =>
    if significand * 10 + d ≤ maxSignificand then gather (significand * 10 + d) rest
    else (significand, d :: rest)

/-- The double nearest to `10 ^ n`, for `n ≤ 308`. -/
def tenTo (n : Nat) : Float := Float.ofScientific 1 false n

/-- The double for `significand * 10 ^ exponent`, if a double can hold it. -/
def scale (significand : Nat) (exponent : Int) : Option Float :=
  let base := significand.toUInt64.toFloat
  match exponent with
  | .ofNat n =>
    if n ≤ 308 then
      let value := base * tenTo n
      if value.isInf then none else some value
    else if significand = 0 then some base
    else none
  | .negSucc n =>
    if n + 1 ≤ 308 then some (base / tenTo (n + 1))
    else if n + 1 ≤ 616 then some (base / tenTo 308 / tenTo (n + 1 - 308))
    else some 0.0

/-- The double with the numeral's sign. -/
def signed (negative : Bool) (value : Float) : Json :=
  .float (if negative then -value else value)

/-- The largest magnitude of a negative 64-bit word, `2 ^ 63`. -/
def maxNegative : Nat := 9223372036854775808

/-- A whole numeral whose digits fit a significand: `-0` and what no 64-bit word
holds are doubles. -/
def ofWhole (negative : Bool) (significand : Nat) : Json :=
  if !negative then .int significand
  else if 0 < significand ∧ significand ≤ maxNegative then .int (-significand)
  else .float (-significand.toUInt64.toFloat)

/-- The numeral's value; `none` if its magnitude is out of range. -/
def value (numeral : Numeral) : Option Json :=
  let (significand, excess) := gather 0 numeral.whole.reverse
  if !numeral.real && excess.isEmpty then some (ofWhole numeral.negative significand)
  else
    let fraction := numeral.fraction.reverse
    let (significand, unused) := gather significand fraction
    let shift : Int := (excess.length : Int) - ((fraction.length - unused.length : Nat) : Int)
    let magnitude := numeral.exponent.foldr (fun d n => n * 10 + d) 0
    if magnitude ≤ maxExponent then
      let exponent := if numeral.exponentNegative then shift - magnitude else shift + magnitude
      (scale significand exponent).map (signed numeral.negative)
    else if significand ≠ 0 ∧ !numeral.exponentNegative then none
    else some (signed numeral.negative 0.0)

end Numeral
end Json
end RubyModel
