/-
# Decimal text of doubles

The digits are the shortest that read back (`Decimal.Shortest`).  Where the point
goes is decided by the power of ten `e` of the first digit:

| `e` | text |
| --- | --- |
| `-5 ≤ e < 16` | digits with a point, at least one digit on either side |
| otherwise | `d.ddde+X` or `d.ddde-X`, without a point for a single digit |

This is how a double is spelled in the written forms of `SPEC_FULL.md`, §16.4.
-/

import RubyModel.Decimal.Shortest

namespace RubyModel
namespace Decimal

/-- Where a number text changes from positional to exponent form. -/
structure Style where
  /-- The least power of ten of a first digit that is written positionally. -/
  least : Int
  /-- The first power of ten that is written with an exponent again. -/
  bound : Int

/-- Numbers from `0.00001` up to below `10 ^ 16` are written positionally. -/
def Style.json : Style := ⟨-5, 16⟩

/-- The digit zero, `n` times. -/
def zeros (n : Nat) : List Char := List.replicate n '0'

/-- The text of a positive decimal. -/
def layout (style : Style) (d : Decimal) : List Char :=
  let digits := Nat.toDigits 10 d.digits
  let first : Int := d.exponent + (digits.length - 1 : Nat)
  if style.least ≤ first ∧ first < style.bound then
    if 0 ≤ d.exponent then digits ++ zeros d.exponent.toNat ++ ['.', '0']
    else if 0 ≤ first then
      digits.take (first.toNat + 1) ++ '.' :: digits.drop (first.toNat + 1)
    else '0' :: '.' :: zeros ((-first).toNat - 1) ++ digits
  else
    let mantissa :=
      match digits with
      | [d] => [d]
      | d :: rest => d :: '.' :: rest
      | [] => []
    mantissa ++ 'e' :: (if first < 0 then '-' else '+') :: Nat.toDigits 10 first.natAbs

/-- The text of a finite double; zero keeps its sign. -/
def text (value : Float) (style : Style := .json) : List Char :=
  let magnitude := Magnitude.ofBits value.toBits
  let body :=
    if magnitude.significand = 0 then ['0', '.', '0'] else layout style magnitude.shortest
  if value.toBits >>> 63 = 1 then '-' :: body else body

end Decimal
end RubyModel
