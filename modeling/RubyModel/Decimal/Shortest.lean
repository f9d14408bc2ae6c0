/-
# The fewest digits that name a double

A finite double is `m * 2 ^ q`.  The reals that round to it form an interval around
it, whose ends belong to it if and only if `m` is even.  Its shortest decimal is the
point of the coarsest grid `10 ^ k * ℤ` that meets the interval; of two such points
the nearer is taken, and of two equally near the one with the even digit.

Everything is counted in quarters of `2 ^ q`, so that the interval has whole ends
also below a power of two, where the next smaller double is only half as far away:

| | quarters |
| --- | --- |
| the double | `4 m` |
| upper end | `4 m + 2` |
| lower end | `4 m - 2`, or `4 m - 1` if `m` is the least normal significand |

Doubles are printed with these digits in the output of `SPEC_FULL.md`, §16.4.
-/

namespace RubyModel

/-- A decimal `digits * 10 ^ exponent`. -/
structure Decimal where
  digits : Nat
  exponent : Int
  deriving DecidableEq, Inhabited

namespace Decimal

/-- The magnitude of a double, `significand * 2 ^ exponent`; `narrow` says that the
next smaller double is only half as far away as the next larger one. -/
structure Magnitude where
  significand : Nat
  exponent : Int
  narrow : Bool
  deriving DecidableEq, Inhabited

/-- The least significand of a normal double, `2 ^ 52`. -/
def normalUnit : Nat := 4503599627370496

/-- The magnitude in the bits of a finite double. -/
def Magnitude.ofBits (bits : UInt64) : Magnitude :=
  let fraction := bits.toNat % normalUnit
  let biased : Nat := bits.toNat / normalUnit % 2048
  if biased = 0 then ⟨fraction, -1074, false⟩
  else ⟨normalUnit + fraction, (biased : Int) - 1075, fraction = 0 ∧ 1 < biased⟩

/-- The fraction `2 ^ exponent`. -/
def twoTo (exponent : Int) : Nat × Nat :=
  match exponent with
  | .ofNat n => (Nat.pow 2 n, 1)
  | .negSucc n => (1, Nat.pow 2 (n + 1))

/-- The fraction `10 ^ exponent`. -/
def tenTo (exponent : Int) : Nat × Nat :=
  match exponent with
  | .ofNat n => (Nat.pow 10 n, 1)
  | .negSucc n => (1, Nat.pow 10 (n + 1))

/-- The point of the grid `10 ^ k * ℤ` that rounds to the magnitude and is nearest
to it, if any does. -/
def onGrid (m : Magnitude) (k : Int) : Option Decimal :=
  let (num, den) := twoTo (m.exponent - 2)
  let (tenNum, tenDen) := tenTo k
  -- one quarter is `unit` and one step of the grid is `grid`, in a common measure
  let unit := num * tenDen
  let grid := tenNum * den
  let value := 4 * m.significand * unit
  let upper := value + 2 * unit
  let lower := value - (if m.narrow then 1 else 2) * unit
  let inside (n : Nat) : Bool :=
    if m.significand % 2 = 0 then lower ≤ n ∧ n ≤ upper else lower < n ∧ n < upper
  let below := value / grid
  let above := below + 1
  match inside (below * grid) && 0 < below, inside (above * grid) with
  | false, false => none
  | true, false => some ⟨below, k⟩
  | false, true => some ⟨above, k⟩
  | true, true =>
    let down := value - below * grid
    let up := above * grid - value
    if down < up ∨ down = up ∧ below % 2 = 0 then some ⟨below, k⟩ else some ⟨above, k⟩

/-- A power of ten above the magnitude: `2 ^ e ≤ 10 ^ (e * 0.30103 + 1)`. -/
def topGrid (m : Magnitude) : Int :=
  ((m.significand.log2 : Int) + 1 + m.exponent) * 30103 / 100000 + 2

/-- The shortest decimal that rounds to the magnitude. A double never needs more
than seventeen digits, and the first grids lie above it. -/
def Magnitude.shortest (m : Magnitude) : Decimal :=
  if m.significand = 0 then ⟨0, 0⟩
  else ((List.range 24).findSome? fun n => onGrid m (topGrid m - (n : Nat))).getD ⟨0, 0⟩

end Decimal
end RubyModel
