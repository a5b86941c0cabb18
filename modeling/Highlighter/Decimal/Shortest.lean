import Highlighter.Decimal.Binary

/-!
# Shortest decimal numbers

The shortest decimal number that is read back as a given floating point number. The values that are
rounded to the number form an interval. Decimal grids are tried from coarse to fine, and on each the
two neighbours of the number; the first grid with a neighbour in the interval gives the fewest
digits, and of two such neighbours the nearer one is taken.
-/

namespace Highlighter

/-- A decimal number, `digits * 10 ^ exponent`. -/
structure Decimal where
  digits : Nat
  exponent : Int
deriving DecidableEq

/-- The value of a decimal number. -/
def Decimal.value (d : Decimal) : Fraction := .scaled d.digits 10 d.exponent

/-- The interval of the values that are rounded to a magnitude. -/
structure RoundingInterval where
  lower : Fraction
  upper : Fraction
  /-- Whether the ends belong to it. -/
  closed : Bool

namespace RoundingInterval

/-- Whether a value lies in an interval. -/
def contains (i : RoundingInterval) (v : Fraction) : Bool :=
  if i.closed then i.lower.le v && v.le i.upper else i.lower.lt v && v.lt i.upper

/-- The interval of a magnitude. Below a power of two values lie twice as close. -/
def ofMagnitude (f : BinaryFormat) (m : Magnitude) : RoundingInterval where
  lower :=
    if m.significand = Nat.pow 2 (f.precision - 1) ∧ f.minExponent < m.exponent then
      .scaled (4 * m.significand - 1) 2 (m.exponent - 2)
    else .scaled (2 * m.significand - 1) 2 (m.exponent - 1)
  upper := .scaled (2 * m.significand + 1) 2 (m.exponent - 1)
  closed := m.significand % 2 == 0

/-- The point of a decimal grid that lies in the interval, the one nearer to `v` if two neighbours
of `v` do. -/
def gridPoint? (i : RoundingInterval) (v : Fraction) (exponent : Int) : Option Decimal :=
  let scaled := v.div (.scaled 1 10 exponent)
  let below : Decimal := ⟨scaled.floor, exponent⟩
  let above : Decimal := ⟨scaled.floor + 1, exponent⟩
  match i.contains below.value, i.contains above.value with
  | true, true => some ⟨scaled.round, exponent⟩
  | true, false => some below
  | false, true => some above
  | false, false => none

end RoundingInterval

/-- The shortest decimal number that is read back as a magnitude. A grid with one more digit than
any magnitude needs is the last one. -/
def BinaryFormat.shortest (f : BinaryFormat) (m : Magnitude) : Decimal :=
  if m.significand = 0 then ⟨0, 0⟩
  else
    let v := m.value
    let i := RoundingInterval.ofMagnitude f m
    let coarsest : Int := ((v.num.log2 : Int) - v.den.log2 + 1) * 30103 / 100000 + 1
    let grids := (List.range (f.precision / 3 + 4)).map fun (k : Nat) ↦ coarsest - k
    (grids.findSome? (i.gridPoint? v)).getD ⟨0, 0⟩

end Highlighter
