/-!
# Binary floating point

Numbers of a binary floating point format, and rounding of exact values to them. Everything is
computed on natural numbers: a value is a fraction, and a rounded value a significand times a power
of two.
-/

namespace Highlighter

/-! ## Formats -/

/-- A binary floating point format. -/
structure BinaryFormat where
  /-- The number of bits of a significand. -/
  precision : Nat
  /-- The smallest exponent of a significand, which counts units of the last bit. -/
  minExponent : Int
  /-- The largest exponent of a significand. -/
  maxExponent : Int
deriving DecidableEq

/-- The format of 32 bits. -/
def BinaryFormat.single : BinaryFormat := ⟨24, -149, 104⟩

/-- The format of 64 bits. -/
def BinaryFormat.double : BinaryFormat := ⟨53, -1074, 971⟩

/-- A value without sign, `significand * 2 ^ exponent`. -/
structure Magnitude where
  significand : Nat
  exponent : Int
deriving DecidableEq

/-- The magnitude of zero. -/
def Magnitude.zero : Magnitude := ⟨0, 0⟩

/-! ## Fractions -/

/-- A fraction of natural numbers. -/
structure Fraction where
  num : Nat
  den : Nat

namespace Fraction

/-- A number times a power of a base, whose exponent may be negative. -/
def scaled (n base : Nat) (exponent : Int) : Fraction :=
  if 0 ≤ exponent then ⟨n * base.pow exponent.toNat, 1⟩ else ⟨n, base.pow (-exponent).toNat⟩

/-- The product of two fractions. -/
def mul (a b : Fraction) : Fraction := ⟨a.num * b.num, a.den * b.den⟩

/-- The quotient of two fractions. -/
def div (a b : Fraction) : Fraction := ⟨a.num * b.den, a.den * b.num⟩

/-- Whether one fraction is less than another. -/
def lt (a b : Fraction) : Bool := a.num * b.den < b.num * a.den

/-- Whether one fraction is at most another. -/
def le (a b : Fraction) : Bool := a.num * b.den ≤ b.num * a.den

/-- The largest integer that is not larger. -/
def floor (a : Fraction) : Nat := a.num / a.den

/-- The nearest integer, and the even one of two. -/
def round (a : Fraction) : Nat :=
  let q := a.num / a.den
  let twice := 2 * (a.num % a.den)
  if twice < a.den ∨ twice = a.den ∧ q % 2 = 0 then q else q + 1

end Fraction

/-- The value of a magnitude. -/
def Magnitude.value (m : Magnitude) : Fraction := .scaled m.significand 2 m.exponent

/-! ## Rounding -/

/-- The exponent that lets the significand of a positive value use all bits of the format, as far as
the format has such an exponent. -/
def BinaryFormat.exponentFor (f : BinaryFormat) (v : Fraction) : Int :=
  let e := (v.num.log2 : Int) - v.den.log2 - f.precision
  let e := if Nat.pow 2 f.precision ≤ (v.div (.scaled 1 2 e)).floor then e + 1 else e
  max e f.minExponent

/-- The nearest value of a format, and the one with an even significand of two. Values that are too
large have none. -/
def BinaryFormat.round? (f : BinaryFormat) (v : Fraction) : Option Magnitude :=
  if v.num = 0 then some .zero
  else
    let e := f.exponentFor v
    let s := (v.div (.scaled 1 2 e)).round
    let m : Magnitude := if s = Nat.pow 2 f.precision then ⟨s / 2, e + 1⟩ else ⟨s, e⟩
    if m.exponent ≤ f.maxExponent then some m else none

/-- The nearest value of a format to a decimal number. Exponents far outside the format are decided
without writing the number out. -/
def BinaryFormat.ofDecimal? (f : BinaryFormat) (digits : Nat) (exponent : Int) : Option Magnitude :=
  let bound : Int := 2 * f.precision - 2 * f.minExponent
  if digits = 0 then some .zero
  else if bound < exponent then none
  else if exponent < -bound - digits.log2 then some .zero
  else f.round? (.scaled digits 10 exponent)

/-! ## Numbers -/

/-- A floating point number. -/
inductive BinaryNumber where
  | nan
  | infinite (negative : Bool)
  | finite (negative : Bool) (magnitude : Magnitude)
deriving DecidableEq

end Highlighter
