import Highlighter.Decimal.Layout

/-!
# Numbers of JSON documents

A number is kept as it is written. Its value is an integer where it is written as one and fits into
64 bits, and a floating point number otherwise.

The floating point value is computed quickly rather than exactly: as many leading digits as fit into
64 bits are taken, rounded, and multiplied or divided by a rounded power of ten. For numbers with
many digits the result can therefore differ from the nearest value in its last bits.
-/

namespace Highlighter

/-- A number as it is written. The digits are numbers below ten. -/
structure JsonNumber where
  isNegative : Bool
  whole : List Nat
  /-- The digits after the point, if there is one. -/
  fraction : Option (List Nat)
  /-- Whether the exponent is negative, and its digits, if there is one. -/
  exponent : Option (Bool × List Nat)
deriving DecidableEq

/-- The value of a number. -/
inductive NumberValue where
  /-- An integer from zero on. -/
  | natural (n : Nat)
  /-- The integer `-n`. -/
  | negated (n : Nat)
  | float (isNegative : Bool) (magnitude : Magnitude)
deriving DecidableEq

namespace JsonNumber

/-- The number that digits write. -/
def ofDigits (digits : List Nat) : Nat := digits.foldl (fun n d ↦ 10 * n + d) 0

/-- Appends digits to a number as long as it stays below `2 ^ 64`, and gives the digits that are
left. -/
def appendDigits (n : Nat) : List Nat → Nat × List Nat
  | [] => (n, [])
  | d :: ds => if 10 * n + d < Nat.pow 2 64 then appendDigits (10 * n + d) ds else (n, d :: ds)

/-! ## Floating point values -/

/-- The largest power of ten that is multiplied or divided by at once. -/
def maxPower : Nat := 308

/-- A power of ten, rounded. -/
def power (e : Nat) : Fraction :=
  ((BinaryFormat.double.round? (.scaled 1 10 e)).getD .zero).value

/-- The rounded quotient of a value and a power of ten. -/
def divide (m : Magnitude) (e : Nat) : Magnitude :=
  (BinaryFormat.double.round? (m.value.div (power e))).getD .zero

/-- Divides by the largest power of ten some number of times, or until nothing is left. -/
def divideRepeatedly (m : Magnitude) : Nat → Magnitude
  | 0 => m
  | n + 1 => if m.significand = 0 then m else divideRepeatedly (divide m maxPower) n

/-- Multiplies by a power of ten. Values that become too large have no result. -/
def scale? (m : Magnitude) (e : Int) : Option Magnitude :=
  if 0 ≤ e then
    if m.significand = 0 then some m
    else if e.natAbs ≤ maxPower then BinaryFormat.double.round? (m.value.mul (power e.natAbs))
    else none
  else
    let times := (e.natAbs - 1) / maxPower
    some (divide (divideRepeatedly m times) (e.natAbs - times * maxPower))

/-- The exponent that is written, which is at most `2 ^ 31 - 1` in size. -/
def writtenExponent? (n : JsonNumber) : Option Int :=
  match n.exponent with
  | none => some 0
  | some (isNegative, digits) =>
    let e : Int := ofDigits digits
    if e < Nat.pow 2 31 then some (if isNegative then -e else e) else none

/-- The floating point value without sign. Where the exponent is larger than can be held, only zeros
and negative exponents have a value, which is zero. -/
def magnitude? (n : JsonNumber) : Option Magnitude :=
  let (s, left) := appendDigits 0 n.whole
  let fraction := n.fraction.getD []
  let (s, unused) := appendDigits s fraction
  let shift : Int := left.length - (fraction.length - unused.length)
  match n.writtenExponent? with
  | some e => (BinaryFormat.double.round? ⟨s, 1⟩).bind (scale? · (shift + e))
  | none => if s = 0 ∨ n.exponent.any (·.1) then some .zero else none

/-! ## Values -/

/-- The value of a number, unless it is too large. Zero with a sign is no integer, and neither is
what does not fit into 64 bits. -/
def value? (n : JsonNumber) : Option NumberValue :=
  let s := ofDigits n.whole
  let isInteger := n.fraction.isNone && n.exponent.isNone
  if isInteger && !n.isNegative && s < Nat.pow 2 64 then some (.natural s)
  else if isInteger && n.isNegative && 0 < s && s ≤ Nat.pow 2 63 then some (.negated s)
  else n.magnitude?.map (.float n.isNegative)

end JsonNumber

/-- Floating point numbers of documents are written out from `1e-5` up to `1e16`. -/
def NumberValue.layout : DecimalLayout := ⟨-5, 16, true⟩

/-- The text of a value. -/
def NumberValue.text : NumberValue → String
  | .natural n => DecimalLayout.digitText n
  | .negated n => "-" ++ DecimalLayout.digitText n
  | .float isNegative m => NumberValue.layout.numberText .double (.finite isNegative m)

end Highlighter
