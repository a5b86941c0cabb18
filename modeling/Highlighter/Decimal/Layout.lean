import Highlighter.Decimal.Shortest

/-!
# Layout of decimal numbers

Where the digits of a number are known, a layout says how they are written: which magnitudes are
written out and which with an exponent, and how the exponent is marked.
-/

namespace Highlighter

/-- How a decimal number is written. -/
structure DecimalLayout where
  /-- The exponent of the leading digit from which on numbers are written out. -/
  plainFrom : Int
  /-- The exponent of the leading digit from which on they are not written out any more. -/
  plainBelow : Int
  /-- Whether a positive exponent has a sign. -/
  plusSign : Bool

namespace DecimalLayout

/-- The digits of a number as text. -/
def digitText (n : Nat) : String := String.ofList (Nat.toDigits 10 n)

/-- A number of zeros. -/
def zeros (n : Nat) : String := String.ofList (List.replicate n '0')

/-- Drops the zeros at the end of the digits. -/
def trimZeros (d : Decimal) : Decimal :=
  if h : d.digits ≠ 0 ∧ d.digits % 10 = 0 then trimZeros ⟨d.digits / 10, d.exponent + 1⟩ else d
termination_by d.digits
decreasing_by omega

/-- Writes a number out, with at least one digit on each side of the point. -/
def plain (digits : String) (exponent : Int) : String :=
  let count : Int := digits.length
  if 0 ≤ exponent then digits ++ zeros exponent.toNat ++ ".0"
  else if 0 < count + exponent then
    let whole := (count + exponent).toNat
    String.ofList (digits.toList.take whole) ++ "." ++ String.ofList (digits.toList.drop whole)
  else "0." ++ zeros (-(count + exponent)).toNat ++ digits

/-- Writes a number with one digit before the point and an exponent. -/
def scientific (l : DecimalLayout) (digits : String) (leading : Int) : String :=
  let fraction := String.ofList (digits.toList.drop 1)
  String.ofList (digits.toList.take 1)
    ++ (if fraction.isEmpty then "" else "." ++ fraction)
    ++ "e"
    ++ (if leading < 0 then "-" ++ digitText (-leading).toNat
        else (if l.plusSign then "+" else "") ++ digitText leading.toNat)

/-- The text of a decimal number. -/
def text (l : DecimalLayout) (d : Decimal) : String :=
  let d := trimZeros d
  let digits := digitText d.digits
  let leading : Int := d.exponent + digits.length - 1
  if d.digits = 0 then "0.0"
  else if l.plainFrom ≤ leading ∧ leading < l.plainBelow then plain digits d.exponent
  else l.scientific digits leading

/-- The text of a floating point number. -/
def numberText (l : DecimalLayout) (f : BinaryFormat) : BinaryNumber → String
  | .nan => "NaN"
  | .infinite negative => if negative then "-inf" else "inf"
  | .finite negative m => (if negative then "-" else "") ++ l.text (f.shortest m)

end DecimalLayout

end Highlighter
