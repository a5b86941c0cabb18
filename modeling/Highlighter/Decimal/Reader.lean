import Highlighter.Decimal.Binary

/-!
# Reading floating point numbers

A number is written with an optional sign, digits, and a point and an exponent if wanted; at least
one digit stands before or after the point. Infinity and the number that is none are written as
words, in letters of either case.
-/

namespace Highlighter.BinaryFormat

/-- The number that decimal digits write. -/
def digitsValue (digits : List Char) : Nat :=
  digits.foldl (fun n c ↦ 10 * n + (c.toNat - '0'.toNat)) 0

/-- Reads an integer with an optional sign. -/
def readInteger? : List Char → Option Int
  | '-' :: ds => if !ds.isEmpty && ds.all Char.isDigit then some (-(digitsValue ds : Int)) else none
  | '+' :: ds => if !ds.isEmpty && ds.all Char.isDigit then some (digitsValue ds) else none
  | ds => if !ds.isEmpty && ds.all Char.isDigit then some (digitsValue ds) else none

/-- Reads the exponent, where there is one. -/
def readExponent? : List Char → Option Int
  | [] => some 0
  | c :: rest => if c = 'e' ∨ c = 'E' then readInteger? rest else none

/-- Reads a number without sign. -/
def readUnsigned? (f : BinaryFormat) (negative : Bool) (text : List Char) : Option BinaryNumber :=
  let word := text.map Char.toLower
  if word = ['i', 'n', 'f'] ∨ word = ['i', 'n', 'f', 'i', 'n', 'i', 't', 'y'] then
    some (.infinite negative)
  else if word = ['n', 'a', 'n'] then some .nan
  else
    let whole := text.takeWhile Char.isDigit
    let rest := text.dropWhile Char.isDigit
    let (fraction, rest) := match rest with
      | '.' :: rest => (rest.takeWhile Char.isDigit, rest.dropWhile Char.isDigit)
      | rest => ([], rest)
    if whole.isEmpty && fraction.isEmpty then none
    else (readExponent? rest).map fun e ↦
      match f.ofDecimal? (digitsValue (whole ++ fraction)) (e - fraction.length) with
      | some m => .finite negative m
      | none => .infinite negative

/-- Reads a number. -/
def read? (f : BinaryFormat) : List Char → Option BinaryNumber
  | '-' :: rest => f.readUnsigned? true rest
  | '+' :: rest => f.readUnsigned? false rest
  | text => f.readUnsigned? false text

end Highlighter.BinaryFormat
