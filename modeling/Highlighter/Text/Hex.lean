/-!
# Hexadecimal digits
-/

namespace Highlighter.Hex

/-- The value of a hexadecimal digit of either case. -/
def value? (c : Char) : Option Nat :=
  if '0' ≤ c ∧ c ≤ '9' then some (c.toNat - '0'.toNat)
  else if 'a' ≤ c ∧ c ≤ 'f' then some (c.toNat - 'a'.toNat + 10)
  else if 'A' ≤ c ∧ c ≤ 'F' then some (c.toNat - 'A'.toNat + 10)
  else none

/-- The number that some hexadecimal digits write. -/
def number? (digits : List Char) : Option Nat :=
  digits.foldlM (fun n c ↦ (value? c).map (16 * n + ·)) 0

/-- The digits of a number, in lower case. -/
def digits (n : Nat) : List Char := Nat.toDigits 16 n

/-- The two digits of a byte, in upper case. -/
def byteText (n : UInt8) : String :=
  String.ofList [(Nat.digitChar (n.toNat / 16)).toUpper, (Nat.digitChar (n.toNat % 16)).toUpper]

end Highlighter.Hex
