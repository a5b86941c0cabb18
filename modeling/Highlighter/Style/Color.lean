import Highlighter.Text.Hex
import Highlighter.Text.Words

/-!
# Colours

Colours are written with hexadecimal digits: three of one digit each, or three or four channels of
two. The text of a colour leaves out the fourth channel where it is opaque.
-/

namespace Highlighter

/-- A colour with an alpha channel. -/
structure Color where
  red : UInt8
  green : UInt8
  blue : UInt8
  alpha : UInt8 := 0xff
deriving DecidableEq, Repr

namespace Color

/-- The channel that one digit writes, as if it stood there twice. -/
def shortChannel? (c : Char) : Option UInt8 := do
  return UInt8.ofNat ((← Hex.value? c) * 17)

/-- The channel that two characters write. A plus sign may stand before a single digit. -/
def channel? (a b : Char) : Option UInt8 := do
  if a = '+' then return UInt8.ofNat (← Hex.value? b)
  return UInt8.ofNat ((← Hex.value? a) * 16 + (← Hex.value? b))

/-- The colour of the characters after the number sign. -/
def ofHexChars? : List Char → Option Color
  | [r, g, b] => do return ⟨← shortChannel? r, ← shortChannel? g, ← shortChannel? b, 0xff⟩
  | [r, r', g, g', b, b'] => do return ⟨← channel? r r', ← channel? g g', ← channel? b b', 0xff⟩
  | [r, r', g, g', b, b', a, a'] => do
    return ⟨← channel? r r', ← channel? g g', ← channel? b b', ← channel? a a'⟩
  | _ => none

/-- Reads a colour, with white space around it. -/
def ofString? (text : String) : Option Color :=
  match Words.trimChars text.toList with
  | '#' :: hex => ofHexChars? hex
  | _ => none

/-- The text of a colour. -/
def text (c : Color) : String :=
  "#" ++ Hex.byteText c.red ++ Hex.byteText c.green ++ Hex.byteText c.blue
    ++ if c.alpha = 0xff then "" else Hex.byteText c.alpha

end Color

end Highlighter
