import Highlighter.Region

/-!
# Source texts

Inside the library a position counts characters. Outside it, tokens and spans are given by the byte
offsets of the text in UTF-8. A `Source` holds the text as an array of characters together with the
offset of every position, and is the one place where the two are turned into each other.
-/

namespace Highlighter

/-- The offsets of the positions before, between and after some characters, from `offset` on. -/
def offsetsFrom (offset : Nat) : List Char → List Nat
  | [] => [offset]
  | c :: cs => offset :: offsetsFrom (offset + c.utf8Size) cs

/-- A text as characters, with the byte offset of each position. -/
structure Source where
  chars : Array Char
  offsets : Array Nat
  offsets_eq : offsets = (offsetsFrom 0 chars.toList).toArray

namespace Source

/-- The characters of a text. -/
def ofChars (chars : Array Char) : Source where
  chars
  offsets := (offsetsFrom 0 chars.toList).toArray
  offsets_eq := rfl

/-- The source of a text. -/
def ofString (text : String) : Source := ofChars text.toList.toArray

theorem size_chars_ofString (text : String) : (ofString text).chars.size = text.length := by
  simp [ofString, ofChars, String.length_toList]

/-- The text of a source. -/
def text (s : Source) : String := String.ofList s.chars.toList

/-- The number of characters. -/
def size (s : Source) : Nat := s.chars.size

/-- The region of the whole text. -/
def whole (s : Source) : Region := ⟨0, s.size, Nat.zero_le _⟩

/-- The text in a region. -/
def slice (s : Source) (r : Region) : String :=
  String.ofList (s.chars.extract r.start r.stop).toList

/-! ## Byte offsets -/

/-- The byte offset of a position. -/
def offset (s : Source) (pos : Nat) : Nat :=
  s.offsets[pos]?.getD 0

/-- The length of the text in bytes. -/
def byteSize (s : Source) : Nat := s.offset s.size

/-- The position that has a byte offset, unless the offset lies inside a character or behind the
text. -/
def position? (s : Source) (offset : Nat) : Option Nat :=
  s.offsets.findIdx? (· == offset)

/-- The first position whose byte offset is at least the given one. -/
def positionFrom? (s : Source) (offset : Nat) : Option Nat :=
  s.offsets.findIdx? (offset ≤ ·)

/-- The offset after the character that begins at an offset. Where none begins, the result lies
behind the text. -/
def offsetAfter (s : Source) (offset : Nat) : Nat :=
  match s.position? offset with
  | some pos => if pos < s.size then s.offset (pos + 1) else s.byteSize + 1
  | none => s.byteSize + 1

/-- The region between two byte offsets, if both lie between characters and in this order. -/
def region? (s : Source) (start stop : Nat) : Option Region := do
  let a ← s.position? start
  let b ← s.position? stop
  if h : a ≤ b then some ⟨a, b, h⟩ else none

end Source

end Highlighter
