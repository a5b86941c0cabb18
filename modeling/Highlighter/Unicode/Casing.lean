import Highlighter.Unicode.Recent

/-!
# Lower case

Lower-casing a text is a mapping of characters with two exceptions: one letter becomes two
characters, and a capital sigma becomes the final sigma at the end of a word.
-/

namespace Highlighter.Unicode

/-- Looks up a code point in ascending pairs by halving. -/
def lookupPair (pairs : Array (Nat × Nat)) (n lo hi : Nat) : Option Nat :=
  if _h : lo < hi then
    let mid := (lo + hi) / 2
    match pairs[mid]? with
    | none => none
    | some (a, b) =>
      if n < a then lookupPair pairs n lo mid
      else if a < n then lookupPair pairs n (mid + 1) hi
      else some b
  else none
termination_by hi - lo

/-- The lower-case form of a character on its own. -/
def lowerChar (c : Char) : List Char :=
  if c.toNat < 0x80 then [c.toLower]
  else if c.toNat == 0x130 then ['i', Char.ofNat 0x307]
  else match lookupPair Recent.lowercasePairs c.toNat 0 Recent.lowercasePairs.size with
    | some n => [Char.ofNat n]
    | none => [c]

/-- Whether the first character that casing does not skip has case. -/
def startsCased (text : List Char) : Bool :=
  match text.dropWhile Recent.caseIgnorable.contains with
  | c :: _ => Recent.cased.contains c
  | [] => false

/-- Lower-cases the characters after `before`, which is given in reverse. -/
def lowerAfter (before : List Char) : List Char → List Char
  | [] => []
  | c :: rest =>
    let lowered :=
      if c.toNat == 0x3a3 then
        if startsCased before && !startsCased rest then [Char.ofNat 0x3c2] else [Char.ofNat 0x3c3]
      else lowerChar c
    lowered ++ lowerAfter (c :: before) rest

/-- A text in lower case. -/
def lower (text : String) : String :=
  String.ofList (lowerAfter [] text.toList)

end Highlighter.Unicode
