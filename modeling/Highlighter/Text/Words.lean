import Highlighter.Text.Pieces
import Highlighter.Unicode.Property

/-!
# White space in texts

Trimming, and the words of a text: its pieces between blanks that are not empty.
-/

namespace Highlighter.Words

/-- Whether a character is white space. -/
def isBlank (c : Char) : Bool := Unicode.whiteSpace.contains c

/-- Drops white space at both ends. -/
def trimChars (cs : List Char) : List Char :=
  ((cs.dropWhile isBlank).reverse.dropWhile isBlank).reverse

/-- The words between white space. -/
def wordsChars (cs : List Char) : List (List Char) :=
  (piecesChars isBlank cs).filter (!·.isEmpty)

/-- Drops white space at both ends of a text. -/
def trim (s : String) : String := String.ofList (trimChars s.toList)

/-- The words of a text. -/
def words (s : String) : List String := (wordsChars s.toList).map String.ofList

/-- Whether a text has white space in it. -/
def hasBlank (s : String) : Bool := s.toList.any isBlank

/-- Turns the letters of ASCII into lower case. -/
def asciiLower (s : String) : String := String.ofList (s.toList.map Char.toLower)

end Highlighter.Words
