/-!
# Cutting texts at separators

A text with `n` separators has `n + 1` pieces, of which some may be empty.
-/

namespace Highlighter.Words

/-- The pieces between the characters that separate. -/
def piecesChars (separates : Char → Bool) : List Char → List (List Char)
  | [] => [[]]
  | c :: cs =>
    if separates c then [] :: piecesChars separates cs
    else match piecesChars separates cs with
      | [] => [[c]]
      | p :: ps => (c :: p) :: ps

/-- The pieces of a text between separators. -/
def pieces (separator : Char) (s : String) : List String :=
  (piecesChars (· == separator) s.toList).map String.ofList

end Highlighter.Words
