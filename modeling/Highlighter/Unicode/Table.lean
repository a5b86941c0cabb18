import Highlighter.CharSet
import Highlighter.Text.Pieces

/-!
# Reading character tables

Properties of characters are kept as text: a list of ranges, a list of runs that covers all code
points from zero on, or a list of mappings from ranges. A range may hold every code point or go in
steps. All numbers are hexadecimal. The readers
here are total and give an empty table for a malformed entry, of which the tables hold none.
-/

namespace Highlighter.Unicode

/-- The value of a hexadecimal digit. -/
def hexDigit (c : Char) : Nat :=
  if c.isDigit then c.toNat - '0'.toNat else c.toNat - 'a'.toNat + 10

/-- The number that lower-case hexadecimal digits write. -/
def hexNumber (digits : List Char) : Nat :=
  digits.foldl (fun n c ↦ 16 * n + hexDigit c) 0

/-- Whether a character is a lower-case hexadecimal digit. -/
def isHexDigit (c : Char) : Bool :=
  c.isDigit || ('a' ≤ c && c ≤ 'f')

/-- The number that a text begins with, and the text after it. -/
def leadingNumber (text : List Char) : Nat × List Char :=
  (hexNumber (text.takeWhile isHexDigit), text.dropWhile isHexDigit)

/-- The range written `a-b` or `a` at the front of a text, and the text after it. -/
def leadingRange (text : List Char) : (Nat × Nat) × List Char :=
  match leadingNumber text with
  | (a, '-' :: rest) => let (b, rest) := leadingNumber rest; ((a, b), rest)
  | (a, rest) => ((a, a), rest)

/-- A range and the step within it, written `a-b/s` or without a step if that is one, and the text
after it. -/
def leadingSteps (text : List Char) : (Nat × Nat × Nat) × List Char :=
  match leadingRange text with
  | ((a, b), '/' :: rest) => let (s, rest) := leadingNumber rest; ((a, b, s), rest)
  | ((a, b), rest) => ((a, b, 1), rest)

/-- How many steps lead from the first to the last code point of a range. -/
def stepCount (a b s : Nat) : Nat := (b - a) / s + 1

/-- The entries of a table, which blanks and line ends separate. -/
def entries (table : String) : List (List Char) :=
  (Words.piecesChars (fun c ↦ c == ' ' || c == '\n') table.toList).filter (!·.isEmpty)

/-- The set written as a list of ranges. -/
def rangeTable (table : String) : CharSet :=
  .ofRanges ((entries table).flatMap fun e ↦
    match (leadingSteps e).1 with
    | (a, b, 1) => [(a, b)]
    | (a, b, s) => (List.range (stepCount a b s)).map fun i ↦ (a + i * s, a + i * s))

/-- The runs written as lengths and labels, as first and last code point and label. -/
def runTable (table : String) : Array (Nat × Nat × String) :=
  let step (acc : Nat × Array (Nat × Nat × String)) (e : List Char) :=
    let (length, label) := leadingNumber e
    (acc.1 + length, acc.2.push (acc.1, acc.1 + length - 1, String.ofList label))
  ((entries table).foldl step (0, #[])).2

/-- The pairs of a mapping written as `range:target`, where the first code point of the range goes
to the target and a later one as far beyond it. -/
def mappingTable (table : String) : Array (Nat × Nat) :=
  let expand (acc : Array (Nat × Nat)) (e : List Char) :=
    let ((a, b, s), rest) := leadingSteps e
    let target := (leadingNumber (rest.drop 1)).1
    (List.range (stepCount a b s)).foldl (fun acc i ↦ acc.push (a + i * s, target + i * s)) acc
  (entries table).foldl expand #[]

end Highlighter.Unicode
