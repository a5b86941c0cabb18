import Highlighter.Json.Tree

/-!
# Reading JSON documents

A text is first cut into tokens, then the tokens are put together. The second step keeps what is
open on a stack and takes one token at a time, so it has no limit on nesting.
-/

namespace Highlighter

/-! ## Tokens -/

/-- A token of a JSON document. -/
inductive JsonToken where
  | openArray
  | closeArray
  | openObject
  | closeObject
  | comma
  | colon
  /-- A value that holds no other ones. -/
  | scalar (value : JsonTree)

namespace JsonToken

/-- What is left of a text after a part of it was taken. -/
abbrev Rest (text : List Char) := { rest : List Char // rest.length ≤ text.length }

/-- White space between tokens. -/
def isBlank (c : Char) : Bool := c == ' ' || c == '\n' || c == '\t' || c == '\r'

/-- The string whose opening quote was just taken. -/
def stringBody : (text : List Char) → Option (List Char × Rest text)
  | [] => none
  | '"' :: rest => some ([], ⟨rest, by simp⟩)
  | '\\' :: 'u' :: a :: b :: c :: d :: rest =>
    if (Hex.number? [a, b, c, d]).isSome then
      (stringBody rest).map fun (s, r) ↦
        ('\\' :: 'u' :: a :: b :: c :: d :: s,
          ⟨r.1, by have := r.2; simp only [List.length_cons]; omega⟩)
    else none
  | '\\' :: c :: rest =>
    if (JsonText.escaped? c).isSome then
      (stringBody rest).map fun (s, r) ↦
        ('\\' :: c :: s, ⟨r.1, by have := r.2; simp only [List.length_cons]; omega⟩)
    else none
  | c :: rest =>
    if c < ' ' then none
    else (stringBody rest).map fun (s, r) ↦
      (c :: s, ⟨r.1, by have := r.2; simp only [List.length_cons]; omega⟩)

/-- The digits at the front of a text. -/
def digits : (text : List Char) → List Nat × Rest text
  | [] => ([], ⟨[], Nat.le_refl _⟩)
  | c :: rest =>
    if c.isDigit then
      let (ds, r) := digits rest
      ((c.toNat - '0'.toNat) :: ds, ⟨r.1, Nat.le_succ_of_le r.2⟩)
    else ([], ⟨c :: rest, Nat.le_refl _⟩)

/-- The integer at the front of a text, which begins with zero only if it is zero. -/
def wholePart (text : List Char) : Option (List Nat × Rest text) :=
  match digits text with
  | ([], _) => none
  | (0 :: _ :: _, _) => none
  | (ds, r) => some (ds, r)

/-- The point and the digits after it, where a point comes next. -/
def fractionPart : (text : List Char) → Option (Option (List Nat) × Rest text)
  | '.' :: rest =>
    match digits rest with
    | ([], _) => none
    | (ds, r) => some (some ds, ⟨r.1, Nat.le_succ_of_le r.2⟩)
  | text => some (none, ⟨text, Nat.le_refl _⟩)

/-- The sign of an exponent, which is negative for a minus. -/
def exponentSign : (text : List Char) → Bool × Rest text
  | '+' :: rest => (false, ⟨rest, Nat.le_succ _⟩)
  | '-' :: rest => (true, ⟨rest, Nat.le_succ _⟩)
  | text => (false, ⟨text, Nat.le_refl _⟩)

/-- The exponent, where one comes next. -/
def exponentPart : (text : List Char) → Option (Option (Bool × List Nat) × Rest text)
  | [] => some (none, ⟨[], Nat.le_refl _⟩)
  | c :: rest =>
    if c = 'e' ∨ c = 'E' then
      let (isNegative, r) := exponentSign rest
      match digits r.1 with
      | ([], _) => none
      | (ds, r') => some (some (isNegative, ds), ⟨r'.1, Nat.le_succ_of_le (Nat.le_trans r'.2 r.2)⟩)
    else some (none, ⟨c :: rest, Nat.le_refl _⟩)

/-- The number at the front of a text, without its sign. -/
def number (isNegative : Bool) (text : List Char) : Option (JsonToken × Rest text) := do
  let (whole, r₁) ← wholePart text
  let (fraction, r₂) ← fractionPart r₁.1
  let (exponent, r₃) ← exponentPart r₂.1
  return (.scalar (.number ⟨isNegative, whole, fraction, exponent⟩),
    ⟨r₃.1, Nat.le_trans r₃.2 (Nat.le_trans r₂.2 r₁.2)⟩)

/-- A word at the front of a text. -/
def word (w : List Char) (value : JsonTree) (text : List Char) :
    Option (JsonToken × Rest text) :=
  if w.isPrefixOf text then
    some (.scalar value, ⟨text.drop w.length, by simp⟩)
  else none

/-- The token that begins with a character. -/
def next (c : Char) (rest : List Char) : Option (JsonToken × Rest rest) :=
  match c with
  | '[' => some (.openArray, ⟨rest, Nat.le_refl _⟩)
  | ']' => some (.closeArray, ⟨rest, Nat.le_refl _⟩)
  | '\x7b' => some (.openObject, ⟨rest, Nat.le_refl _⟩)
  | '\x7d' => some (.closeObject, ⟨rest, Nat.le_refl _⟩)
  | ',' => some (.comma, ⟨rest, Nat.le_refl _⟩)
  | ':' => some (.colon, ⟨rest, Nat.le_refl _⟩)
  | '"' => (stringBody rest).map fun (s, r) ↦ (.scalar (.string s), r)
  | 'n' => word ['u', 'l', 'l'] .null rest
  | 't' => word ['r', 'u', 'e'] (.bool true) rest
  | 'f' => word ['a', 'l', 's', 'e'] (.bool false) rest
  | '-' => number true rest
  | c =>
    if c.isDigit then
      (number false (c :: rest)).bind fun (t, r) ↦
        if h : r.1.length ≤ rest.length then some (t, ⟨r.1, h⟩) else none
    else none

/-- The tokens of a text. -/
def ofChars (text : List Char) : Option (List JsonToken) :=
  match text with
  | [] => some []
  | c :: rest =>
    if isBlank c then ofChars rest
    else match next c rest with
      | none => none
      | some (t, r) => (ofChars r.1).map (t :: ·)
termination_by text.length
decreasing_by
  · simp
  · have := r.2
    simp only [List.length_cons]
    omega

end JsonToken

/-! ## Trees -/

/-- What is open: an array with the items so far, or an object with the members so far and the key
of the next one. Both have the last one first. -/
inductive JsonFrame where
  | array (items : List JsonTree)
  | object (members : List (List Char × JsonTree)) (key : List Char)

/-- What may come next. -/
inductive JsonState where
  /-- A value. -/
  | value
  /-- The first item of an array, or its end. -/
  | firstItem
  /-- The first key of an object, or its end. -/
  | firstKey
  /-- A key, after some members. -/
  | key (members : List (List Char × JsonTree))
  /-- A colon, after some members and a key. -/
  | colon (members : List (List Char × JsonTree)) (key : List Char)
  /-- What can follow a value. -/
  | after (value : JsonTree)

namespace JsonTree

/-- Puts tokens together, given what is open and what may come next. -/
def assemble : List JsonToken → List JsonFrame → JsonState → Option JsonTree
  | [], [], .after v => some v
  | .scalar v :: ts, stack, .value => assemble ts stack (.after v)
  | .openArray :: ts, stack, .value => assemble ts stack .firstItem
  | .openObject :: ts, stack, .value => assemble ts stack .firstKey
  | .closeArray :: ts, stack, .firstItem => assemble ts stack (.after (.array []))
  | .scalar v :: ts, stack, .firstItem => assemble ts (.array [] :: stack) (.after v)
  | .openArray :: ts, stack, .firstItem => assemble ts (.array [] :: stack) .firstItem
  | .openObject :: ts, stack, .firstItem => assemble ts (.array [] :: stack) .firstKey
  | .closeObject :: ts, stack, .firstKey => assemble ts stack (.after (.object []))
  | .scalar (.string k) :: ts, stack, .firstKey => assemble ts stack (.colon [] k)
  | .scalar (.string k) :: ts, stack, .key ms => assemble ts stack (.colon ms k)
  | .colon :: ts, stack, .colon ms k => assemble ts (.object ms k :: stack) .value
  | .comma :: ts, .array items :: stack, .after v =>
    assemble ts (.array (v :: items) :: stack) .value
  | .closeArray :: ts, .array items :: stack, .after v =>
    assemble ts stack (.after (.array (v :: items).reverse))
  | .comma :: ts, .object ms k :: stack, .after v => assemble ts stack (.key ((k, v) :: ms))
  | .closeObject :: ts, .object ms k :: stack, .after v =>
    assemble ts stack (.after (.object ((k, v) :: ms).reverse))
  | _, _, _ => none

/-- Reads a document. -/
def ofString? (text : String) : Option JsonTree :=
  (JsonToken.ofChars text.toList).bind fun tokens ↦ assemble tokens [] .value

end JsonTree

end Highlighter
