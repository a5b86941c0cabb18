import Highlighter.Text.Hex

/-!
# Strings of JSON documents

A string is kept as it is written between its quotes. Reading checks that every escape is complete;
whether the escapes stand for characters is decided only where the string is used.
-/

namespace Highlighter.JsonText

/-- The character that a letter after a backslash stands for. -/
def escaped? : Char → Option Char
  | '"' => some '"'
  | '\\' => some '\\'
  | '/' => some '/'
  | 'b' => some '\x08'
  | 'f' => some '\x0c'
  | 'n' => some '\n'
  | 'r' => some '\r'
  | 't' => some '\t'
  | _ => none

/-- The character of a pair of surrogates. -/
def pairChar (high low : Nat) : Char :=
  Char.ofNat (0x10000 + (high - 0xd800) * 0x400 + (low - 0xdc00))

/-- The characters that a written string stands for. A surrogate without its partner stands for
none. -/
def decodeChars : List Char → Option (List Char)
  | [] => some []
  | '\\' :: 'u' :: a :: b :: c :: d :: rest =>
    match Hex.number? [a, b, c, d] with
    | none => none
    | some n =>
      if n < 0xd800 ∨ 0xdfff < n then (decodeChars rest).map (Char.ofNat n :: ·)
      else match rest with
        | '\\' :: 'u' :: a' :: b' :: c' :: d' :: rest =>
          match Hex.number? [a', b', c', d'] with
          | none => none
          | some n' =>
            if n ≤ 0xdbff ∧ 0xdc00 ≤ n' ∧ n' ≤ 0xdfff then
              (decodeChars rest).map (pairChar n n' :: ·)
            else none
        | _ => none
  | '\\' :: c :: rest => do return (← escaped? c) :: (← decodeChars rest)
  | c :: rest => (decodeChars rest).map (c :: ·)

/-- The text that a written string stands for. -/
def decode? (written : List Char) : Option String :=
  (decodeChars written).map String.ofList

end Highlighter.JsonText
