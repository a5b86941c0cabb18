import Highlighter.Text.Hex
import Highlighter.Unicode.Recent

/-!
# Quoted texts

A text between quotes, on one line: quotes and backslashes have a backslash before them, some
control characters are letters after one, and whatever cannot be seen by itself is written as its
code point.
-/

namespace Highlighter.Quoted

/-- A character as its code point. -/
def codePoint (c : Char) : List Char :=
  ['\\', 'u', '\x7b'] ++ Hex.digits c.toNat ++ ['\x7d']

/-- A character between quotes. -/
def encodeChar (c : Char) : List Char :=
  if c = '\x00' then ['\\', '0']
  else if c = '\t' then ['\\', 't']
  else if c = '\r' then ['\\', 'r']
  else if c = '\n' then ['\\', 'n']
  else if c = '"' ∨ c = '\\' then ['\\', c]
  else if Unicode.Recent.extending.contains c then codePoint c
  else if !Unicode.Recent.printable.contains c then codePoint c
  else [c]

/-- A text with its quotes. -/
def encode (text : String) : String :=
  String.ofList ('"' :: text.toList.flatMap encodeChar ++ ['"'])

end Highlighter.Quoted
