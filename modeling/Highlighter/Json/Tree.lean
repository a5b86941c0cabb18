import Highlighter.Json.Number
import Highlighter.Json.Text

/-!
# JSON documents

A document as a tree, with strings and numbers as they are written. What is skipped while a
document is decoded need only be well formed; what is used must also stand for a value: its
strings must stand for characters, its numbers must not be too large, and it must not nest too
deeply.
-/

namespace Highlighter

/-- A JSON document. -/
inductive JsonTree where
  | null
  | bool (b : Bool)
  | number (n : JsonNumber)
  | string (written : List Char)
  | array (items : List JsonTree)
  | object (members : List (List Char × JsonTree))
deriving Inhabited

namespace JsonTree

/-- How deeply arrays and objects may nest. -/
def maxNesting : Nat := 127

mutual

/-- Whether a tree stands for a value and nests at most `room` deep. -/
def isValue : Nat → JsonTree → Bool
  | _, .null | _, .bool _ => true
  | _, .number n => n.value?.isSome
  | _, .string written => (JsonText.decode? written).isSome
  | 0, .array _ | 0, .object _ => false
  | room + 1, .array items => areValues room items
  | room + 1, .object members => areMembers room members

/-- Whether trees stand for values. -/
def areValues : Nat → List JsonTree → Bool
  | _, [] => true
  | room, t :: ts => t.isValue room && areValues room ts

/-- Whether members stand for values. -/
def areMembers : Nat → List (List Char × JsonTree) → Bool
  | _, [] => true
  | room, (k, t) :: ms => (JsonText.decode? k).isSome && t.isValue room && areMembers room ms

end

/-! ## Simple values -/

/-- The text of a string. -/
def text? : JsonTree → Option String
  | .string written => JsonText.decode? written
  | _ => none

/-- The text of a string, or nothing for `null`. -/
def textOrNull? : JsonTree → Option (Option String)
  | .null => some none
  | t => t.text?.map some

/-- The texts of an array of strings, for which there must be room. -/
def texts? (room : Nat) : JsonTree → Option (List String)
  | .array items => if room = 0 then none else items.mapM text?
  | _ => none

end JsonTree

end Highlighter
