import Highlighter.Text.Source

/-!
# Tokens

Inside the library what a rule tags is a `Mark`: a region and a scope. A `Token` is a mark as it
leaves the library, with byte offsets and the text it covers.
-/

namespace Highlighter

/-- A region and the scope it is tagged with. -/
structure Mark where
  region : Region
  scope : String
deriving DecidableEq

/-- Tags a region that is not empty, if there is a scope for it. -/
def tag (r : Region) (scope : Option String) : List Mark :=
  match scope with
  | some scope => if r.isEmpty then [] else [⟨r, scope⟩]
  | none => []

/-- A scoped range of a text. -/
structure Token where
  /-- The byte offset of the first character. -/
  start : Nat
  /-- The byte offset after the last character. -/
  stop : Nat
  scope : String
  text : String
deriving DecidableEq, Repr

/-- The token of a mark. -/
def Source.token (s : Source) (m : Mark) : Token where
  start := s.offset m.region.start
  stop := s.offset m.region.stop
  scope := m.scope
  text := s.slice m.region

end Highlighter
