/-!
# Sets of characters

A set of characters is written as ascending ranges of code points with a gap between each two.
Every operation ends in `CharSet.ofRanges`, which brings an arbitrary list of ranges into that
form, so that membership can be decided by halving.

The Unicode tables and the bracketed classes of regular expressions are both values of this type.
It is a layer of its own because neither of them should know how a set is stored.
-/

namespace Highlighter

/-- A set of code points, as ascending ranges with a gap between each two. -/
structure CharSet where
  /-- The first and the last code point of each range. -/
  ranges : Array (Nat × Nat)
deriving Inhabited, Repr, DecidableEq

namespace CharSet

/-! ## Building a set -/

/-- Joins ranges that touch or overlap, given in ascending order of their first code point. -/
def joinTouching : List (Nat × Nat) → List (Nat × Nat)
  | [] => []
  | [r] => [r]
  | (a, b) :: (c, d) :: rest =>
    if c ≤ b + 1 then joinTouching ((a, max b d) :: rest)
    else (a, b) :: joinTouching ((c, d) :: rest)
termination_by l => l.length

/-- The set of the code points that lie in one of the ranges. -/
def ofRanges (l : List (Nat × Nat)) : CharSet :=
  ⟨(joinTouching (l.mergeSort fun r s ↦ r.1 ≤ s.1)).toArray⟩

/-- The set of the code points from `a` to `b`. -/
def range (a b : Nat) : CharSet := ⟨#[(a, b)]⟩

/-- The set that holds one character. -/
def single (c : Char) : CharSet := range c.toNat c.toNat

/-- The set that holds no character. -/
def empty : CharSet := ⟨#[]⟩

/-- The largest code point. -/
def maxCodePoint : Nat := 0x10ffff

/-- The set of all characters. -/
def all : CharSet := range 0 maxCodePoint

/-! ## Membership -/

/-- Halves `[lo, hi)` until at most one range can hold the code point `n`. -/
def search (ranges : Array (Nat × Nat)) (n lo hi : Nat) : Bool :=
  if _h : lo < hi then
    let mid := (lo + hi) / 2
    match ranges[mid]? with
    | none => false
    | some (a, b) =>
      if n < a then search ranges n lo mid
      else if b < n then search ranges n (mid + 1) hi
      else true
  else false
termination_by hi - lo

/-- Whether the set holds a code point. -/
def containsCode (s : CharSet) (n : Nat) : Bool :=
  search s.ranges n 0 s.ranges.size

/-- Whether the set holds a character. -/
def contains (s : CharSet) (c : Char) : Bool :=
  s.containsCode c.toNat

/-! ## Operations -/

/-- The set of what is in one of two sets. -/
def union (s t : CharSet) : CharSet :=
  ofRanges (s.ranges.toList ++ t.ranges.toList)

/-- The gaps before, between and after ascending ranges, from the code point `lo` on. -/
def gaps (lo : Nat) : List (Nat × Nat) → List (Nat × Nat)
  | [] => if lo ≤ maxCodePoint then [(lo, maxCodePoint)] else []
  | (a, b) :: rest => if lo < a then (lo, a - 1) :: gaps (b + 1) rest else gaps (b + 1) rest

/-- The set of what is not in a set. -/
def complement (s : CharSet) : CharSet :=
  ⟨(gaps 0 s.ranges.toList).toArray⟩

/-- The set of what is in both of two sets. -/
def inter (s t : CharSet) : CharSet :=
  (s.complement.union t.complement).complement

/-- The set of what is in the first set and not in the second. -/
def diff (s t : CharSet) : CharSet :=
  s.inter t.complement

/-- The set of what is in exactly one of two sets. -/
def symmDiff (s t : CharSet) : CharSet :=
  (s.union t).diff (s.inter t)

/-- Whether every code point of the set is below `bound`. -/
def isBelow (s : CharSet) (bound : Nat) : Bool :=
  s.ranges.all fun r ↦ r.2 < bound

end CharSet

end Highlighter
