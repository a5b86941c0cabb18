import Highlighter.Region

/-!
# Matches and what finds them

The tokenizer knows a compiled regular expression only as a `Searcher`: a function from a text and
a position to the next match. What it may rely on is in the type: a match and its groups begin at
or after the position and end inside the text. A searcher is given the text up to the end of the
region that is searched and nothing behind it, so nothing behind it can have an influence.
-/

namespace Highlighter

/-- Where an expression and its groups matched. -/
structure Match where
  /-- The region that the whole expression matched. -/
  whole : Region
  /-- The regions of groups 1, 2, …, where a group took part in the match. -/
  groups : List (Option Region)

namespace Match

/-- All groups in order, the whole match as group 0. -/
def allGroups (m : Match) : List (Option Region) :=
  some m.whole :: m.groups

/-- The numbers and regions of the groups that took part, in order. -/
def participating (m : Match) : List (Nat × Region) :=
  m.allGroups.zipIdx.filterMap fun (r, group) ↦ r.map fun r ↦ (group, r)

/-- Whether all groups of a match lie between two positions. -/
def Between (m : Match) (start stop : Nat) : Prop :=
  ∀ r, some r ∈ m.allGroups → start ≤ r.start ∧ r.stop ≤ stop

variable {m : Match} {start stop : Nat}

theorem Between.le_start (h : m.Between start stop) : start ≤ m.whole.start :=
  (h m.whole (by simp [allGroups])).1

theorem Between.stop_le (h : m.Between start stop) : m.whole.stop ≤ stop :=
  (h m.whole (by simp [allGroups])).2

theorem Between.of_le {start' : Nat} (h : m.Between start stop) (hle : start' ≤ start) :
    m.Between start' stop :=
  fun r hr ↦ ⟨Nat.le_trans hle (h r hr).1, (h r hr).2⟩

theorem mem_allGroups_of_mem_participating {group : Nat} {r : Region}
    (h : (group, r) ∈ m.participating) : some r ∈ m.allGroups := by
  obtain ⟨⟨r', group'⟩, hr, hg⟩ := List.mem_filterMap.1 h
  obtain ⟨r'', rfl, hg⟩ := Option.map_eq_some_iff.1 hg
  cases hg
  exact List.fst_mem_of_mem_zipIdx hr

theorem zero_mem_participating (m : Match) : (0, m.whole) ∈ m.participating :=
  List.mem_filterMap.2 ⟨(some m.whole, 0), by simp [allGroups], rfl⟩

theorem Between.within {group : Nat} {r : Region} (h : m.Between start stop)
    (hg : (group, r) ∈ m.participating) : start ≤ r.start ∧ r.stop ≤ stop :=
  h r (mem_allGroups_of_mem_participating hg)

end Match

/-- A compiled expression, seen from outside. -/
structure Searcher where
  /-- The first match at or after a position. -/
  find : (text : Array Char) → (start : Nat) → Option { m : Match // m.Between start text.size }

end Highlighter
