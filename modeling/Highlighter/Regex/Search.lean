import Highlighter.Regex.Mode
import Highlighter.Regex.Program
import Highlighter.Regex.Reader
import Highlighter.Search.Match
import Std.Data.HashSet

/-!
# Running a program

A program is run by trying its choices in order and returning to the last choice when a way fails.
What happens from an instruction and a position on does not depend on how they were reached, apart
from the groups, so no such pair is tried a second time: where it was reached first, it either led
to a match or it failed. This bounds the number of steps.

A thread carries the proof that whatever it has noted lies between the start of the match and its
position. A match that is returned is therefore well formed without any check.
-/

namespace Highlighter.Regex

/-! ## Conditions on positions -/

/-- Whether a character belongs to a word. -/
def isWordChar (ascii : Bool) (c : Char) : Bool :=
  if ascii then c.isAlphanum || c == '_' else Unicode.wordCharacters.contains c

/-- Whether a condition holds between the characters before and after a position. -/
def Look.holds (l : Look) (before after : Option Char) : Bool :=
  match l with
  | .textStart => before.isNone
  | .textEnd => after.isNone
  | .lineStart => before.all (· == '\n')
  | .lineEnd => after.all (· == '\n')
  | .anyLineStart => before.all fun c ↦ c == '\n' || c == '\r' && after != some '\n'
  | .anyLineEnd => after.all fun c ↦ c == '\r' || c == '\n' && before != some '\r'
  | .boundary ascii => before.any (isWordChar ascii) != after.any (isWordChar ascii)
  | .noBoundary ascii => before.any (isWordChar ascii) == after.any (isWordChar ascii)
  | .wordStart ascii => !before.any (isWordChar ascii) && after.any (isWordChar ascii)
  | .wordEnd ascii => before.any (isWordChar ascii) && !after.any (isWordChar ascii)
  | .wordStartHalf ascii => !before.any (isWordChar ascii)
  | .wordEndHalf ascii => !after.any (isWordChar ascii)

/-- Whether a condition holds at a position of a text. -/
def Look.holdsAt (l : Look) (text : Array Char) (pos : Nat) : Bool :=
  l.holds (if pos = 0 then none else text[pos - 1]?) text[pos]?

/-! ## Threads -/

/-- A way through a program that began at `start` and has come to some position. -/
structure Thread (size start : Nat) where
  /-- The instruction that comes next. -/
  pc : Nat
  /-- The position in the text. -/
  pos : Nat
  /-- Where the groups that are open began, the last one first. -/
  opened : List Nat
  /-- The groups that are closed, the last one first. -/
  recorded : List (Nat × Region)
  start_le_pos : start ≤ pos
  pos_le_size : pos ≤ size
  opened_between : ∀ p ∈ opened, start ≤ p ∧ p ≤ pos
  recorded_between : ∀ g ∈ recorded, start ≤ g.2.start ∧ g.2.stop ≤ pos

namespace Thread

variable {size start : Nat}

/-- The thread at the start of a match. -/
def initial (entry : Nat) (h : start ≤ size) : Thread size start where
  pc := entry
  pos := start
  opened := []
  recorded := []
  start_le_pos := Nat.le_refl _
  pos_le_size := h
  opened_between := by simp
  recorded_between := by simp

/-- The thread at another instruction. -/
def goto (t : Thread size start) (pc : Nat) : Thread size start := { t with pc }

/-- The thread after it has taken a character. -/
def advance (t : Thread size start) (pc : Nat) (h : t.pos < size) : Thread size start where
  pc := pc
  pos := t.pos + 1
  opened := t.opened
  recorded := t.recorded
  start_le_pos := Nat.le_succ_of_le t.start_le_pos
  pos_le_size := h
  opened_between p hp := ⟨(t.opened_between p hp).1, Nat.le_succ_of_le (t.opened_between p hp).2⟩
  recorded_between g hg :=
    ⟨(t.recorded_between g hg).1, Nat.le_succ_of_le (t.recorded_between g hg).2⟩

/-- The thread after a group has begun. -/
def openGroup (t : Thread size start) (pc : Nat) : Thread size start :=
  { t with
    pc
    opened := t.pos :: t.opened
    opened_between := by
      intro p hp
      rcases List.mem_cons.1 hp with rfl | hp
      · exact ⟨t.start_le_pos, Nat.le_refl _⟩
      · exact t.opened_between p hp }

/-- The thread after the group that began last has ended. -/
def closeGroup (t : Thread size start) (index pc : Nat) : Thread size start :=
  match h : t.opened with
  | [] => t.goto pc
  | p :: opened =>
    have hp := t.opened_between p (by simp [h])
    { t with
      pc
      opened
      recorded := (index, ⟨p, t.pos, hp.2⟩) :: t.recorded
      opened_between := fun q hq ↦ t.opened_between q (by simp [h, hq])
      recorded_between := by
        intro g hg
        rcases List.mem_cons.1 hg with rfl | hg
        · exact ⟨hp.1, Nat.le_refl _⟩
        · exact t.recorded_between g hg }

/-- The region of a group: where it was recorded last. -/
def group (t : Thread size start) (index : Nat) : Option Region :=
  (t.recorded.find? (·.1 == index)).map (·.2)

theorem group_between {t : Thread size start} {index : Nat} {r : Region}
    (h : t.group index = some r) : start ≤ r.start ∧ r.stop ≤ t.pos := by
  obtain ⟨g, hg, rfl⟩ := Option.map_eq_some_iff.1 h
  exact t.recorded_between g (List.mem_of_find?_eq_some hg)

/-- The match of a thread that has come to the end of its program. -/
def toMatch (t : Thread size start) (groupCount : Nat) : Match where
  whole := ⟨start, t.pos, t.start_le_pos⟩
  groups := (List.range groupCount).map fun i ↦ t.group (i + 1)

theorem within_whole_toMatch {t : Thread size start} {groupCount : Nat} {r : Region}
    (h : some r ∈ (t.toMatch groupCount).groups) : r.Within (t.toMatch groupCount).whole := by
  obtain ⟨i, -, hi⟩ := List.mem_map.1 h
  exact group_between hi

theorem between_toMatch (t : Thread size start) (groupCount : Nat) :
    (t.toMatch groupCount).Between start size := by
  intro r hr
  rcases List.mem_cons.1 hr with h | h
  · obtain rfl := Option.some.inj h
    exact ⟨Nat.le_refl _, t.pos_le_size⟩
  · have hw := within_whole_toMatch h
    exact ⟨hw.1, Nat.le_trans hw.2 t.pos_le_size⟩

end Thread

/-! ## Searching -/

/-- The pairs of instruction and position that have been tried, each as one number. -/
abbrev Tried := Std.HashSet Nat

/-- Runs threads, the first one first, until one matches. Each step either drops a thread that has
been tried or tries it and adds at most two, so the number of steps has a bound. -/
def Program.run (p : Program) (text : Array Char) {start : Nat} :
    Nat → Tried → List (Thread text.size start) → Option (Thread text.size start) × Tried
  | 0, tried, _ => (none, tried)
  | _ + 1, tried, [] => (none, tried)
  | fuel + 1, tried, t :: rest =>
    let key := t.pc * (text.size + 1) + t.pos
    if tried.contains key then p.run text fuel tried rest
    else
      let tried := tried.insert key
      match p.insts[t.pc]? with
      | none => p.run text fuel tried rest
      | some .accept => (some t, tried)
      | some (.chars set next) =>
        if h : t.pos < text.size then
          if set.contains text[t.pos] then p.run text fuel tried (t.advance next h :: rest)
          else p.run text fuel tried rest
        else p.run text fuel tried rest
      | some (.look l next) =>
        if l.holdsAt text t.pos then p.run text fuel tried (t.goto next :: rest)
        else p.run text fuel tried rest
      | some (.openGroup next) => p.run text fuel tried (t.openGroup next :: rest)
      | some (.closeGroup index next) =>
        p.run text fuel tried (t.closeGroup index next :: rest)
      | some (.split first second) =>
        p.run text fuel tried (t.goto first :: t.goto second :: rest)

/-- Enough steps to try every instruction at every position. -/
def Program.steps (p : Program) (text : Array Char) : Nat :=
  2 * p.insts.size * (text.size + 1) + 2

/-- The leftmost match at or after a position, and of those that begin there the preferred one. -/
def Program.findFrom (p : Program) (text : Array Char) (start : Nat) (tried : Tried) :
    Option { m : Match // m.Between start text.size } :=
  if h : start ≤ text.size then
    match p.run text (p.steps text) tried [Thread.initial p.entry h] with
    | (some t, _) => some ⟨t.toMatch p.groupCount, t.between_toMatch _⟩
    | (none, tried) =>
      (p.findFrom text (start + 1) tried).map fun m ↦ ⟨m.1, m.2.of_le (Nat.le_succ start)⟩
  else none
termination_by text.size + 1 - start

/-- The program, seen from outside. -/
def Program.searcher (p : Program) : Searcher where
  find text start := p.findFrom text start ∅

/-- Compiles a written expression. -/
def compile (source : String) : Option Searcher := do
  let tree ← Syntax.ofString? source
  let (e, _) ← tree.resolve Mode.initial
  return (← e.program?).searcher

end Highlighter.Regex
