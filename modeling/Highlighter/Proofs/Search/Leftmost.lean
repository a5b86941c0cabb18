import Highlighter.Proofs.Search.Alternatives
import Mathlib.Data.List.Chain

/-!
# Leftmost matches

A search returns the first match at or after a position. What this means is said without the search:
an expression has a match where a search that begins there finds one (`Searcher.Has`), and the first
match from a position on is one that no other match lies in front of (`Searcher.IsFirstFrom`). That
an engine searches in this way is an assumption on it (`Searcher.IsLeftmost`).

Scans for matches and for blocks repeat such searches, and both go on after each find as if they
began there (`IsScan`). So each match is the first one from where the scan goes on. In a scan for
blocks this holds of the opening matches, and each closing match is the first one behind its opening
match. Blocks are therefore in order, have no text in common, and miss no opening match between
them.
-/

namespace Highlighter

/-! ## What a search finds -/

namespace Searcher

variable {s : Searcher} {text : Array Char} {pos : Nat} {m m' : Match}

/-- Whether an expression has a match in a text: a search that begins where the match begins finds
it. -/
def Has (s : Searcher) (text : Array Char) (m : Match) : Prop :=
  (s.find text m.whole.start).map (·.1) = some m

/-- Whether a match is the first one that an expression has from a position on. -/
structure IsFirstFrom (s : Searcher) (text : Array Char) (pos : Nat) (m : Match) : Prop where
  has : s.Has text m
  le_start : pos ≤ m.whole.start
  first : ∀ m', s.Has text m' → pos ≤ m'.whole.start → m.whole.start ≤ m'.whole.start

/-- Whether an expression has no match from a position on. -/
def HasNoneFrom (s : Searcher) (text : Array Char) (pos : Nat) : Prop :=
  ∀ m, s.Has text m → m.whole.start < pos

/-- What is assumed of an engine: what a search finds is a match, and the search does not go past
another one to find it. -/
structure IsLeftmost (s : Searcher) : Prop where
  has : ∀ text pos m, s.find text pos = some m → s.Has text m.1
  not_past : ∀ text pos m, s.Has text m → pos ≤ m.whole.start →
    ∃ m', s.find text pos = some m' ∧ m'.1.whole.start ≤ m.whole.start

/-- At most one match begins at a position. -/
theorem Has.eq_of_start_eq (h : s.Has text m) (h' : s.Has text m')
    (hstart : m.whole.start = m'.whole.start) : m = m' := by
  unfold Has at h h'
  rw [hstart, h'] at h
  exact (Option.some.inj h).symm

theorem Has.stop_le (h : s.Has text m) : m.whole.stop ≤ text.size := by
  obtain ⟨m', -, hval⟩ := Option.map_eq_some_iff.mp h
  have hstop := m'.2.stop_le
  rwa [hval] at hstop

theorem IsLeftmost.isFirstFrom (h : s.IsLeftmost) {m : { m : Match // m.Between pos text.size }}
    (hfind : s.find text pos = some m) : s.IsFirstFrom text pos m.1 where
  has := h.has text pos m hfind
  le_start := m.2.le_start
  first := by
    intro m' hm' hle
    obtain ⟨m'', hfind', hle'⟩ := h.not_past text pos m' hm' hle
    obtain rfl := Option.some.inj (hfind.symm.trans hfind')
    exact hle'

theorem IsLeftmost.hasNoneFrom (h : s.IsLeftmost) (hfind : s.find text pos = none) :
    s.HasNoneFrom text pos := by
  intro m hm
  by_contra hlt
  obtain ⟨m', hfind', -⟩ := h.not_past text pos m hm (Nat.le_of_not_lt hlt)
  rw [hfind] at hfind'
  cases hfind'

/-- Whether a search that begins at a position finds a match. -/
def Finds (s : Searcher) (text : Array Char) (pos : Nat) (m : Match) : Prop :=
  (s.find text pos).map (·.1) = some m

theorem finds_of_find_eq_some {m : { m : Match // m.Between pos text.size }}
    (hfind : s.find text pos = some m) : s.Finds text pos m.1 := by
  rw [Finds, hfind, Option.map_some]

theorem IsLeftmost.isFirstFrom_of_finds (h : s.IsLeftmost) (hfinds : s.Finds text pos m) :
    s.IsFirstFrom text pos m := by
  obtain ⟨m', hfind, rfl⟩ := Option.map_eq_some_iff.mp hfinds
  exact h.isFirstFrom hfind

/-- Behind a text there are no matches. -/
theorem hasNoneFrom_of_size_lt (hpos : text.size < pos) : s.HasNoneFrom text pos := by
  intro m hm
  have := m.whole.start_le_stop
  have := hm.stop_le
  omega

end Searcher

/-! ## Scans -/

section Scans

variable {α : Type} {next : Nat → α → Prop} {ends : Nat → Prop} {resume : α → Nat}
  {scan : Nat → List α} {pos : Nat} {a : α} {front back : List α}

/-- Whether a scan begins with what comes next from a position on, and goes on as it would if it
began where it is resumed. -/
structure IsScan (next : Nat → α → Prop) (ends : Nat → Prop) (resume : α → Nat)
    (scan : Nat → List α) : Prop where
  nil {pos : Nat} (h : scan pos = []) : ends pos
  cons {pos : Nat} {a : α} {rest : List α} (h : scan pos = a :: rest) :
    next pos a ∧ scan (resume a) = rest

namespace IsScan

/-- What is left of a scan is a scan from some position on. -/
theorem exists_eq_of_append (h : IsScan next ends resume scan) (hpos : scan pos = front ++ back) :
    ∃ pos', scan pos' = back := by
  induction front generalizing pos with
  | nil => exact ⟨pos, hpos⟩
  | cons b front ih => exact ih (h.cons hpos).2

/-- What is left behind a find is what the scan finds from where it is resumed. -/
theorem eq_of_append (h : IsScan next ends resume scan) (hpos : scan pos = front ++ a :: back) :
    scan (resume a) = back := by
  obtain ⟨pos', hpos'⟩ := h.exists_eq_of_append hpos
  exact (h.cons hpos').2

theorem exists_next (h : IsScan next ends resume scan) (ha : a ∈ scan pos) :
    ∃ pos', next pos' a := by
  obtain ⟨front, back, hpos⟩ := List.append_of_mem ha
  obtain ⟨pos', hpos'⟩ := h.exists_eq_of_append hpos
  exact ⟨pos', (h.cons hpos').1⟩

theorem next_of_mem_head? (h : IsScan next ends resume scan) (ha : a ∈ (scan pos).head?) :
    next pos a := by
  obtain ⟨rest, hpos⟩ := List.head?_eq_some_iff.mp ha
  exact (h.cons hpos).1

theorem isChain (h : IsScan next ends resume scan) (pos : Nat) :
    (scan pos).IsChain fun a b ↦ next (resume a) b := by
  refine List.isChain_iff_forall_rel_of_append_cons_cons.mpr fun {a b front back} hpos ↦ ?_
  exact (h.cons (h.eq_of_append hpos)).1

theorem ends_of_mem_getLast? (h : IsScan next ends resume scan) (ha : a ∈ (scan pos).getLast?) :
    ends (resume a) := by
  obtain ⟨front, hfront⟩ := List.getLast?_eq_some_iff.mp ha
  exact h.nil (h.eq_of_append hfront)

end IsScan

end Scans

/-! ## Matches of a scan -/

section Matches

variable {finds : Searcher} {text : Array Char} {pos : Nat} {m : Match}

theorem matchesFrom_of_find_eq_none (hfind : finds.find text pos = none) :
    finds.matchesFrom text pos = [] := by
  rw [Searcher.matchesFrom, hfind]
  split <;> rfl

theorem matchesFrom_of_find_eq_some {m : { m : Match // m.Between pos text.size }}
    (hfind : finds.find text pos = some m) :
    finds.matchesFrom text pos = m.1 :: finds.matchesFrom text m.1.resume := by
  rw [Searcher.matchesFrom, if_pos m.2.start_le_stop, hfind]

theorem matchesFrom_of_size_lt (finds : Searcher) (hpos : text.size < pos) :
    finds.matchesFrom text pos = [] := by
  rw [Searcher.matchesFrom, if_neg (Nat.not_le_of_lt hpos)]

theorem isScan_matchesFrom (finds : Searcher) (text : Array Char) :
    IsScan (finds.Finds text) (fun pos ↦ finds.find text pos = none) Match.resume
      (finds.matchesFrom text) where
  nil {pos} h := by
    cases hfind : finds.find text pos with
    | none => rfl
    | some m =>
      rw [matchesFrom_of_find_eq_some hfind] at h
      cases h
  cons {pos m rest} h := by
    cases hfind : finds.find text pos with
    | none =>
      rw [matchesFrom_of_find_eq_none hfind] at h
      cases h
    | some m' =>
      rw [matchesFrom_of_find_eq_some hfind] at h
      obtain ⟨rfl, rfl⟩ := List.cons.inj h
      exact ⟨Searcher.finds_of_find_eq_some hfind, rfl⟩

theorem exists_find_of_mem_matchesFrom (h : m ∈ finds.matchesFrom text pos) :
    ∃ pos' m', finds.find text pos' = some m' ∧ m'.1 = m := by
  obtain ⟨pos', hnext⟩ := (isScan_matchesFrom finds text).exists_next h
  exact ⟨pos', Option.map_eq_some_iff.mp hnext⟩

namespace Searcher.IsLeftmost

theorem has_of_mem_matchesFrom (hfinds : finds.IsLeftmost) (h : m ∈ finds.matchesFrom text pos) :
    finds.Has text m := by
  obtain ⟨pos', hnext⟩ := (isScan_matchesFrom finds text).exists_next h
  exact (hfinds.isFirstFrom_of_finds hnext).has

/-- A scan passes over no match: each one begins where some match of the scan lies, or where that is
empty. -/
theorem exists_mem_matchesFrom (h : finds.IsLeftmost) (hm : finds.Has text m)
    (hle : pos ≤ m.whole.start) : ∃ m' ∈ finds.matchesFrom text pos,
      m'.whole.start ≤ m.whole.start ∧ m.whole.start < m'.resume := by
  fun_induction Searcher.matchesFrom finds text pos with
  | case1 pos hpos hfind => exact absurd hle (Nat.not_le_of_lt (h.hasNoneFrom hfind m hm))
  | case2 pos hpos found hfound hfind hlt ih =>
    by_cases hresume : m.whole.start < found.resume
    · exact ⟨found, List.mem_cons_self, (h.isFirstFrom hfind).first m hm hle, hresume⟩
    · obtain ⟨m', hm', hstart⟩ := ih (Nat.le_of_not_lt hresume)
      exact ⟨m', List.mem_cons_of_mem found hm', hstart⟩
  | case3 pos hpos =>
    exact absurd hle (Nat.not_le_of_lt (hasNoneFrom_of_size_lt (Nat.lt_of_not_le hpos) m hm))

end Searcher.IsLeftmost

end Matches

/-! ## Blocks of a scan -/

section Blocks

variable {opens closes : Searcher} {text : Array Char} {pos : Nat} {b : Block text.size}

theorem Block.stop_le_resume {size : Nat} (b : Block size) : b.stop ≤ b.resume := by
  unfold resume
  split
  · exact Nat.le_succ _
  · exact Nat.le_refl _

/-- What comes next in a scan for blocks: a block that is opened by what a search finds, and closed
by what a search finds that begins where the opening match ends. -/
def Searcher.FindsBlock (opens closes : Searcher) (text : Array Char) (pos : Nat)
    (b : Block text.size) : Prop :=
  opens.Finds text pos b.opening ∧ b.closing = closes.find text b.opening.whole.stop

theorem blocksFrom_of_find_eq_none (closes : Searcher) (hfind : opens.find text pos = none) :
    opens.blocksFrom closes text pos = [] := by
  rw [Searcher.blocksFrom, hfind]
  split <;> rfl

theorem blocksFrom_of_find_eq_some (closes : Searcher)
    {m : { m : Match // m.Between pos text.size }} (hfind : opens.find text pos = some m) :
    opens.blocksFrom closes text pos = closes.close text m.1 m.2.stop_le
      :: opens.blocksFrom closes text (closes.close text m.1 m.2.stop_le).resume := by
  rw [Searcher.blocksFrom, if_pos m.2.start_le_stop, hfind]

theorem isScan_blocksFrom (opens closes : Searcher) (text : Array Char) :
    IsScan (opens.FindsBlock closes text) (fun pos ↦ opens.find text pos = none) Block.resume
      (opens.blocksFrom closes text) where
  nil {pos} h := by
    cases hfind : opens.find text pos with
    | none => rfl
    | some m =>
      rw [blocksFrom_of_find_eq_some closes hfind] at h
      cases h
  cons {pos b rest} h := by
    cases hfind : opens.find text pos with
    | none =>
      rw [blocksFrom_of_find_eq_none closes hfind] at h
      cases h
    | some m =>
      rw [blocksFrom_of_find_eq_some closes hfind] at h
      obtain ⟨rfl, rfl⟩ := List.cons.inj h
      exact ⟨⟨Searcher.finds_of_find_eq_some hfind, rfl⟩, rfl⟩

/-- The opening match of a block is what some search finds. -/
theorem exists_find_opening {b : Block text.size} (h : b ∈ opens.blocksFrom closes text pos) :
    ∃ pos' m', opens.find text pos' = some m' ∧ m'.1 = b.opening := by
  obtain ⟨pos', hnext⟩ := (isScan_blocksFrom opens closes text).exists_next h
  exact ⟨pos', Option.map_eq_some_iff.mp hnext.1⟩

/-- The closing match of a block is what a search finds that begins where the opening match ends. -/
theorem closing_eq_of_mem_blocksFrom (h : b ∈ opens.blocksFrom closes text pos) :
    b.closing = closes.find text b.opening.whole.stop := by
  obtain ⟨pos', hnext⟩ := (isScan_blocksFrom opens closes text).exists_next h
  exact hnext.2

theorem has_opening_of_mem_blocksFrom (hopens : opens.IsLeftmost)
    (h : b ∈ opens.blocksFrom closes text pos) : opens.Has text b.opening := by
  obtain ⟨pos', hnext⟩ := (isScan_blocksFrom opens closes text).exists_next h
  exact (hopens.isFirstFrom_of_finds hnext.1).has

/-- A scan begins with the first opening match, or finds no blocks where there is none. -/
theorem head?_blocksFrom (hopens : opens.IsLeftmost) (closes : Searcher) (text : Array Char)
    (pos : Nat) :
    (∀ b ∈ (opens.blocksFrom closes text pos).head?, opens.IsFirstFrom text pos b.opening) ∧
      (opens.blocksFrom closes text pos = [] → opens.HasNoneFrom text pos) := by
  have hscan := isScan_blocksFrom opens closes text
  exact ⟨fun b hb ↦ hopens.isFirstFrom_of_finds (hscan.next_of_mem_head? hb).1,
    fun hnil ↦ hopens.hasNoneFrom (hscan.nil hnil)⟩

/-- Each block begins where those before it have ended, or further on, and behind their start. -/
theorem pairwise_blocksFrom (opens closes : Searcher) (text : Array Char) (pos : Nat) :
    (opens.blocksFrom closes text pos).Pairwise fun b b' ↦
      b.whole.stop ≤ b'.whole.start ∧ b.whole.start < b'.whole.start := by
  fun_induction Searcher.blocksFrom opens closes text pos with
  | case1 | case3 => exact .nil
  | case2 pos hpos found hfound hfind hlt ih =>
    refine List.pairwise_cons.mpr ⟨fun b hb ↦ ?_, ih⟩
    have hle := (between_opening_of_mem_blocksFrom hb).le_start
    exact ⟨Nat.le_trans (Block.stop_le_resume _) hle,
      Nat.lt_of_lt_of_le (Block.opening_start_lt_resume _) hle⟩

/-- **Where a scan goes on**: each block is opened by the first opening match from where the search
after the block before it begins, and after the last block there is no opening match. -/
theorem isChain_blocksFrom (hopens : opens.IsLeftmost) (closes : Searcher) (text : Array Char)
    (pos : Nat) :
    (opens.blocksFrom closes text pos).IsChain
        (fun b b' ↦ opens.IsFirstFrom text b.resume b'.opening) ∧
      ∀ b ∈ (opens.blocksFrom closes text pos).getLast?, opens.HasNoneFrom text b.resume := by
  have hscan := isScan_blocksFrom opens closes text
  exact ⟨(hscan.isChain pos).imp fun _ _ hnext ↦ hopens.isFirstFrom_of_finds hnext.1,
    fun b hb ↦ hopens.hasNoneFrom (hscan.ends_of_mem_getLast? hb)⟩

/-- An opening match behind a block and in front of where the scan goes on is that of the block,
which is empty then. -/
theorem Searcher.Has.eq_opening {m : Match} {size : Nat} {b : Block size}
    (hopens : opens.Has text b.opening) (hm : opens.Has text m) (hle : b.stop ≤ m.whole.start)
    (hlt : m.whole.start < b.resume) : m = b.opening ∧ b.whole.isEmpty = true := by
  unfold Block.resume at hlt
  split at hlt
  · next hempty =>
    have hstart : b.opening.whole.start = b.stop := Region.isEmpty_iff.mp hempty
    exact ⟨hm.eq_of_start_eq hopens (by omega), hempty⟩
  · omega

end Blocks

end Highlighter
