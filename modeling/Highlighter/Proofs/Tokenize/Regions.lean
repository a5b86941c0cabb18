import Highlighter.Tokenize

/-!
# Steps stay in their region

Whatever a pattern does in a region, it does inside the region: it marks parts of it and applies
patterns to parts of it. This comes from the scans alone. A scan looks at the text up to the end of
the region and begins at its start, and what it finds lies between the two.
-/

namespace Highlighter

/-! ## Scans -/

section Scans

variable {finds opens closes : Searcher} {text : Array Char} {pos : Nat} {r : Region} {m : Match}

theorem between_of_mem_matchesFrom (h : m ∈ finds.matchesFrom text pos) :
    m.Between pos text.size := by
  fun_induction Searcher.matchesFrom finds text pos with
  | case1 pos hpos hfind => simp at h
  | case2 pos hpos found hfound hfind hlt ih =>
    rcases List.mem_cons.1 h with rfl | h
    · exact hfound
    · exact (ih h).of_le (Nat.le_of_lt hlt)
  | case3 => simp at h

theorem between_opening_of_mem_blocksFrom {b : Block text.size}
    (h : b ∈ opens.blocksFrom closes text pos) : b.opening.Between pos text.size := by
  fun_induction Searcher.blocksFrom opens closes text pos with
  | case1 pos hpos hfind => simp at h
  | case2 pos hpos found hfound hfind hlt ih =>
    rcases List.mem_cons.1 h with rfl | h
    · exact hfound
    · exact (ih h).of_le (Nat.le_of_lt hlt)
  | case3 => simp at h

/-- A scan for matches moves on with each find, even with an empty one. -/
theorem length_matchesFrom_le (finds : Searcher) (text : Array Char) (pos : Nat) :
    (finds.matchesFrom text pos).length ≤ text.size + 1 - pos := by
  fun_induction Searcher.matchesFrom finds text pos with
  | case1 | case3 => exact Nat.zero_le _
  | case2 pos hpos found hfound hfind hlt ih =>
    rw [List.length_cons]
    omega

/-- A scan for blocks moves on with each find, even with an empty one. -/
theorem length_blocksFrom_le (opens closes : Searcher) (text : Array Char) (pos : Nat) :
    (opens.blocksFrom closes text pos).length ≤ text.size + 1 - pos := by
  fun_induction Searcher.blocksFrom opens closes text pos with
  | case1 | case3 => exact Nat.zero_le _
  | case2 pos hpos found hfound hfind hlt ih =>
    rw [List.length_cons]
    omega

theorem size_extract_le (text : Array Char) (stop : Nat) : (text.extract 0 stop).size ≤ stop := by
  rw [Array.size_extract]
  omega

/-- Whether a match and its groups lie in a region. -/
theorem within_of_between {group : Nat} {r' : Region}
    (h : m.Between r.start (text.extract 0 r.stop).size) (hg : (group, r') ∈ m.participating) :
    r'.Within r :=
  ⟨(h.within hg).1, Nat.le_trans (h.within hg).2 (size_extract_le text r.stop)⟩

end Scans

/-! ## Parts of a block -/

namespace Block

variable {size : Nat} (b : Block size)

theorem stop_le_size : b.stop ≤ size := by
  unfold stop
  split
  · next m _ => exact m.2.stop_le
  · exact Nat.le_refl _

theorem opening_within_whole : b.opening.whole.Within b.whole := by
  refine ⟨Nat.le_refl _, ?_⟩
  show b.opening.whole.stop ≤ b.stop
  unfold stop
  split
  · next m _ => exact Nat.le_trans m.2.le_start m.1.whole.start_le_stop
  · exact b.opening_stop_le

theorem closing_within_whole {m : { m : Match // m.Between b.opening.whole.stop size }}
    (h : b.closing = some m) : m.1.whole.Within b.whole := by
  constructor
  · exact Nat.le_trans b.opening.whole.start_le_stop m.2.le_start
  · show m.1.whole.stop ≤ b.stop
    simp only [stop, h, Nat.le_refl]

theorem interior_within_whole : b.interior.Within b.whole := by
  have hopening := b.opening.whole.start_le_stop
  unfold interior
  split
  · next m hm heq =>
    exact ⟨hopening, Nat.le_trans m.whole.start_le_stop (b.closing_within_whole heq).2⟩
  · next heq =>
    refine ⟨hopening, ?_⟩
    show size ≤ b.stop
    simp only [stop, heq, Nat.le_refl]

end Block

/-! ## Steps -/

/-- The region that a step is about. -/
def Step.region? : Step → Option Region
  | mark m => some m.region
  | apply _ r | follow _ r => some r
  | fail _ => none

namespace Tokenizer

variable {k : Tokenizer} {p : Pattern} {r r' : Region} {s : Step}

theorem HasMatch.within {m : Match} {group : Nat} (hm : k.HasMatch p r m)
    (hg : (group, r') ∈ m.participating) : r'.Within r := by
  obtain ⟨source, finds, -, -, hm⟩ := hm
  exact within_of_between (between_of_mem_matchesFrom (List.mem_filter.1 hm).1) hg

theorem HasBlock.opening_between {b : Block (k.text.extract 0 r.stop).size}
    (hb : k.HasBlock p r b) : b.opening.Between r.start (k.text.extract 0 r.stop).size := by
  obtain ⟨begins, ends, opens, closes, -, -, -, hb⟩ := hb
  exact between_opening_of_mem_blocksFrom hb

theorem HasBlock.edge_between {b : Block (k.text.extract 0 r.stop).size} {m : Match}
    {captures : List (Nat × Capture Pattern)} (hb : k.HasBlock p r b)
    (he : (m, captures) ∈ p.edges b) : m.Between r.start (k.text.extract 0 r.stop).size := by
  have hopen := hb.opening_between
  rcases List.mem_cons.1 he with h | h
  · cases h
    exact hopen
  · obtain ⟨⟨m', hm'⟩, -, h⟩ := List.mem_map.1 h
    cases h
    exact hm'.of_le (Nat.le_trans hopen.le_start b.opening.whole.start_le_stop)

theorem HasBlock.whole_within {b : Block (k.text.extract 0 r.stop).size} (hb : k.HasBlock p r b) :
    b.whole.Within r :=
  ⟨hb.opening_between.le_start, Nat.le_trans b.stop_le_size (size_extract_le k.text r.stop)⟩

theorem HasBlock.interior_within {b : Block (k.text.extract 0 r.stop).size}
    (hb : k.HasBlock p r b) : b.interior.Within r :=
  b.interior_within_whole.trans hb.whole_within

/-- **A step stays in its region.** -/
theorem Takes.within (h : k.Takes p r s) (hs : s.region? = some r') : r'.Within r := by
  cases h with
  | fail => simp [Step.region?] at hs
  | child | follow | wholeBuffer =>
    obtain rfl := Option.some.inj hs
    exact .refl r
  | matchGroup hm hg | matchCapture hm hg =>
    obtain rfl := Option.some.inj hs
    exact hm.within hg
  | confined hm =>
    obtain rfl := Option.some.inj hs
    exact hm.within (Match.zero_mem_participating _)
  | block hb =>
    obtain rfl := Option.some.inj hs
    exact hb.whole_within
  | interior hb | inside hb =>
    obtain rfl := Option.some.inj hs
    exact hb.interior_within
  | edgeGroup hb he hg | edgeCapture hb he hg =>
    obtain rfl := Option.some.inj hs
    exact within_of_between (hb.edge_between he) hg

end Tokenizer

end Highlighter
