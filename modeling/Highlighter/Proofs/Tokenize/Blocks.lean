import Highlighter.Proofs.Search.Leftmost
import Highlighter.Proofs.Tokenize.Evaluation

/-!
# The blocks in a region

A block rule goes through a region from one block to the next. `Tokenizer.ScansBlocks` says what
this amounts to: which blocks there are is told from the opening and closing matches that the text
has, and not from the order in which they are searched for. An engine that finds the first match is
all that is assumed (`Tokenizer.scansBlocks`).

A block that is not closed runs to the end of the region. What is found after it is an empty block
there at most, and from that no token comes.
-/

namespace Highlighter

namespace Tokenizer

variable {k : Tokenizer} {p : Pattern} {r : Region} {opens closes : Searcher}

/-- What it means that a block rule goes through a region in order and to its end, where the text up
to the end of the region is searched. -/
structure ScansBlocks (k : Tokenizer) (p : Pattern) (r : Region) (opens closes : Searcher)
    (blocks : List (Block (k.text.extract 0 r.stop).size)) : Prop where
  /-- The rule takes the steps of one block after the other. -/
  steps_eq : k.steps p r = blocks.flatMap p.blockSteps
  /-- The blocks lie in the region. -/
  within : ∀ b ∈ blocks, b.whole.Within r
  /-- The blocks are in order, and no two of them have text in common. -/
  pairwise : blocks.Pairwise fun b b' ↦
    b.whole.stop ≤ b'.whole.start ∧ b.whole.start < b'.whole.start
  /-- The first block is opened by the first opening match in the region. -/
  first : ∀ b ∈ blocks.head?, opens.IsFirstFrom (k.text.extract 0 r.stop) r.start b.opening
  /-- Each other block is opened by the first opening match from the end of the block before it, or
  from the next character if that block is empty. -/
  next : blocks.IsChain fun b b' ↦ opens.IsFirstFrom (k.text.extract 0 r.stop)
    (if b.whole.isEmpty then b.stop + 1 else b.stop) b'.opening
  /-- After the last block there is no opening match. -/
  last : ∀ b ∈ blocks.getLast?, opens.HasNoneFrom (k.text.extract 0 r.stop)
    (if b.whole.isEmpty then b.stop + 1 else b.stop)
  /-- Without blocks, there is no opening match in the region. -/
  none : blocks = [] → opens.HasNoneFrom (k.text.extract 0 r.stop) r.start
  /-- Between two blocks there begins no opening match, other than that of an empty block. -/
  gap : blocks.IsChain fun b b' ↦ ∀ m, opens.Has (k.text.extract 0 r.stop) m →
    b.stop ≤ m.whole.start → m.whole.start < b'.whole.start →
    m = b.opening ∧ b.whole.isEmpty = true
  /-- A block ends with the first closing match behind its opening match. -/
  closed : ∀ b ∈ blocks, ∀ m ∈ b.closing,
    closes.IsFirstFrom (k.text.extract 0 r.stop) b.opening.whole.stop m.1 ∧
      b.stop = m.1.whole.stop
  /-- Without a closing match, a block runs to the end of the region. -/
  unclosed : ∀ b ∈ blocks, b.closing = .none →
    closes.HasNoneFrom (k.text.extract 0 r.stop) b.opening.whole.stop ∧ b.stop = r.stop
  /-- Nothing comes of the blocks after one that is not closed. -/
  silent : ∀ front b back, blocks = front ++ b :: back → b.closing = .none →
    ∀ b' ∈ back, ∀ following, (p.blockSteps b').flatMap (k.marksOf following) = []
  /-- There are no more blocks than positions in the region. -/
  length_le : blocks.length ≤ r.stop + 1 - r.start

theorem size_extract_eq (hr : r.stop ≤ k.text.size) : (k.text.extract 0 r.stop).size = r.stop := by
  rw [Array.size_extract, Nat.sub_zero, Nat.min_eq_left hr]

/-- Nothing comes of a block at the end of the text that is searched. -/
theorem HasBlock.marksOf_eq_nil {b : Block (k.text.extract 0 r.stop).size} (hb : k.HasBlock p r b)
    (hr : r.stop ≤ r.start) (following : List Frame) :
    (p.blockSteps b).flatMap (k.marksOf following) = [] := by
  refine List.flatMap_eq_nil_iff.mpr fun s hs ↦ List.eq_nil_iff_forall_not_mem.mpr fun m hm ↦ ?_
  have htakes : k.Takes p r s := takes_of_mem_blockSteps hb hs
  cases hregion : s.region? with
  | none =>
    rw [marksOf_of_region?_eq_none hregion] at hm
    cases hm
  | some r' =>
    -- A mark has an extent, for which there is no room.
    have hwithin := (within_of_mem_marksOf hregion hm).trans (htakes.within hregion)
    have hlt := Region.start_lt_stop_of_isEmpty_eq_false (htakes.isEmpty_eq_false_of_mem_marksOf hm)
    have hstart := hwithin.1
    have hstop := hwithin.2
    omega

/-- After a block that is not closed, the search goes on at the end of the region or behind it. -/
theorem marksOf_eq_nil_after_unclosed {begins ends : String}
    {b b' : Block (k.text.extract 0 r.stop).size}
    {front back : List (Block (k.text.extract 0 r.stop).size)} (hp : p.Uses (.block begins ends))
    (hopens : k.table.get? begins = some opens) (hcloses : k.table.get? ends = some closes)
    (hr : r.stop ≤ k.text.size) (hblocks : opens.blocksIn closes k.text r = front ++ b :: back)
    (hnone : b.closing = none) (hb' : b' ∈ back) (following : List Frame) :
    (p.blockSteps b').flatMap (k.marksOf following) = [] := by
  have hsize := size_extract_eq hr
  have hstop : b.stop = r.stop := by
    simp only [Block.stop, hnone, hsize]
  have hrest : b' ∈ opens.blocksFrom closes (k.text.extract 0 r.stop) b.resume := by
    rw [(isScan_blocksFrom opens closes _).eq_of_append hblocks]
    exact hb'
  have hresume : b.resume = r.stop := by
    have hbetween := between_opening_of_mem_blocksFrom hrest
    have := b.stop_le_resume
    have := hbetween.le_start
    have := hbetween.stop_le
    have := b'.opening.whole.start_le_stop
    omega
  rw [hresume] at hrest
  -- The later block is one of those in the empty region at the end of this one.
  have hb'' : k.HasBlock p ⟨r.stop, r.stop, Nat.le_refl _⟩ b' :=
    ⟨begins, ends, opens, closes, hp, hopens, hcloses, hrest⟩
  exact hb''.marksOf_eq_nil (Nat.le_refl _) following

/-- **A block rule goes through a region in order and to its end.** -/
theorem scansBlocks {begins ends : String} (hp : p.Uses (.block begins ends))
    (hopens : k.table.get? begins = some opens) (hcloses : k.table.get? ends = some closes)
    (hopensLeftmost : opens.IsLeftmost) (hclosesLeftmost : closes.IsLeftmost)
    (hr : r.stop ≤ k.text.size) :
    k.ScansBlocks p r opens closes (opens.blocksIn closes k.text r) := by
  have hsize := size_extract_eq hr
  have hchain := isChain_blocksFrom hopensLeftmost closes (k.text.extract 0 r.stop) r.start
  have hhead := head?_blocksFrom hopensLeftmost closes (k.text.extract 0 r.stop) r.start
  have hblock : ∀ b ∈ opens.blocksIn closes k.text r, k.HasBlock p r b := fun b hb ↦
    ⟨begins, ends, opens, closes, hp, hopens, hcloses, hb⟩
  exact {
    steps_eq := by
      simp only [steps, hp.1, hp.2, hopens, hcloses, Bool.false_eq_true, if_false]
    within := fun b hb ↦ (hblock b hb).whole_within
    pairwise := pairwise_blocksFrom opens closes _ _
    first := hhead.1
    next := hchain.1
    last := hchain.2
    none := hhead.2
    gap := by
      refine List.isChain_iff_forall_rel_of_append_cons_cons.mpr
        fun {b b' front back} hblocks m hm hle hlt ↦ ?_
      have hb : b ∈ opens.blocksIn closes k.text r := by rw [hblocks]; simp
      have hnext := List.isChain_iff_forall_rel_of_append_cons_cons.mp hchain.1 hblocks
      refine (has_opening_of_mem_blocksFrom hopensLeftmost hb).eq_opening hm hle ?_
      by_contra hresume
      have := hnext.first m hm (Nat.le_of_not_lt hresume)
      exact absurd hlt (Nat.not_lt_of_le this)
    closed := by
      intro b hb m hm
      have hfind := closing_eq_of_mem_blocksFrom hb
      rw [Option.mem_def.mp hm] at hfind
      refine ⟨hclosesLeftmost.isFirstFrom hfind.symm, ?_⟩
      simp only [Block.stop, Option.mem_def.mp hm]
    unclosed := by
      intro b hb hnone
      have hfind := closing_eq_of_mem_blocksFrom hb
      rw [hnone] at hfind
      refine ⟨hclosesLeftmost.hasNoneFrom hfind.symm, ?_⟩
      simp only [Block.stop, hnone, hsize]
    silent := by
      intro front b back hblocks hnone b' hb' following
      exact marksOf_eq_nil_after_unclosed hp hopens hcloses hr hblocks hnone hb' following
    length_le := by
      refine Nat.le_trans (length_blocksFrom_le opens closes _ _) ?_
      rw [hsize] }

end Tokenizer

/-! ## Blocks between letters -/

namespace Searcher

variable {letter : Char} {text : Array Char} {pos i : Nat}

/-- The search for a letter finds the first place that has it. -/
theorem letter_find_eq_some {m : { m : Match // m.Between pos text.size }}
    (h : (Searcher.letter letter).find text pos = some m) :
    ∃ i, m.1 = ⟨⟨i, i + 1, Nat.le_succ i⟩, []⟩ ∧ pos ≤ i ∧ text[i]? = some letter ∧
      ∀ j, pos ≤ j → text[j]? = some letter → i ≤ j := by
  unfold Searcher.letter at h
  dsimp only at h
  split at h
  · cases h
  · next i hfind =>
    obtain rfl := Option.some.inj h
    obtain ⟨hfound, -, hfirst⟩ := List.find?_range_eq_some.mp hfind
    have hfound : pos ≤ i ∧ text[i]? = some letter := by simpa using hfound
    refine ⟨i, rfl, hfound.1, hfound.2, fun j hle hj ↦ ?_⟩
    by_contra hlt
    have := hfirst j (Nat.lt_of_not_le hlt)
    simp [hle, hj] at this

theorem exists_letter_find (hle : pos ≤ i) (hi : text[i]? = some letter) :
    ∃ m, (Searcher.letter letter).find text pos = some m := by
  unfold Searcher.letter
  dsimp only
  split
  · next hnone =>
    have hlt : i < text.size := (Array.getElem?_eq_some_iff.mp hi).1
    have := List.find?_eq_none.mp hnone i (List.mem_range.mpr hlt)
    simp [hle, hi] at this
  · exact ⟨_, rfl⟩

theorem isLeftmost_letter (letter : Char) : (Searcher.letter letter).IsLeftmost where
  has := by
    intro text pos ⟨m, _⟩ hfind
    obtain ⟨i, rfl, -, hi, -⟩ := letter_find_eq_some hfind
    obtain ⟨m', hfind'⟩ := exists_letter_find (Nat.le_refl i) hi
    obtain ⟨i', hm', hle, -, hfirst⟩ := letter_find_eq_some hfind'
    obtain rfl : i' = i := Nat.le_antisymm (hfirst i (Nat.le_refl i) hi) hle
    rw [Has, hfind', Option.map_some, hm']
  not_past := by
    intro text pos m hm hle
    obtain ⟨m', hfind, hval⟩ := Option.map_eq_some_iff.mp hm
    obtain ⟨i, heq, hstart, hletter, -⟩ := letter_find_eq_some hfind
    rw [hval] at heq
    subst heq
    obtain ⟨m'', hfind'⟩ := exists_letter_find hle hletter
    obtain ⟨i', hi', -, -, hfirst⟩ := letter_find_eq_some hfind'
    refine ⟨m'', hfind', ?_⟩
    rw [hi']
    exact hfirst i hle hletter

end Searcher

/-- A grammar with a block that begins and ends with the same letter. -/
def blockGrammar : Grammar :=
  (Grammar.new "source.test").withPattern ((Pattern.block "x" "x").named "string")

/-- What applies the grammar to a text with three such letters. -/
def blockTokenizer : Tokenizer := blockGrammar.tokenizer cyclicTable (.ofString "x xx") {}

theorem scansBlocks_blockTokenizer :
    ((Searcher.letter 'x').blocksIn (.letter 'x') blockTokenizer.text ⟨0, 4, Nat.zero_le 4⟩).map
        (fun b ↦ (b.whole, b.closing.isSome)) =
      [(⟨0, 3, Nat.zero_le 3⟩, true), (⟨3, 4, Nat.le_succ 3⟩, false)] ∧
    (Searcher.letter 'x').IsLeftmost ∧
    blockTokenizer.ScansBlocks ((Pattern.block "x" "x").named "string") ⟨0, 4, Nat.zero_le 4⟩
      (.letter 'x') (.letter 'x')
      ((Searcher.letter 'x').blocksIn (.letter 'x') blockTokenizer.text ⟨0, 4, Nat.zero_le 4⟩) := by
  have hleftmost : (Searcher.letter 'x').IsLeftmost := Searcher.isLeftmost_letter 'x'
  refine ⟨by decide +kernel, hleftmost, ?_⟩
  have huses : ((Pattern.block "x" "x").named "string").Uses (.block "x" "x") := ⟨rfl, rfl⟩
  exact Tokenizer.scansBlocks huses rfl rfl hleftmost hleftmost (Nat.le_refl 4)

end Highlighter
