import Highlighter.Proofs.Search.Leftmost
import Highlighter.Proofs.Search.Offsets
import Highlighter.Proofs.Tokenize.Evaluation

/-!
# The matches in a region

A scan for matches goes from byte offset to byte offset, over characters of one to four bytes
(`Source.Yields`). `Source.ScansMatches` says what it yields for a region: which matches there are
is told from the matches that the text up to the end of the region has, and not from the order in
which they are searched for. An engine that finds the first match is all that is assumed
(`Searcher.scansMatches`).

After an empty match the scan goes on with the next character, so it yields an empty match that
directly follows another match. The usual iteration over matches searches on at the end of each
match and rejects an empty match there (`Searcher.standardFrom`). No match gets lost or is added by
this, other than empty ones: an empty match is found again where it ends, and what comes after it is
the same, whether it is rejected or not (`Searcher.IsLeftmost.filter_standardFrom`).
-/

namespace Highlighter

/-! ## The loop over byte offsets -/

namespace Source

variable {s : Source} {finds : Searcher} {pos offset : Nat} {m : Match} {ms ms' : List Match}

/-- What a scan for matches yields that begins at a byte offset. -/
inductive Yields (s : Source) (finds : Searcher) : Nat → List Match → Prop
  /-- Behind the text the scan has come to its end. -/
  | behind {offset : Nat} (h : s.byteSize < offset) : Yields s finds offset []
  /-- The scan also ends where nothing is found. -/
  | nothing {offset pos : Nat} (h : offset ≤ s.byteSize) (hpos : s.position? offset = some pos)
      (hfind : finds.find s.chars pos = none) : Yields s finds offset []
  /-- What is found is yielded, and the scan goes on behind it. -/
  | found {offset pos : Nat} {m : { m : Match // m.Between pos s.chars.size }} {ms : List Match}
      (h : offset ≤ s.byteSize) (hpos : s.position? offset = some pos)
      (hfind : finds.find s.chars pos = some m)
      (hrest : Yields s finds (s.offsetBehind m.1.whole) ms) : Yields s finds offset (m.1 :: ms)

theorem Yields.unique (h : s.Yields finds offset ms) (h' : s.Yields finds offset ms') :
    ms = ms' := by
  induction h generalizing ms' with
  | behind hbehind =>
    cases h' with
    | behind => rfl
    | nothing hle | found hle => omega
  | nothing hle hpos hfind =>
    cases h' with
    | behind hbehind => omega
    | nothing => rfl
    | found _ hpos' hfind' =>
      obtain rfl := Option.some.inj (hpos.symm.trans hpos')
      rw [hfind] at hfind'
      cases hfind'
  | found hle hpos hfind _ ih =>
    cases h' with
    | behind hbehind => omega
    | nothing _ hpos' hfind' =>
      obtain rfl := Option.some.inj (hpos.symm.trans hpos')
      rw [hfind] at hfind'
      cases hfind'
    | found _ hpos' hfind' hrest' =>
      obtain rfl := Option.some.inj (hpos.symm.trans hpos')
      obtain rfl := Option.some.inj (hfind.symm.trans hfind')
      rw [ih hrest']

/-- The next character after an empty match is at the next position, whatever its length. -/
theorem offsetBehind_whole (h : m.resume ≤ s.size) :
    s.offsetBehind m.whole = s.offset m.resume := by
  unfold Match.resume at h ⊢
  unfold offsetBehind
  split
  · next hempty =>
    rw [if_pos hempty] at h
    exact offsetAfter_offset h
  · rfl

/-- After an empty match at the end of a text the scan has come behind the text. -/
theorem byteSize_lt_offsetBehind (hstop : m.whole.stop ≤ s.size) (h : s.size < m.resume) :
    s.byteSize < s.offsetBehind m.whole := by
  unfold Match.resume at h
  unfold offsetBehind
  split
  · next hempty =>
    rw [if_pos hempty] at h
    have heq : m.whole.stop = s.size := by omega
    rw [heq, ← byteSize, offsetAfter_byteSize]
    exact Nat.lt_succ_self _
  · next hempty =>
    rw [if_neg hempty] at h
    omega

/-- **The loop over byte offsets yields the matches from a position on.** -/
theorem yields_matchesFrom (s : Source) (finds : Searcher) (hpos : pos ≤ s.size) :
    s.Yields finds (s.offset pos) (finds.matchesFrom s.chars pos) := by
  have hle : s.offset pos ≤ s.byteSize := offset_le_offset hpos (Nat.le_refl _)
  have hposition := position?_offset hpos
  fun_induction Searcher.matchesFrom finds s.chars pos with
  | case1 pos _ hfind => exact .nothing hle hposition hfind
  | case2 pos _ m hm hfind _ ih =>
    refine .found hle hposition hfind ?_
    by_cases hresume : m.resume ≤ s.size
    · rw [offsetBehind_whole hresume]
      exact ih hresume (offset_le_offset hresume (Nat.le_refl _)) (position?_offset hresume)
    · have hlt : s.size < m.resume := Nat.lt_of_not_le hresume
      rw [matchesFrom_of_size_lt finds hlt]
      exact .behind (byteSize_lt_offsetBehind hm.stop_le hlt)
  | case3 pos hbehind => exact absurd hpos hbehind

end Source

/-! ## The usual iteration -/

namespace Searcher

variable {finds : Searcher} {text : Array Char} {pos : Nat} {m : Match}

/-- The usual iteration over the matches in a text from a position on, where the match before them
ended at `last`. It searches on at the end of each match. An empty match there is rejected, and the
search goes on with the next character. -/
def standardFrom (finds : Searcher) (text : Array Char) (pos : Nat) (last : Option Nat) :
    List Match :=
  if pos ≤ text.size then
    match finds.find text pos with
    | none => []
    | some ⟨m, hm⟩ =>
      have := hm.le_start
      have := m.whole.start_le_stop
      if m.whole.isEmpty ∧ last = some m.whole.stop then
        finds.standardFrom text (m.whole.stop + 1) last
      else m :: finds.standardFrom text m.whole.stop (some m.whole.stop)
  else []
termination_by 2 * (text.size + 1 - pos) + if last = some pos then 0 else 1
decreasing_by
  · split <;> omega
  · next hreject =>
    rw [if_pos trivial]
    split
    · next hlast =>
      -- Where the last match ended at the position, what is found there is not empty.
      have hlt : pos < m.whole.stop := by
        by_contra hle
        obtain rfl : pos = m.whole.stop := by omega
        exact hreject ⟨Region.isEmpty_iff.mpr (by omega), hlast⟩
      omega
    · omega

/-- After a match, it makes no difference for what is not empty whether the search begins where the
match ends or where the scan goes on. -/
theorem Has.filter_matchesFrom_stop (hm : finds.Has text m) :
    (finds.matchesFrom text m.whole.stop).filter (fun m ↦ !m.whole.isEmpty) =
      (finds.matchesFrom text m.resume).filter fun m ↦ !m.whole.isEmpty := by
  by_cases hempty : m.whole.isEmpty = true
  · -- An empty match is found again where it ends, and the search then goes on as after it.
    obtain ⟨m', hfind, hval⟩ := Option.map_eq_some_iff.mp hm
    rw [← Region.isEmpty_iff.mp hempty, matchesFrom_of_find_eq_some hfind, hval]
    exact List.filter_cons_of_neg (by simp [hempty])
  · rw [Match.resume, if_neg hempty]

/-- **Rejecting empty matches does not change the other ones.** -/
theorem IsLeftmost.filter_standardFrom (hfinds : finds.IsLeftmost) (text : Array Char) (pos : Nat)
    (last : Option Nat) :
    (finds.standardFrom text pos last).filter (fun m ↦ !m.whole.isEmpty) =
      (finds.matchesFrom text pos).filter fun m ↦ !m.whole.isEmpty := by
  fun_induction standardFrom finds text pos last with
  | case1 pos last hpos hfind => rw [matchesFrom_of_find_eq_none hfind]
  | case2 pos last hpos m hm hfind _ _ hreject ih =>
    rw [ih, matchesFrom_of_find_eq_some hfind, List.filter_cons_of_neg (by simp [hreject.1]),
      Match.resume, if_pos hreject.1]
  | case3 pos last hpos m hm hfind _ _ haccept ih =>
    rw [matchesFrom_of_find_eq_some hfind, List.filter_cons, List.filter_cons, ih,
      (hfinds.has text pos ⟨m, hm⟩ hfind).filter_matchesFrom_stop]
  | case4 pos last hpos => rw [matchesFrom_of_size_lt finds (Nat.lt_of_not_le hpos)]

/-- A rule for single matches passes over the empty ones. What it uses is therefore the same as
under the usual iteration. -/
theorem IsLeftmost.matchesIn_eq (hfinds : finds.IsLeftmost) (text : Array Char) (r : Region) :
    finds.matchesIn text r = (finds.standardFrom (text.extract 0 r.stop) r.start none).filter
      fun m ↦ !m.whole.isEmpty :=
  (hfinds.filter_standardFrom _ _ _).symm

end Searcher

/-! ## The matches of a region -/

/-- What it means that a scan yields the matches in a region, where the text up to the end of the
region is searched. -/
structure Source.ScansMatches (s : Source) (finds : Searcher) (r : Region) (ms : List Match) :
    Prop where
  /-- The loop over byte offsets yields these matches and no others. -/
  yields_iff : ∀ ms', (s.upTo r.stop).Yields finds (s.offset r.start) ms' ↔ ms' = ms
  /-- There are no more matches than positions in the region. -/
  length_le : ms.length ≤ r.stop + 1 - r.start
  /-- What is yielded is a match. -/
  has : ∀ m ∈ ms, finds.Has (s.upTo r.stop).chars m
  /-- The matches lie in the region. -/
  within : ∀ m ∈ ms, m.whole.Within r
  /-- The matches are in order, and no two of them have text in common. -/
  pairwise : ms.Pairwise fun m m' ↦
    m.whole.stop ≤ m'.whole.start ∧ m.whole.start < m'.whole.start
  /-- The first match is the first one in the region. -/
  first : ∀ m ∈ ms.head?, finds.IsFirstFrom (s.upTo r.stop).chars r.start m
  /-- Each other match is the first one from the end of the match before it, or from the next
  character if that match is empty. -/
  next : ms.IsChain fun m m' ↦ finds.IsFirstFrom (s.upTo r.stop).chars
    (if m.whole.isEmpty then m.whole.stop + 1 else m.whole.stop) m'
  /-- After the last match there is none. -/
  last : ∀ m ∈ ms.getLast?, finds.HasNoneFrom (s.upTo r.stop).chars
    (if m.whole.isEmpty then m.whole.stop + 1 else m.whole.stop)
  /-- Where no match is yielded, there is none in the region. -/
  none : ms = [] → finds.HasNoneFrom (s.upTo r.stop).chars r.start
  /-- The matches that are not empty are those of the usual iteration. -/
  filter_eq : ms.filter (fun m ↦ !m.whole.isEmpty) =
    (finds.standardFrom (s.upTo r.stop).chars r.start .none).filter fun m ↦ !m.whole.isEmpty

/-- **A scan yields the matches in a region**, in order and to its end. -/
theorem Searcher.IsLeftmost.scansMatches {s : Source} {finds : Searcher} {r : Region}
    (hfinds : finds.IsLeftmost) (hr : r.stop ≤ s.size) :
    s.ScansMatches finds r (finds.matchesFrom (s.upTo r.stop).chars r.start) := by
  have hsize : (s.upTo r.stop).chars.size = r.stop := Source.size_upTo hr
  have hscan := isScan_matchesFrom finds (s.upTo r.stop).chars
  exact {
    yields_iff := by
      have hyields := (s.upTo r.stop).yields_matchesFrom finds (hsize.symm ▸ r.start_le_stop)
      rw [Source.offset_upTo r.start_le_stop hr] at hyields
      exact fun ms' ↦ ⟨fun h ↦ h.unique hyields, fun h ↦ h ▸ hyields⟩
    length_le := by
      have hlength := length_matchesFrom_le finds (s.upTo r.stop).chars r.start
      rwa [hsize] at hlength
    has := fun m hm ↦ hfinds.has_of_mem_matchesFrom hm
    within := by
      intro m hm
      have hbetween := between_of_mem_matchesFrom hm
      exact ⟨hbetween.le_start, Nat.le_trans hbetween.stop_le (Nat.le_of_eq hsize)⟩
    pairwise := (pairwise_resume_le_matchesFrom finds _ _).imp fun {m _} hle ↦
      ⟨Nat.le_trans m.stop_le_resume hle, Nat.lt_of_lt_of_le m.start_lt_resume hle⟩
    first := fun m hm ↦ hfinds.isFirstFrom_of_finds (hscan.next_of_mem_head? hm)
    next := (hscan.isChain r.start).imp fun _ _ hnext ↦ hfinds.isFirstFrom_of_finds hnext
    last := fun m hm ↦ hfinds.hasNoneFrom (hscan.ends_of_mem_getLast? hm)
    none := fun hnil ↦ hfinds.hasNoneFrom (hscan.nil hnil)
    filter_eq := (hfinds.filter_standardFrom _ _ _).symm }

/-! ## Runs of a letter -/

namespace Searcher

variable {letter : Char} {text : Array Char} {pos : Nat}

/-- How often a letter is repeated from a position on. -/
def runLength (letter : Char) (text : Array Char) (pos : Nat) : Nat :=
  ((text.toList.drop pos).takeWhile (· == letter)).length

theorem add_runLength_le (letter : Char) (hpos : pos ≤ text.size) :
    pos + runLength letter text pos ≤ text.size := by
  have hlength : runLength letter text pos ≤ text.size - pos := by
    rw [← Array.length_toList, ← List.length_drop]
    exact (List.takeWhile_sublist _).length_le
  omega

/-- What finds any number of a letter, at each position as many as there are. -/
def repeated (letter : Char) : Searcher where
  find text pos :=
    if hpos : pos ≤ text.size then
      some ⟨.ofLength pos (runLength letter text pos), by
        simpa [Match.Between, Match.allGroups, Match.ofLength] using add_runLength_le letter hpos⟩
    else none

theorem repeated_find_of_le (letter : Char) (hpos : pos ≤ text.size) :
    ((repeated letter).find text pos).map (·.1) =
      some (.ofLength pos (runLength letter text pos)) := by
  unfold repeated
  dsimp only
  rw [dif_pos hpos, Option.map_some]

theorem isLeftmost_repeated (letter : Char) : (repeated letter).IsLeftmost where
  has := by
    intro text pos m hfind
    have hpos : pos ≤ text.size := m.2.start_le_stop
    have hval : m.1 = .ofLength pos (runLength letter text pos) := by
      have hfind' := repeated_find_of_le letter hpos
      rw [hfind] at hfind'
      exact Option.some.inj hfind'
    rw [Has, hval]
    exact repeated_find_of_le letter hpos
  not_past := by
    intro text pos m hm hle
    have hpos : pos ≤ text.size :=
      Nat.le_trans hle (Nat.le_trans m.whole.start_le_stop hm.stop_le)
    obtain ⟨m', hfind, hval⟩ := Option.map_eq_some_iff.mp (repeated_find_of_le letter hpos)
    exact ⟨m', hfind, hval ▸ hle⟩

end Searcher

/-- There is an empty match in front of a run of letters and one behind it. The usual iteration
rejects the second one. The letter behind the region is not found. -/
theorem scansMatches_repeated :
    ((Searcher.repeated 'x').matchesFrom ((Source.ofString "axxéx").upTo 4).chars 0).map
        (fun m ↦ (m.whole.start, m.whole.stop)) = [(0, 0), (1, 3), (3, 3), (4, 4)] ∧
    ((Searcher.repeated 'x').standardFrom ((Source.ofString "axxéx").upTo 4).chars 0 none).map
        (fun m ↦ (m.whole.start, m.whole.stop)) = [(0, 0), (1, 3), (4, 4)] ∧
    (Searcher.repeated 'x').IsLeftmost ∧
    (Source.ofString "axxéx").ScansMatches (.repeated 'x') ⟨0, 4, Nat.zero_le 4⟩
      ((Searcher.repeated 'x').matchesFrom ((Source.ofString "axxéx").upTo 4).chars 0) := by
  have hleftmost : (Searcher.repeated 'x').IsLeftmost := Searcher.isLeftmost_repeated 'x'
  refine ⟨by decide +kernel, by decide +kernel, hleftmost, ?_⟩
  exact hleftmost.scansMatches (r := ⟨0, 4, Nat.zero_le 4⟩) (by decide +kernel)

end Highlighter
