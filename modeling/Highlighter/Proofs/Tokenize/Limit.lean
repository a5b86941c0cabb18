import Highlighter.Proofs.Tokenize.Agreement

/-!
# Tokenizing needs no limit

A measure that counts the frames that are left serves for every limit at once. So chains of calls
end even where nothing limits how many references are nested, and the limit has an influence only
below the number of frames.
-/

namespace Highlighter

namespace Tokenizer

variable {k : Tokenizer} {c c' : Call} {s : Step}

/-! ## Termination without a limit -/

/-- The same tokenizer with another limit. -/
def withDepth (k : Tokenizer) (depth : Nat) : Tokenizer :=
  { k with options := { k.options with maxIncludeDepth := depth } }

/-- Whether a call makes another one if nothing limits how many references are nested. -/
def MayCall (k : Tokenizer) (c c' : Call) : Prop := ∃ depth, c' ∈ (k.withDepth depth).calls c

theorem IsSound.of_mayCall (h : k.IsSound c) (hc : k.MayCall c c') : k.IsSound c' := by
  obtain ⟨depth, hc⟩ := hc
  have h' : (k.withDepth depth).IsSound c := ⟨h.nodup, h.subset, h.stop_le⟩
  obtain ⟨hnodup, hsubset, hstop⟩ := h'.of_mem_calls hc
  exact ⟨hnodup, hsubset, hstop⟩

/-- There is no endless chain of calls, not even where references are followed without a limit. The
measure counts the frames that are left, and then the size of the pattern. -/
theorem IsSound.acc_mayCall (h : k.IsSound c) : Acc (fun c' c ↦ k.MayCall c c') c := by
  induction c using (Call.wellFounded_rest (k.grammar.frameBound k.text.size)).induction with
  | _ c ih =>
    refine .intro c fun c' hc' ↦ ?_
    have h' := h.of_mayCall hc'
    obtain ⟨depth, hc'⟩ := hc'
    obtain ⟨s, hs, hc'⟩ := List.mem_flatMap.mp hc'
    -- The measure counts up to the number of frames, which no limit of a tokenizer enters into.
    refine ih c' ((k.withDepth depth).rest_lt_of_mem_callsOf hs hc' ?_) h'
    exact Nat.le_trans h'.length_le (Nat.le_max_left _ _)

/-- What it takes for a tokenizer to come to an end, whatever the limit is. -/
structure Terminates (k : Tokenizer) : Prop where
  /-- There is no endless chain of calls. -/
  acc : ∀ c ∈ k.topCalls, Acc (fun c' c ↦ k.MayCall c c') c
  /-- The scan of a region for matches has no more finds than there are positions. -/
  length_matches_le (finds : Searcher) (r : Region) :
    (finds.matchesFrom (k.text.extract 0 r.stop) r.start).length ≤ r.stop + 1 - r.start
  /-- The scan of a region for blocks has no more finds than there are positions. -/
  length_blocks_le (opens closes : Searcher) (r : Region) :
    (opens.blocksFrom closes (k.text.extract 0 r.stop) r.start).length ≤ r.stop + 1 - r.start

theorem terminates (k : Tokenizer) : k.Terminates where
  acc _ hc := (IsSound.of_mem_topCalls hc).acc_mayCall
  length_matches_le finds r := by
    have := length_matchesFrom_le finds (k.text.extract 0 r.stop) r.start
    have := size_extract_le k.text r.stop
    omega
  length_blocks_le opens closes r := by
    have := length_blocksFrom_le opens closes (k.text.extract 0 r.stop) r.start
    have := size_extract_le k.text r.stop
    omega

/-! ## Sufficient limits -/

theorem callsOf_withDepth_eq {d d' : Nat} (h : k.IsSound c) (hs : k.Takes c.pattern c.region s)
    (hd : k.grammar.frameBound k.text.size ≤ d) (hd' : k.grammar.frameBound k.text.size ≤ d') :
    (k.withDepth d).callsOf c.following s = (k.withDepth d').callsOf c.following s := by
  cases s with
  | mark m | fail e | apply p r => rfl
  | follow target r =>
    -- A reference that stands for nothing need not be a frame of the grammar, but makes no calls.
    cases hres : k.grammar.resolve target with
    | nil => simp [callsOf, withDepth, hres]
    | cons p ps =>
      have hr : r.stop ≤ k.text.size := Nat.le_trans (hs.within rfl).2 h.stop_le
      have hp : p ∈ k.grammar.resolve target := hres ▸ List.mem_cons_self
      have hfollows (d : Nat) (hd : k.grammar.frameBound k.text.size ≤ d) :
          (k.withDepth d).Follows c.following (target, r) ↔ (target, r) ∉ c.following :=
        IsSound.follows_iff (k := k.withDepth d) ⟨h.nodup, h.subset, h.stop_le⟩ hr hp hd
      simp only [callsOf, hfollows d hd, hfollows d' hd']
      rfl

/-- With limits that suffice, tokenizers do the same wherever they come. -/
theorem agrees_withDepth {d d' : Nat} (hd : k.grammar.frameBound k.text.size ≤ d)
    (hd' : k.grammar.frameBound k.text.size ≤ d') : (k.withDepth d').Agrees (k.withDepth d) where
  topCalls_eq := rfl
  steps_eq _ _ := rfl
  callsOf_eq c hc s hs := by
    have hsound : k.IsSound c := ⟨hc.isSound.nodup, hc.isSound.subset, hc.isSound.stop_le⟩
    have hs : s ∈ k.steps c.pattern c.region := (k.withDepth d').mem_steps_iff.mpr hs
    exact callsOf_withDepth_eq hsound (mem_steps_iff.mp hs) hd hd'

theorem marks_withDepth_eq {d d' : Nat} (hd : k.grammar.frameBound k.text.size ≤ d)
    (hd' : k.grammar.frameBound k.text.size ≤ d') :
    (k.withDepth d).marks = (k.withDepth d').marks := (agrees_withDepth hd hd').marks_eq

end Tokenizer

/-- **Tokenizing terminates, and a sufficient limit changes nothing.** Whatever the limit is,
tokenizing ends without it, and the references that are being followed are different frames, no more
than the limit and no more than there are frames. From the number of frames on, the limit is not
what keeps a reference from being followed, and has no influence on the result. -/
theorem tokenize_terminates_within_frameBound (engine : Engine) (g : Grammar) (text : String)
    (nested : NestedScope) :
    (∀ table depth, (g.tokenizer table (.ofString text) ⟨depth, nested⟩).Terminates ∧
      ∀ c, (g.tokenizer table (.ofString text) ⟨depth, nested⟩).Reached c →
        c.following.Nodup ∧ c.following.length ≤ min depth (g.frameBound text.length)) ∧
    (∀ table depth, g.frameBound text.length ≤ depth →
      ∀ c, (g.tokenizer table (.ofString text) ⟨depth, nested⟩).Reached c →
        ∀ target r, (g.tokenizer table (.ofString text) ⟨depth, nested⟩).Takes c.pattern c.region
          (.follow target r) → g.resolve target ≠ [] → (target, r) ∉ c.following →
        c.following.length < depth) ∧
    ∀ depth depth', g.frameBound text.length ≤ depth → g.frameBound text.length ≤ depth' →
      tokenize engine g text ⟨depth, nested⟩ = tokenize engine g text ⟨depth', nested⟩ := by
  rw [← Source.size_chars_ofString]
  refine ⟨fun table depth ↦ ⟨Tokenizer.terminates _, fun c hc ↦ ?_⟩,
    fun table depth hd c hc target r hs htarget hf ↦ ?_, fun depth depth' hd hd' ↦ ?_⟩
  · exact ⟨hc.isSound.nodup, Nat.le_min.mpr ⟨hc.length_le, hc.isSound.length_le⟩⟩
  · obtain ⟨p, hp⟩ := List.exists_mem_of_ne_nil _ htarget
    exact ((hc.follows_iff hs hp hd).mpr hf).2
  · unfold tokenize
    congr 1
    funext table
    have hmarks : (g.tokenizer table (.ofString text) ⟨depth, nested⟩).marks =
        (g.tokenizer table (.ofString text) ⟨depth', nested⟩).marks :=
      Tokenizer.marks_withDepth_eq (k := g.tokenizer table (.ofString text) ⟨depth, nested⟩) hd hd'
    exact congrArg (· >>= fun marks ↦ pure (marks.map (Source.ofString text).token)) hmarks

theorem tokenize_cyclicGrammar_within_frameBound :
    cyclicGrammar.frameBound "x x".length ≤ 20 ∧
    cyclicGrammar.frameBound "x x".length ≤ 1000000 ∧
    tokenize letterEngine cyclicGrammar "x x" ⟨20, .confined⟩ =
      tokenize letterEngine cyclicGrammar "x x" ⟨1000000, .confined⟩ :=
  have hd : cyclicGrammar.frameBound "x x".length ≤ 20 := by decide
  have hd' : cyclicGrammar.frameBound "x x".length ≤ 1000000 := by decide
  ⟨hd, hd', (tokenize_terminates_within_frameBound _ _ _ _).2.2 20 1000000 hd hd'⟩

end Highlighter
