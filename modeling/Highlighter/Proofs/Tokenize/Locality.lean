import Highlighter.Proofs.Search.Fronts
import Highlighter.Proofs.Tokenize.Agreement
import Highlighter.Proofs.Tokenize.Evaluation

/-!
# What is behind a region

A search in a region sees the text up to the end of the region. What is searched next is a part of
the region, so none of the calls that come of a call sees anything behind the region of the first
one. The invariant of the run is that the region of a call lies in the front of the text
(`Call.SameUpTo`), and what follows from it is that the call results in the same if the rest of the
text is cut off (`Tokenizer.run_upTo`). Two texts that agree up to the end of a region have the same
front, so the same comes of the region in both of them (`Grammar.tokensAdded_eq_of_agreeUpTo`).

The references that are being followed may have been followed on regions that go on behind the
front. Such a region need not even exist in the other text. This makes no difference, because a
reference that is met in the front is compared with those that are being followed there.
-/

namespace Highlighter

/-! ## References in the front -/

/-- Whether the same references are being followed as far as the first characters of a text are
concerned: there are as many of them, and those on regions in the front are the same. -/
structure SameFrames (size : Nat) (following following' : List Frame) : Prop where
  length_eq : following'.length = following.length
  mem_iff (f : Frame) (hf : f.2.stop ≤ size) : f ∈ following' ↔ f ∈ following

namespace SameFrames

variable {size : Nat} {following following' : List Frame} {f : Frame}

theorem refl (size : Nat) (following : List Frame) : SameFrames size following following :=
  ⟨rfl, fun _ _ ↦ Iff.rfl⟩

theorem cons (h : SameFrames size following following') (f : Frame) :
    SameFrames size (f :: following) (f :: following') where
  length_eq := by rw [List.length_cons, List.length_cons, h.length_eq]
  mem_iff f' hf' := by rw [List.mem_cons, List.mem_cons, h.mem_iff f' hf']

theorem follows_iff (h : SameFrames size following following') (k : Tokenizer)
    (hf : f.2.stop ≤ size) : k.Follows following' f ↔ k.Follows following f := by
  rw [Tokenizer.Follows, Tokenizer.Follows, h.mem_iff f hf, h.length_eq]

end SameFrames

/-- A reference that is being followed, with the byte offsets of the region. -/
def Source.frameOffsets (s : Source) (f : Frame) : RuleRef × Nat × Nat :=
  (f.1, s.offset f.2.start, s.offset f.2.stop)

section Offsets

variable {s s' : Source} {size : Nat} {following following' : List Frame}

/-- What has the byte offsets of a frame in the front of another text is the same frame. -/
theorem Source.mem_of_frameOffsets_mem (hfront : s'.upTo size = s.upTo size) (h : size ≤ s.size)
    (h' : size ≤ s'.size) (hfollowing : ∀ f ∈ following, f.2.stop ≤ s.size) {f : Frame}
    (hf : f.2.stop ≤ size) (hmem : s'.frameOffsets f ∈ following.map s.frameOffsets) :
    f ∈ following := by
  obtain ⟨⟨target, r⟩, hr, heq⟩ := List.mem_map.mp hmem
  have hfstop : f.2.stop ≤ s.size := Nat.le_trans hf h
  have hfstart : f.2.start ≤ s.size := Nat.le_trans f.2.start_le_stop hfstop
  have hrstop : r.stop ≤ s.size := hfollowing _ hr
  have hrstart : r.start ≤ s.size := Nat.le_trans r.start_le_stop hrstop
  obtain ⟨htarget, hstart, hstop⟩ : target = f.1 ∧ s.offset r.start = s'.offset f.2.start ∧
      s.offset r.stop = s'.offset f.2.stop := by
    simpa [frameOffsets] using heq
  rw [offset_eq_of_upTo_eq hfront h h' (Nat.le_trans f.2.start_le_stop hf)] at hstart
  rw [offset_eq_of_upTo_eq hfront h h' hf] at hstop
  have hregion : r = f.2 := Region.eq_of_ends
    (offset_inj hrstart hfstart hstart) (offset_inj hrstop hfstop hstop)
  rwa [htarget, hregion] at hr

/-- References that are being followed between the same byte offsets are the same in the front, even
if the positions behind it differ. -/
theorem sameFrames_of_frameOffsets_eq (hfront : s'.upTo size = s.upTo size) (h : size ≤ s.size)
    (h' : size ≤ s'.size) (hfollowing : ∀ f ∈ following, f.2.stop ≤ s.size)
    (hfollowing' : ∀ f ∈ following', f.2.stop ≤ s'.size)
    (hoffsets : following'.map s'.frameOffsets = following.map s.frameOffsets) :
    SameFrames size following following' where
  length_eq := by rw [← List.length_map s'.frameOffsets, hoffsets, List.length_map]
  mem_iff f hf :=
    ⟨fun hmem ↦ Source.mem_of_frameOffsets_mem hfront h h' hfollowing hf
        (hoffsets ▸ List.mem_map_of_mem hmem),
      fun hmem ↦ Source.mem_of_frameOffsets_mem hfront.symm h' h hfollowing' hf
        (hoffsets ▸ List.mem_map_of_mem hmem)⟩

end Offsets

/-! ## Calls in the front -/

/-- Whether two calls are for the same pattern and the same region, which lies in the front, while
the same references are being followed there. -/
structure Call.SameUpTo (size : Nat) (c c' : Call) : Prop where
  pattern_eq : c'.pattern = c.pattern
  region_eq : c'.region = c.region
  stop_le : c.region.stop ≤ size
  frames : SameFrames size c.following c'.following

namespace Tokenizer

variable {k : Tokenizer} {c c' : Call} {p : Pattern} {r : Region} {size : Nat}

/-- The same for the front of the text only. -/
def upTo (k : Tokenizer) (size : Nat) : Tokenizer := { k with text := k.text.extract 0 size }

/-- **A step does not depend on what is behind the region.** -/
theorem steps_upTo (hr : r.stop ≤ size) : (k.upTo size).steps p r = k.steps p r := by
  have htext : (k.text.extract 0 size).extract 0 r.stop = k.text.extract 0 r.stop := by
    rw [Array.extract_extract, Nat.zero_add, Nat.zero_add, Nat.min_eq_left hr]
  simp only [steps, upTo, Searcher.matchesIn, Searcher.blocksIn]
  rw [htext]

theorem simulates_upTo (k : Tokenizer) (size : Nat) :
    k.Simulates (k.upTo size) (Call.SameUpTo size) where
  steps_eq {c c'} hc := by
    rw [effectiveSteps, effectiveSteps, hc.pattern_eq, hc.region_eq, steps_upTo hc.stop_le]
  callsOf {c c'} hc s hs := by
    cases s with
    | mark m | fail e => exact .nil
    | apply q r =>
      have hr : r.stop ≤ size := Nat.le_trans (hs.within rfl).2 hc.stop_le
      exact .cons ⟨rfl, rfl, hr, hc.frames⟩ .nil
    | follow target r =>
      have hr : r.stop ≤ size := Nat.le_trans (hs.within rfl).2 hc.stop_le
      have hfollows : (k.upTo size).Follows c'.following (target, r) ↔
          k.Follows c.following (target, r) := hc.frames.follows_iff k hr
      by_cases hf : k.Follows c.following (target, r)
      · rw [Tokenizer.callsOf, Tokenizer.callsOf, if_pos hf, if_pos (hfollows.mpr hf),
          List.forall₂_map_left_iff, List.forall₂_map_right_iff]
        exact List.forall₂_same.mpr fun q _ ↦ ⟨rfl, rfl, hr, hc.frames.cons _⟩
      · rw [Tokenizer.callsOf, Tokenizer.callsOf, if_neg hf, if_neg (mt hfollows.mp hf)]
        exact .nil

/-- **A call does not depend on what is behind its region.** -/
theorem run_upTo (hc : c.SameUpTo size c') : (k.upTo size).run c' = k.run c :=
  (k.simulates_upTo size).run_eq hc

end Tokenizer

/-! ## Tokens of the front -/

/-- The token of a mark does not depend on what is behind the mark. -/
theorem Source.token_upTo {s : Source} {m : Mark} {size : Nat} (hm : m.region.stop ≤ size)
    (h : size ≤ s.size) : (s.upTo size).token m = s.token m := by
  rw [token, token, slice_upTo hm, offset_upTo hm h,
    offset_upTo (Nat.le_trans m.region.start_le_stop hm) h]

namespace Grammar

variable {g : Grammar} {table : RuleTable} {options : TokenizeOptions} {s : Source} {c c' : Call}
  {size : Nat}

/-- The tokens that a call adds to those of a text, and the reasons to give up, in order. -/
def tokensAdded (g : Grammar) (table : RuleTable) (options : TokenizeOptions) (s : Source)
    (c : Call) : List (Except GrammarError Token) :=
  ((g.tokenizer table s options).run c).map fun result ↦ result.map s.token

theorem tokensAdded_upTo (hc : c.SameUpTo size c') (h : size ≤ s.size) :
    g.tokensAdded table options (s.upTo size) c' = g.tokensAdded table options s c := by
  have hrun : (g.tokenizer table (s.upTo size) options).run c' =
      (g.tokenizer table s options).run c :=
    Tokenizer.run_upTo (k := g.tokenizer table s options) hc
  rw [tokensAdded, tokensAdded, hrun]
  refine List.map_congr_left fun result hresult ↦ ?_
  cases result with
  | error e => rfl
  | ok m =>
    have hwithin := Tokenizer.within_of_mem_made (Tokenizer.mem_made_iff_mem_run.mpr hresult)
    exact congrArg Except.ok (Source.token_upTo (Nat.le_trans hwithin.2 hc.stop_le) h)

/-- **Nothing behind a region has an influence on the tokens in it.** Where two texts agree up to
the end of a region, to apply a pattern to the region adds the same tokens. -/
theorem tokensAdded_eq_of_agreeUpTo (g : Grammar) (table : RuleTable) (options : TokenizeOptions)
    (p : Pattern) {text text' : String} {start stop : Nat} {r : Region}
    {following following' : List Frame} (hagree : AgreeUpTo text text' stop)
    (hr : (Source.ofString text).region? start stop = some r)
    (hframes : SameFrames r.stop following following') :
    (Source.ofString text').region? start stop = some r ∧
      g.tokensAdded table options (.ofString text') ⟨following', p, r⟩ =
        g.tokensAdded table options (.ofString text) ⟨following, p, r⟩ := by
  rw [← Source.text_ofString text, ← Source.text_ofString text'] at hagree
  refine ⟨Source.region?_eq_of_agreeUpTo hr hagree, ?_⟩
  obtain ⟨h, -, rfl⟩ := Source.offset_of_region?_eq_some hr
  obtain ⟨h', hfront⟩ := Source.upTo_eq_of_agreeUpTo h hagree
  rw [← tokensAdded_upTo (c := ⟨following', p, r⟩)
      ⟨rfl, rfl, Nat.le_refl r.stop, .refl r.stop following'⟩ h',
    hfront]
  exact tokensAdded_upTo ⟨rfl, rfl, Nat.le_refl r.stop, hframes⟩ h

end Grammar

/-- The texts have their first three bytes in common. A reference is being followed up to the sixth
byte, which is at another position in the second text. On the three bytes a letter is found, and the
letters behind them are not. -/
theorem tokensAdded_cyclicGrammar_eq :
    AgreeUpTo "éxéx" "éxxxxx" 3 ∧
    (Source.ofString "éxxxxx").region? 0 3 = some ⟨0, 2, Nat.zero_le 2⟩ ∧
    SameFrames 2 [(.self, ⟨0, 4, Nat.zero_le 4⟩)] [(.self, ⟨0, 5, Nat.zero_le 5⟩)] ∧
    cyclicGrammar.tokensAdded cyclicTable {} (.ofString "éxéx")
        ⟨[(.self, ⟨0, 4, Nat.zero_le 4⟩)], .including "#a", ⟨0, 2, Nat.zero_le 2⟩⟩ =
      [.ok ⟨2, 3, "variable", "x"⟩] ∧
    cyclicGrammar.tokensAdded cyclicTable {} (.ofString "éxxxxx")
        ⟨[(.self, ⟨0, 5, Nat.zero_le 5⟩)], .including "#a", ⟨0, 2, Nat.zero_le 2⟩⟩ =
      [.ok ⟨2, 3, "variable", "x"⟩] := by
  have hagree : AgreeUpTo "éxéx" "éxxxxx" 3 := by decide +kernel
  have hregion : (Source.ofString "éxéx").region? 0 3 = some ⟨0, 2, Nat.zero_le 2⟩ := by
    decide +kernel
  have hfront : (Source.ofString "éxxxxx").upTo 2 = (Source.ofString "éxéx").upTo 2 :=
    congrArg Source.ofChars (by decide +kernel)
  have hframes : SameFrames 2 [(.self, ⟨0, 4, Nat.zero_le 4⟩)] [(.self, ⟨0, 5, Nat.zero_le 5⟩)] :=
    sameFrames_of_frameOffsets_eq hfront (by decide +kernel) (by decide +kernel)
      (by decide +kernel) (by decide +kernel) (by decide +kernel)
  have hrun : (cyclicGrammar.tokenizer cyclicTable (.ofString "éxéx") {}).run
        ⟨[(.self, ⟨0, 4, Nat.zero_le 4⟩)], .including "#a", ⟨0, 2, Nat.zero_le 2⟩⟩ =
      [.ok ⟨⟨1, 2, Nat.le_succ 1⟩, "variable"⟩] :=
    Tokenizer.run_eq_of_runUpTo (n := 5) (by decide +kernel)
  have hadded : cyclicGrammar.tokensAdded cyclicTable {} (.ofString "éxéx")
        ⟨[(.self, ⟨0, 4, Nat.zero_le 4⟩)], .including "#a", ⟨0, 2, Nat.zero_le 2⟩⟩ =
      [.ok ⟨2, 3, "variable", "x"⟩] := by
    rw [Grammar.tokensAdded, hrun]
    decide +kernel
  have h := cyclicGrammar.tokensAdded_eq_of_agreeUpTo cyclicTable {} (.including "#a") hagree
    hregion hframes
  exact ⟨hagree, h.1, hframes, hadded, h.2.trans hadded⟩

end Highlighter
