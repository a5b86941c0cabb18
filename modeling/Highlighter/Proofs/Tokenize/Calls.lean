import Highlighter.Proofs.Tokenize.Regions
import Mathlib.Data.List.ProdSigma
import Mathlib.Data.List.Perm.Subperm

/-!
# The calls that are reached

References may form cycles, so the patterns of a grammar alone do not bound how long tokenizing
goes on. What does is that a reference is not followed on a region twice at a time. A reference that
stands for something is one of finitely many, a text has finitely many regions, and steps stay in
their region. So the references that are being followed are always drawn, without repetition, from a
finite list of frames.

`Tokenizer.IsSound` is the invariant that says so. It gives a bound on how many references are ever
nested, and a limit of at least this bound is never what keeps a reference from being followed
(`Tokenizer.Reached.follows_iff`).

What tokenizing results in is what the steps of the reached calls add, no matter in which order
(`Tokenizer.mem_flatMap_run`). So a statement on marks and faults is one on reached calls.
-/

namespace Highlighter

/-! ## Frames -/

/-- The regions of a text of some size. -/
def regions : Nat → List Region
  | 0 => [⟨0, 0, Nat.le_refl 0⟩]
  | size + 1 =>
    regions size ++ List.ofFn fun start : Fin (size + 2) ↦
      ⟨start, size + 1, Nat.le_of_lt_succ start.isLt⟩

theorem mem_regions {size : Nat} {r : Region} (h : r.stop ≤ size) : r ∈ regions size := by
  induction size with
  | zero =>
    obtain ⟨start, stop, hle⟩ := r
    obtain rfl : stop = 0 := Nat.le_zero.mp h
    obtain rfl : start = 0 := Nat.le_zero.mp hle
    exact List.mem_singleton.mpr rfl
  | succ size ih =>
    rw [regions, List.mem_append]
    rcases Nat.lt_or_eq_of_le h with h | h
    · exact .inl (ih (Nat.le_of_lt_succ h))
    -- The regions that are added are those that end with the text.
    · obtain ⟨start, stop, hle⟩ := r
      obtain rfl : stop = size + 1 := h
      exact .inr (List.mem_ofFn.mpr ⟨⟨start, Nat.lt_succ_of_le hle⟩, rfl⟩)

theorem length_regions_mul_two (size : Nat) :
    (regions size).length * 2 = (size + 1) * (size + 2) := by
  induction size with
  | zero => rfl
  | succ size ih =>
    rw [regions, List.length_append, List.length_ofFn, Nat.add_mul, ih, ← Nat.mul_comm (size + 2),
      ← Nat.mul_add]

namespace Grammar

variable {g : Grammar} {target : RuleRef} {p : Pattern}

/-- The references that may stand for something. -/
def refs (g : Grammar) : List RuleRef :=
  .self :: g.repository.entries.map fun e ↦ .repository e.1

/-- The frames that references of a grammar can have in a text of some size. -/
def frames (g : Grammar) (size : Nat) : List Frame := g.refs ×ˢ regions size

/-- How many references can be nested in a text of some size. -/
def frameBound (g : Grammar) (size : Nat) : Nat :=
  (g.repository.entries.length + 1) * (size + 1) * (size + 2) / 2

theorem mem_refs (h : p ∈ g.resolve target) : target ∈ g.refs := by
  cases target with
  | self => exact List.mem_cons_self
  | external scope => simp [resolve] at h
  | repository name =>
    have hmem := SortedMap.mem_of_get?_eq_some (Option.mem_toList.mp h)
    exact List.mem_cons_of_mem _ (List.mem_map.mpr ⟨(name, p), hmem, rfl⟩)

theorem length_frames (g : Grammar) (size : Nat) : (g.frames size).length = g.frameBound size := by
  rw [frames, List.length_product, frameBound, Nat.mul_assoc, ← length_regions_mul_two,
    ← Nat.mul_assoc, Nat.mul_div_cancel _ Nat.two_pos]
  simp [refs]

end Grammar

theorem Call.wellFounded_rest (bound : Nat) :
    WellFounded (InvImage (Prod.Lex (· < ·) (· < ·)) (Call.rest bound)) :=
  InvImage.wf _ (Prod.lex Nat.lt_wfRel Nat.lt_wfRel).wf

/-! ## The invariant -/

namespace Tokenizer

variable {k : Tokenizer} {c c' : Call} {s : Step} {f : Frame} {p : Pattern} {target : RuleRef}
  {r : Region}

/-- What holds of every call: no frame is followed twice, each of them is a frame of the grammar
and the text, and the region lies in the text. -/
structure IsSound (k : Tokenizer) (c : Call) : Prop where
  nodup : c.following.Nodup
  subset : c.following ⊆ k.grammar.frames k.text.size
  stop_le : c.region.stop ≤ k.text.size

theorem IsSound.length_le (h : k.IsSound c) :
    c.following.length ≤ k.grammar.frameBound k.text.size := by
  rw [← k.grammar.length_frames]
  exact (h.nodup.subperm h.subset).length_le

/-- Following one more reference that stands for something keeps the invariant, unless the reference
is being followed on the region. -/
theorem IsSound.follow (h : k.IsSound c) (hr : r.stop ≤ k.text.size)
    (hp : p ∈ k.grammar.resolve target) (hf : (target, r) ∉ c.following) :
    k.IsSound ⟨(target, r) :: c.following, p, r⟩ where
  nodup := List.nodup_cons.mpr ⟨hf, h.nodup⟩
  subset := List.cons_subset.mpr
    ⟨List.mem_product.mpr ⟨Grammar.mem_refs hp, mem_regions hr⟩, h.subset⟩
  stop_le := hr

theorem IsSound.of_mem_topCalls (h : c ∈ k.topCalls) : k.IsSound c := by
  obtain ⟨p, -, rfl⟩ := List.mem_map.mp h
  exact ⟨List.nodup_nil, List.nil_subset _, Nat.le_refl _⟩

/-- A sufficient limit does not keep a reference from being followed. -/
theorem IsSound.follows_iff (h : k.IsSound c) (hr : r.stop ≤ k.text.size)
    (hp : p ∈ k.grammar.resolve target)
    (hbound : k.grammar.frameBound k.text.size ≤ k.options.maxIncludeDepth) :
    k.Follows c.following (target, r) ↔ (target, r) ∉ c.following := by
  refine ⟨And.left, fun hf ↦ ⟨hf, Nat.lt_of_lt_of_le ?_ hbound⟩⟩
  exact (h.follow hr hp hf).length_le

/-! ## Calls -/

/-- The calls that a call makes. -/
def calls (k : Tokenizer) (c : Call) : List Call :=
  (k.steps c.pattern c.region).flatMap (k.callsOf c.following)

/-- The calls that are made, directly or not, for the whole text. -/
inductive Reached (k : Tokenizer) : Call → Prop
  | top {c : Call} (h : c ∈ k.topCalls) : Reached k c
  | call {c c' : Call} (h : Reached k c) (h' : c' ∈ k.calls c) : Reached k c'

/-- A call goes on with a pattern that is applied, or with what a reference stands for. -/
theorem mem_calls : c' ∈ k.calls c ↔
    (∃ q r, k.Takes c.pattern c.region (.apply q r) ∧ c' = ⟨c.following, q, r⟩) ∨
      ∃ target r q, k.Takes c.pattern c.region (.follow target r) ∧
        k.Follows c.following (target, r) ∧ q ∈ k.grammar.resolve target ∧
        c' = ⟨(target, r) :: c.following, q, r⟩ := by
  simp only [calls, List.mem_flatMap, mem_steps_iff, mem_callsOf]
  constructor
  · rintro ⟨s, hs, ⟨q, r, rfl, rfl⟩ | ⟨target, r, q, rfl, hf, hq, rfl⟩⟩
    · exact .inl ⟨q, r, hs, rfl⟩
    · exact .inr ⟨target, r, q, hs, hf, hq, rfl⟩
  · rintro (⟨q, r, hs, rfl⟩ | ⟨target, r, q, hs, hf, hq, rfl⟩)
    · exact ⟨_, hs, .inl ⟨q, r, rfl, rfl⟩⟩
    · exact ⟨_, hs, .inr ⟨target, r, q, rfl, hf, hq, rfl⟩⟩

theorem Reached.apply (h : k.Reached c) (hs : k.Takes c.pattern c.region (.apply p r)) :
    k.Reached ⟨c.following, p, r⟩ :=
  .call h (mem_calls.mpr (.inl ⟨p, r, hs, rfl⟩))

theorem Reached.follow (h : k.Reached c) (hs : k.Takes c.pattern c.region (.follow target r))
    (hf : k.Follows c.following (target, r)) (hp : p ∈ k.grammar.resolve target) :
    k.Reached ⟨(target, r) :: c.following, p, r⟩ :=
  .call h (mem_calls.mpr (.inr ⟨target, r, p, hs, hf, hp, rfl⟩))

/-- **What one call keeps.** A step stays in its region, and a reference is only followed where it
is not being followed. -/
theorem IsSound.of_mem_calls (h : k.IsSound c) (hc : c' ∈ k.calls c) : k.IsSound c' := by
  rcases mem_calls.mp hc with ⟨q, r, hs, rfl⟩ | ⟨target, r, q, hs, hf, hq, rfl⟩
  · exact ⟨h.nodup, h.subset, Nat.le_trans (hs.within rfl).2 h.stop_le⟩
  · exact h.follow (Nat.le_trans (hs.within rfl).2 h.stop_le) hq hf.1

/-- **What a run keeps.** The invariant holds of every call that is reached. -/
theorem Reached.isSound (h : k.Reached c) : k.IsSound c := by
  induction h with
  | top h => exact .of_mem_topCalls h
  | call _ hc ih => exact ih.of_mem_calls hc

theorem Reached.length_le (h : k.Reached c) :
    c.following.length ≤ k.options.maxIncludeDepth := by
  induction h with
  | top h =>
    obtain ⟨p, -, rfl⟩ := List.mem_map.mp h
    exact Nat.zero_le _
  | call _ hc ih =>
    rcases mem_calls.mp hc with ⟨q, r, -, rfl⟩ | ⟨target, r, q, -, hf, -, rfl⟩
    · exact ih
    · exact hf.2

/-- A sufficient limit does not keep a call that is reached from following a reference. -/
theorem Reached.follows_iff (h : k.Reached c) (hs : k.Takes c.pattern c.region (.follow target r))
    (hp : p ∈ k.grammar.resolve target)
    (hbound : k.grammar.frameBound k.text.size ≤ k.options.maxIncludeDepth) :
    k.Follows c.following (target, r) ↔ (target, r) ∉ c.following :=
  h.isSound.follows_iff (Nat.le_trans (hs.within rfl).2 h.isSound.stop_le) hp hbound

/-! ## What calls result in -/

/-- There is no endless chain of calls. -/
theorem acc_calls (k : Tokenizer) (c : Call) : Acc (fun c' c ↦ c' ∈ k.calls c) c := by
  induction c using (Call.wellFounded_rest k.options.maxIncludeDepth).induction with
  | _ c ih =>
    refine .intro c fun c' hc' ↦ ih c' ?_
    obtain ⟨s, hs, hc'⟩ := List.mem_flatMap.mp hc'
    exact k.rest_lt_of_mem_callsOf hs hc' (k.length_following_le hc')

theorem mem_run {x : Except GrammarError Mark} : x ∈ k.run c ↔
    (∃ s, k.Takes c.pattern c.region s ∧ x ∈ s.outcome) ∨ ∃ c' ∈ k.calls c, x ∈ k.run c' := by
  rw [run_eq]
  simp only [calls, List.mem_flatMap, List.mem_append, mem_steps_iff]
  constructor
  · rintro ⟨s, hs, hx | ⟨c', hc', hx⟩⟩
    · exact .inl ⟨s, hs, hx⟩
    · exact .inr ⟨c', ⟨s, hs, hc'⟩, hx⟩
  · rintro (⟨s, hs, hx⟩ | ⟨c', ⟨s, hs, hc'⟩, hx⟩)
    · exact ⟨s, hs, .inl hx⟩
    · exact ⟨s, hs, .inr ⟨c', hc', hx⟩⟩

theorem Reached.exists_takes {x : Except GrammarError Mark} (h : k.Reached c) (hx : x ∈ k.run c) :
    ∃ c s, k.Reached c ∧ k.Takes c.pattern c.region s ∧ x ∈ s.outcome := by
  induction k.acc_calls c with
  | intro c _ ih =>
    rcases mem_run.mp hx with ⟨s, hs, hx⟩ | ⟨c', hc', hx⟩
    · exact ⟨c, s, h, hs, hx⟩
    · exact ih c' hc' (.call h hc') hx

theorem Reached.run_subset (h : k.Reached c) : k.run c ⊆ k.topCalls.flatMap k.run := by
  induction h with
  | top h => exact fun x hx ↦ List.mem_flatMap.mpr ⟨_, h, hx⟩
  | call _ hc ih => exact fun x hx ↦ ih (mem_run.mpr (.inr ⟨_, hc, hx⟩))

/-- The calls for the whole text result in what the calls that are reached add. -/
theorem mem_flatMap_run {x : Except GrammarError Mark} : x ∈ k.topCalls.flatMap k.run ↔
    ∃ c s, k.Reached c ∧ k.Takes c.pattern c.region s ∧ x ∈ s.outcome := by
  constructor
  · intro hx
    obtain ⟨c, hc, hx⟩ := List.mem_flatMap.mp hx
    exact (Reached.top hc).exists_takes hx
  · rintro ⟨c, s, hc, hs, hx⟩
    exact hc.run_subset (mem_run.mpr (.inl ⟨s, hs, hx⟩))

/-- Nothing that is reached gives up. -/
def NeverFails (k : Tokenizer) : Prop :=
  ∀ c, k.Reached c → ∀ e, ¬ k.Takes c.pattern c.region (.fail e)

theorem mapM_id_of_forall_ok {xs : List (Except GrammarError Mark)}
    (h : ∀ e, .error e ∉ xs) : ∃ ms, xs.mapM id = .ok ms ∧ xs = ms.map .ok := by
  induction xs with
  | nil => exact ⟨[], rfl, rfl⟩
  | cons x xs ih =>
    cases x with
    | error e => exact absurd List.mem_cons_self (h e)
    | ok m =>
      obtain ⟨ms, hms, rfl⟩ := ih fun e he ↦ h e (List.mem_cons_of_mem _ he)
      refine ⟨m :: ms, ?_, rfl⟩
      rw [List.mapM_cons, hms]
      rfl

theorem NeverFails.error_not_mem (h : k.NeverFails) (e : GrammarError) :
    .error e ∉ k.topCalls.flatMap k.run := by
  intro he
  obtain ⟨c, s, hc, hs, he⟩ := mem_flatMap_run.mp he
  cases s with
  | fail e' => exact h c hc e' hs
  | mark m | apply p r | follow target r => simp [Step.outcome] at he

/-- A tokenizer that never fails makes the marks of the calls that are reached. -/
theorem NeverFails.exists_marks (h : k.NeverFails) : ∃ ms, k.marks = .ok ms ∧
    ∀ m, m ∈ ms ↔ ∃ c, k.Reached c ∧ k.Takes c.pattern c.region (.mark m) := by
  obtain ⟨ms, hms, hmap⟩ := mapM_id_of_forall_ok h.error_not_mem
  refine ⟨ms, hms, fun m ↦ ?_⟩
  have hmem : m ∈ ms ↔ .ok m ∈ k.topCalls.flatMap k.run := by
    rw [hmap]
    simp
  rw [hmem, mem_flatMap_run]
  constructor
  · rintro ⟨c, s, hc, hs, hm⟩
    cases s with
    | mark m' =>
      obtain rfl : m = m' := by simpa [Step.outcome] using hm
      exact ⟨c, hc, hs⟩
    | fail e | apply p r | follow target r => simp [Step.outcome] at hm
  · rintro ⟨c, hc, hs⟩
    exact ⟨c, _, hc, hs, List.mem_singleton_self _⟩

end Tokenizer

/-! ## A grammar with a cycle -/

/-- Finds the next place where a text has a letter. -/
def Searcher.letter (letter : Char) : Searcher where
  find text start :=
    match h : (List.range text.size).find? fun i ↦ start ≤ i ∧ text[i]? = some letter with
    | none => none
    | some i => some ⟨⟨⟨i, i + 1, Nat.le_succ i⟩, []⟩, fun r hr ↦ by
        obtain rfl : r = ⟨i, i + 1, Nat.le_succ i⟩ := by simpa [Match.allGroups] using hr
        have hfound : start ≤ i ∧ text[i]? = some letter := by simpa using List.find?_some h
        exact ⟨hfound.1, List.mem_range.mp (List.mem_of_find?_eq_some h)⟩⟩

/-- Compiles the expression `x`. -/
def letterEngine : Engine := fun source ↦ if source = "x" then some (.letter 'x') else none

/-- A grammar with a rule that includes itself before it comes to an expression. -/
def cyclicGrammar : Grammar :=
  (Grammar.new "source.test").withPattern (.including "#a")
    |>.withRule "a" (.group [.including "#a", (Pattern.single "x").named "variable"])

/-- The table of the grammar. -/
def cyclicTable : RuleTable := ⟨[("x", .letter 'x')]⟩

end Highlighter
