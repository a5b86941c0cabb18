import Highlighter.Proofs.Tokenize.Faults

/-!
# What a grammar derives

A derivation of a mark goes down from a pattern on a region, by the patterns that are applied and by
what references stand for, to a step that makes the mark. It knows nothing of references that are
being followed and of how many these are. Tokenizing does not follow a reference again where it is
being followed on the same region, and nothing is lost by this: all that the reference stands for is
being applied to the region already, by the call that follows it, and that call comes to whatever
the rest of the derivation comes to.
-/

namespace Highlighter

namespace Tokenizer

variable {k : Tokenizer} {c : Call} {p q : Pattern} {r : Region} {m : Mark} {f : Frame}

/-- What a pattern derives on a region. -/
inductive Derives (k : Tokenizer) : Pattern → Region → Mark → Prop
  /-- The pattern makes the mark itself. -/
  | mark {p : Pattern} {r : Region} {m : Mark} (h : k.Takes p r (.mark m)) : Derives k p r m
  /-- A pattern that is applied derives the mark. -/
  | apply {p q : Pattern} {r r' : Region} {m : Mark} (h : k.Takes p r (.apply q r'))
      (hq : Derives k q r' m) : Derives k p r m
  /-- A reference is unfolded, and what it stands for derives the mark. -/
  | follow {p q : Pattern} {target : RuleRef} {r r' : Region} {m : Mark}
      (h : k.Takes p r (.follow target r')) (htarget : q ∈ k.grammar.resolve target)
      (hq : Derives k q r' m) : Derives k p r m

/-! ## Reached calls and derivations -/

/-- Whatever a reached call derives, a pattern of the grammar derives on the whole text. -/
theorem Reached.exists_derives (h : k.Reached c) (hd : k.Derives c.pattern c.region m) :
    ∃ p ∈ k.grammar.patterns, k.Derives p ⟨0, k.text.size, Nat.zero_le _⟩ m := by
  induction h with
  | top h =>
    obtain ⟨p, hp, rfl⟩ := List.mem_map.mp h
    exact ⟨p, hp, hd⟩
  | call _ hc ih =>
    rcases mem_calls.mp hc with ⟨q, r, hs, rfl⟩ | ⟨target, r, q, hs, -, hq, rfl⟩
    · exact ih (.apply hs hd)
    · exact ih (.follow hs hq hd)

/-- Where a reference is being followed, all that it stands for is applied. -/
theorem Reached.exists_of_mem_following (h : k.Reached c) (hf : f ∈ c.following)
    (hq : q ∈ k.grammar.resolve f.1) : ∃ following, k.Reached ⟨following, q, f.2⟩ := by
  induction h with
  | top h =>
    obtain ⟨p, -, rfl⟩ := List.mem_map.mp h
    exact absurd hf List.not_mem_nil
  | call h hc ih =>
    rcases mem_calls.mp hc with ⟨p, r, -, rfl⟩ | ⟨target, r, p, hs, hfollows, -, rfl⟩
    · exact ih hf
    · rcases List.mem_cons.mp hf with rfl | hf
      · exact ⟨_, h.follow hs hfollows hq⟩
      · exact ih hf

/-- Whatever a reached call derives is made by a call that is reached. A derivation that goes
through a reference that is being followed goes on from the call that follows it. -/
theorem Derives.exists_reached (h : k.Derives p r m) {following : List Frame}
    (hbound : k.grammar.frameBound k.text.size ≤ k.options.maxIncludeDepth)
    (hc : k.Reached ⟨following, p, r⟩) :
    ∃ c, k.Reached c ∧ k.Takes c.pattern c.region (.mark m) := by
  induction h generalizing following with
  | mark h => exact ⟨_, hc, h⟩
  | apply h _ ih => exact ih (hc.apply h)
  | @follow p q target r r' m h htarget _ ih =>
    by_cases hf : (target, r') ∈ following
    -- The reference is not followed here. The call that follows it applies `q` to the same region.
    · obtain ⟨following', hc'⟩ := hc.exists_of_mem_following hf htarget
      exact ih hc'
    · have hfollows := (hc.follows_iff h htarget hbound).mpr hf
      exact ih (hc.follow h hfollows htarget)

theorem exists_reached_iff_derives
    (hbound : k.grammar.frameBound k.text.size ≤ k.options.maxIncludeDepth) :
    (∃ c, k.Reached c ∧ k.Takes c.pattern c.region (.mark m)) ↔
      ∃ p ∈ k.grammar.patterns, k.Derives p ⟨0, k.text.size, Nat.zero_le _⟩ m := by
  constructor
  · rintro ⟨c, hc, hs⟩
    exact hc.exists_derives (.mark hs)
  · rintro ⟨p, hp, hd⟩
    exact hd.exists_reached hbound (.top (List.mem_map.mpr ⟨p, hp, rfl⟩))

end Tokenizer

/-- **The tokens are what the grammar derives.** If a grammar compiles and the limit is sufficient,
the tokens of a text are those of the marks that a pattern of the grammar derives on the whole text.
No token is lost where a reference is not followed because it is being followed. -/
theorem mem_tokenize_iff_derives {engine : Engine} {g : Grammar} {table : RuleTable} {text : String}
    {options : TokenizeOptions} (hcompile : RuleTable.compile engine g = .ok table)
    (hbound : g.frameBound text.length ≤ options.maxIncludeDepth) :
    ∃ tokens, tokenize engine g text options = .ok tokens ∧
      ∀ t, t ∈ tokens ↔ ∃ p ∈ g.patterns, ∃ m,
        (g.tokenizer table (.ofString text) options).Derives p (Source.ofString text).whole m ∧
          t = (Source.ofString text).token m := by
  obtain ⟨tokens, htokens, hmem⟩ := exists_tokenize_eq_ok hcompile text options
  rw [← Source.size_chars_ofString] at hbound
  have hiff (m : Mark) := Tokenizer.exists_reached_iff_derives (m := m)
    (k := g.tokenizer table (.ofString text) options) hbound
  refine ⟨tokens, htokens, fun t ↦ (hmem t).trans ⟨?_, ?_⟩⟩
  · rintro ⟨c, m, hc, hs, rfl⟩
    obtain ⟨p, hp, hd⟩ := (hiff m).mp ⟨c, hc, hs⟩
    exact ⟨p, hp, m, hd, rfl⟩
  · rintro ⟨p, hp, m, hd, rfl⟩
    obtain ⟨c, hc, hs⟩ := (hiff m).mpr ⟨p, hp, hd⟩
    exact ⟨c, m, hc, hs, rfl⟩

theorem mem_tokenize_cyclicGrammar_iff_derives :
    RuleTable.compile letterEngine cyclicGrammar = .ok cyclicTable ∧
    cyclicGrammar.frameBound "x x".length ≤ (TokenizeOptions.mk 64 .confined).maxIncludeDepth ∧
    ∃ tokens, tokenize letterEngine cyclicGrammar "x x" ⟨64, .confined⟩ = .ok tokens ∧
      ∀ t, t ∈ tokens ↔ ∃ p ∈ cyclicGrammar.patterns, ∃ m,
        (cyclicGrammar.tokenizer cyclicTable (.ofString "x x") ⟨64, .confined⟩).Derives p
            (Source.ofString "x x").whole m ∧
          t = (Source.ofString "x x").token m :=
  have hcompile : RuleTable.compile letterEngine cyclicGrammar = .ok cyclicTable := rfl
  have hbound : cyclicGrammar.frameBound "x x".length ≤ 64 := by decide
  ⟨hcompile, hbound, mem_tokenize_iff_derives hcompile hbound⟩

end Highlighter
