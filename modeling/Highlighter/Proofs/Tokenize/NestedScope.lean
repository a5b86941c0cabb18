import Highlighter.Proofs.Tokenize.Agreement
import Highlighter.Proofs.Tokenize.Evaluation

/-!
# Where nested patterns are applied

The patterns below a rule for matches are applied to each match, or else to the whole region. Only
the steps of such rules depend on which it is, and only if there are such patterns. Where there are
none, the two tokenizers agree and the tokens are the same (`tokenize_eq_of_nestsNothing`), whatever
patterns there are below blocks and capture groups.
-/

namespace Highlighter

/-! ## Rules without nested patterns -/

/-- No rule for matches has an enabled pattern right below it. What such a rule assigns to capture
groups may be anything, and so may what is below blocks. -/
def Grammar.NestsNothing (g : Grammar) : Prop :=
  ∀ p, g.Enables p → ∀ source, p.strategy = .ok (.single source) →
    ∀ q ∈ p.patterns, q.isDisabled = true

theorem filter_applySteps_eq_nil {ps : List Pattern} (h : ∀ q ∈ ps, q.isDisabled = true)
    (r : Region) : (applySteps ps r).filter Step.isEffective = [] := by
  rw [List.filter_eq_nil_iff]
  intro s hs
  obtain ⟨q, hq, rfl⟩ := mem_applySteps.mp hs
  simp [Step.isEffective, h q hq]

/-- Where all patterns below are disabled, only what is done with the groups has an effect. -/
theorem Pattern.filter_singleSteps {p : Pattern} (h : ∀ q ∈ p.patterns, q.isDisabled = true)
    (nested : NestedScope) (found : List Match) (r : Region) :
    (p.singleSteps nested found r).filter Step.isEffective = found.flatMap fun m ↦
      (m.groupSteps p.captures (singleMark p.toRule p.captures m.whole)).filter
        Step.isEffective := by
  have hbelow (b : Prop) [Decidable b] (r : Region) :
      (if b then applySteps p.patterns r else []).filter Step.isEffective = [] := by
    split
    · exact filter_applySteps_eq_nil h r
    · rfl
  rw [singleSteps, List.filter_append, hbelow, List.append_nil, List.filter_flatMap]
  refine List.flatMap_congr fun m _ ↦ ?_
  rw [matchSteps, List.filter_append, hbelow, List.append_nil]

namespace Tokenizer

/-- Tokenizers that differ in where nested patterns are applied agree if there are none. -/
theorem agrees_of_nestsNothing {g : Grammar} (h : g.NestsNothing) (table : RuleTable) (s : Source)
    (depth : Nat) (nested nested' : NestedScope) :
    (g.tokenizer table s ⟨depth, nested⟩).Agrees (g.tokenizer table s ⟨depth, nested'⟩) where
  topCalls_eq := rfl
  steps_eq c hc := by
    rw [effectiveSteps, effectiveSteps]
    by_cases hp : c.pattern.isDisabled
    · rw [steps_of_isDisabled hp, steps_of_isDisabled hp]
    rw [steps, steps, if_neg hp, if_neg hp]
    -- Of the ways to apply a rule, only that for matches looks at the option.
    split
    · rfl
    · rfl
    · rfl
    · next source hsource =>
      have hbelow := h c.pattern (hc.enables (Bool.eq_false_iff.mpr hp)) source hsource
      dsimp only [Grammar.tokenizer]
      split
      · rw [Pattern.filter_singleSteps hbelow, Pattern.filter_singleSteps hbelow]
      · rfl
    · rfl
  callsOf_eq _ _ step _ := by cases step <;> rfl

end Tokenizer

/-- **Where nested patterns are applied matters only to rules for matches that have some.** If no
enabled rule for matches has an enabled pattern below it, it makes no difference to any text whether
such patterns are applied to the matches or to the whole region: the tokens are the same, or the
fault of the grammar is. -/
theorem tokenize_eq_of_nestsNothing {g : Grammar} (h : g.NestsNothing) (engine : Engine)
    (text : String) (depth : Nat) :
    tokenize engine g text ⟨depth, .confined⟩ = tokenize engine g text ⟨depth, .wholeBuffer⟩ := by
  have hmarks (table : RuleTable) (s : Source) :
      (g.tokenizer table s ⟨depth, .confined⟩).marks =
        (g.tokenizer table s ⟨depth, .wholeBuffer⟩).marks :=
    (Tokenizer.agrees_of_nestsNothing h table s depth .wholeBuffer .confined).marks_eq
  unfold tokenize
  simp only [hmarks]

/-- A rule that assigns to the group of its match, and has one pattern below it. -/
def nestingRule (below : Pattern) : Pattern :=
  (((Pattern.single "x").named "variable").withCapture 0
    { patterns := [.including "#a", (Pattern.single "x").named "letter"] }).withPatterns [below]

/-- A grammar with such a rule, which refers to itself by what it assigns. -/
def capturingNestingGrammar (below : Pattern) : Grammar :=
  (Grammar.new "source.test").withPattern (.including "#a") |>.withRule "a" (nestingRule below)

theorem eq_of_enables_capturingNestingGrammar {below p : Pattern} (hbelow : below.isDisabled = true)
    (h : (capturingNestingGrammar below).Enables p) :
    p = .including "#a" ∨ p = nestingRule below ∨ p = (Pattern.single "x").named "letter" := by
  induction h with
  | pattern hp _ => exact .inl (List.mem_singleton.mp hp)
  | rule hp _ =>
    cases List.mem_singleton.mp hp
    exact .inr (.inl rfl)
  | child _ hq h ih =>
    rcases ih with rfl | rfl | rfl
    · cases hq
    · rcases List.mem_cons.mp hq with rfl | hq
      · cases hbelow.symm.trans h
      rcases List.mem_cons.mp hq with rfl | hq
      · exact .inl rfl
      · exact .inr (.inr (List.mem_singleton.mp hq))
    · cases hq

/-- The tokens of a letter in a longer text. The rule is applied to the text and to the letter. -/
def capturingNestingTokens : List Token :=
  [⟨0, 1, "variable", "x"⟩, ⟨0, 1, "variable", "x"⟩, ⟨0, 1, "letter", "x"⟩, ⟨0, 1, "letter", "x"⟩]

theorem tokenize_capturingNestingGrammar_eq :
    (capturingNestingGrammar (Pattern.single "x").disabled).NestsNothing ∧
    tokenize letterEngine (capturingNestingGrammar (Pattern.single "x").disabled) "x."
      ⟨64, .confined⟩ = .ok capturingNestingTokens ∧
    tokenize letterEngine (capturingNestingGrammar (Pattern.single "x").disabled) "x."
      ⟨64, .wholeBuffer⟩ = .ok capturingNestingTokens := by
  have hnests : (capturingNestingGrammar (Pattern.single "x").disabled).NestsNothing := by
    intro p hp source hsource q hq
    rcases eq_of_enables_capturingNestingGrammar rfl hp with rfl | rfl | rfl
    · cases hsource
    · obtain rfl := List.mem_singleton.mp hq
      rfl
    · cases hq
  have htokens : tokenize letterEngine (capturingNestingGrammar (Pattern.single "x").disabled) "x."
      ⟨64, .confined⟩ = .ok capturingNestingTokens :=
    tokenize_eq_ok_of_tokenizeUpTo (n := 7) (by decide +kernel)
  exact ⟨hnests, htokens, (tokenize_eq_of_nestsNothing hnests _ _ _).symm.trans htokens⟩

end Highlighter
