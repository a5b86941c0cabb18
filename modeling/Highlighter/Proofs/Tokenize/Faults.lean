import Highlighter.Proofs.Grammar.Compile
import Highlighter.Proofs.Tokenize.Calls

/-!
# Only a grammar is at fault

A grammar is checked once, by a walk over its patterns, and tokenizing relies on the check wherever
it comes by way of references, blocks and groups. The invariant is that the enabled rules below the
pattern of a call are among those that were checked: it holds of the patterns of the grammar, is
inherited by children, and holds of whatever a reference stands for.
-/

namespace Highlighter

namespace Tokenizer

variable {k : Tokenizer} {c : Call} {p : Pattern} {r : Region} {s : Step} {engine : Engine}

theorem HasMatch.isDisabled_eq_false {m : Match} (h : k.HasMatch p r m) : p.isDisabled = false := by
  obtain ⟨source, finds, huses, -⟩ := h
  exact huses.1

theorem HasBlock.isDisabled_eq_false {b : Block (k.text.extract 0 r.stop).size}
    (h : k.HasBlock p r b) : p.isDisabled = false := by
  obtain ⟨begins, ends, opens, closes, huses, -⟩ := h
  exact huses.1

theorem Takes.isDisabled_eq_false (h : k.Takes p r s) : p.isDisabled = false := by
  cases h with
  | fail hp _ => exact hp
  | child hp _ | follow hp => exact hp.1
  | matchGroup hm _ _ _ | matchCapture hm _ _ | confined hm _ _ | wholeBuffer hm _ _ =>
    exact hm.isDisabled_eq_false
  | block hb _ _ | interior hb _ _ | edgeGroup hb _ _ _ _ | edgeCapture hb _ _ _ | inside hb _ =>
    exact hb.isDisabled_eq_false

/-- The enabled rules that a call may come to are enabled rules of the grammar. -/
theorem Reached.enabledRules_subset (h : k.Reached c) :
    c.pattern.enabledRules ⊆ k.grammar.enabledRules := by
  induction h with
  | top h =>
    obtain ⟨p, hp, rfl⟩ := List.mem_map.mp h
    exact Grammar.enabledRules_subset_of_mem hp
  | call _ hc ih =>
    rcases mem_calls.mp hc with ⟨q, r, hs, rfl⟩ | ⟨target, r, q, -, -, hq, rfl⟩
    · have hsubset := Pattern.enabledRules_subset hs.isDisabled_eq_false hs.mem_children
      exact List.Subset.trans hsubset ih
    · exact Grammar.enabledRules_subset_of_mem_resolve hq

/-- **What is reached can be applied**: the rule is sound, and its expressions are in the table. -/
theorem Reached.serves (hcompile : RuleTable.compile engine k.grammar = .ok k.table)
    (h : k.Reached c) (hp : c.pattern.isDisabled = false) :
    k.table.Serves engine c.pattern.toRule :=
  RuleTable.serves_of_compile hcompile
    (h.enabledRules_subset (Pattern.rule_mem_enabledRules hp))

theorem neverFails (hcompile : RuleTable.compile engine k.grammar = .ok k.table) :
    k.NeverFails := by
  intro c hc e hs
  obtain ⟨s, hok, -⟩ := hc.serves hcompile hs.isDisabled_eq_false
  cases hs with
  | fail _ he => simp [hok] at he

end Tokenizer

theorem tokenize_of_compile_eq_error {engine : Engine} {g : Grammar} {e : GrammarError}
    (h : RuleTable.compile engine g = .error e) (text : String) (options : TokenizeOptions) :
    tokenize engine g text options = .error e := by
  unfold tokenize
  rw [h]
  rfl

/-- A grammar that compiles gives the tokens of the marks that are made by what is reached. -/
theorem exists_tokenize_eq_ok {engine : Engine} {g : Grammar} {table : RuleTable}
    (h : RuleTable.compile engine g = .ok table) (text : String) (options : TokenizeOptions) :
    ∃ tokens, tokenize engine g text options = .ok tokens ∧ ∀ t, t ∈ tokens ↔
      ∃ c m, (g.tokenizer table (.ofString text) options).Reached c ∧
        (g.tokenizer table (.ofString text) options).Takes c.pattern c.region (.mark m) ∧
        t = (Source.ofString text).token m := by
  have hnever : (g.tokenizer table (.ofString text) options).NeverFails := Tokenizer.neverFails h
  obtain ⟨ms, hms, hmem⟩ := hnever.exists_marks
  refine ⟨ms.map (Source.ofString text).token, ?_, fun t ↦ ?_⟩
  · unfold tokenize
    rw [h]
    exact congrArg (· >>= fun marks ↦ pure (marks.map (Source.ofString text).token)) hms
  · rw [List.mem_map]
    constructor
    · rintro ⟨m, hm, rfl⟩
      obtain ⟨c, hc, hs⟩ := (hmem m).mp hm
      exact ⟨c, m, hc, hs, rfl⟩
    · rintro ⟨c, m, hc, hs, rfl⟩
      exact ⟨m, (hmem m).mpr ⟨c, hc, hs⟩, rfl⟩

/-- **Tokenizing fails exactly where compiling fails, and with the same error.** Where compiling
succeeds, every enabled rule that is reached can be applied: one strategy is set, and the table has
what the engine makes of each expression that this strategy needs. -/
theorem tokenize_eq_error_iff_and_serves (engine : Engine) (g : Grammar) (text : String)
    (options : TokenizeOptions) :
    (∀ e, tokenize engine g text options = .error e ↔ RuleTable.compile engine g = .error e) ∧
    ∀ table, RuleTable.compile engine g = .ok table →
      ∀ c, (g.tokenizer table (.ofString text) options).Reached c →
        c.pattern.isDisabled = false → ∃ s, c.pattern.strategy = .ok s ∧
          ∀ source ∈ s.sources, ∃ finds, engine source = some finds ∧
            table.get? source = some finds := by
  refine ⟨fun e ↦ ⟨fun he ↦ ?_, fun he ↦ tokenize_of_compile_eq_error he text options⟩,
    fun table htable c hc hp ↦ hc.serves htable hp⟩
  cases hcompile : RuleTable.compile engine g with
  | error e' =>
    rw [tokenize_of_compile_eq_error hcompile] at he
    rw [Except.error.inj he]
  | ok table =>
    obtain ⟨tokens, htokens, -⟩ := exists_tokenize_eq_ok hcompile text options
    rw [he] at htokens
    cases htokens

theorem tokenize_cyclicGrammar_eq_error_and_serves :
    RuleTable.compile (fun _ ↦ none) cyclicGrammar = .error (.invalidRegex "x") ∧
    tokenize (fun _ ↦ none) cyclicGrammar "x" {} = .error (.invalidRegex "x") ∧
    RuleTable.compile letterEngine cyclicGrammar = .ok cyclicTable ∧
    ∃ c, (cyclicGrammar.tokenizer cyclicTable (.ofString "x") {}).Reached c ∧
      c.pattern.isDisabled = false ∧ ∃ s, c.pattern.strategy = .ok s ∧
        ∀ source ∈ s.sources, ∃ finds, letterEngine source = some finds ∧
          cyclicTable.get? source = some finds := by
  have hfail : RuleTable.compile (fun _ ↦ none) cyclicGrammar = .error (.invalidRegex "x") := rfl
  have hok : RuleTable.compile letterEngine cyclicGrammar = .ok cyclicTable := rfl
  let k := cyclicGrammar.tokenizer cyclicTable (.ofString "x") {}
  let whole : Region := ⟨0, 1, Nat.zero_le 1⟩
  let single := (Pattern.single "x").named "variable"
  have htop : k.Reached ⟨[], .including "#a", whole⟩ := .top List.mem_cons_self
  have hgroup : k.Reached ⟨[(.repository "a", whole)], .group [.including "#a", single], whole⟩ :=
    .call htop List.mem_cons_self
  have hsingle : k.Reached ⟨[(.repository "a", whole)], single, whole⟩ :=
    .call hgroup (List.mem_cons_of_mem _ List.mem_cons_self)
  exact ⟨hfail, ((tokenize_eq_error_iff_and_serves _ _ _ _).1 _).mpr hfail, hok, _, hsingle, rfl,
    (tokenize_eq_error_iff_and_serves _ _ _ _).2 _ hok _ hsingle rfl⟩

end Highlighter
