import Highlighter.Proofs.Tokenize.Agreement
import Highlighter.Proofs.Tokenize.Evaluation

/-!
# Entries that cannot be reached

Whatever the regions and frames are, a run comes only to patterns that can be reached from those of
the grammar (`Tokenizer.Reached.reaches`), and a reference is followed only from such a pattern. So
an entry of the repository that nothing reachable refers to has no influence on the tokens
(`tokenize_eq_of_sharesReached`), and neither has a change to such an entry.
-/

namespace Highlighter

/-! ## Reachable patterns -/

namespace Grammar

/-- The enabled patterns that can be reached from those of a grammar: with a pattern its children,
and with a reference the entry of the repository that it names. -/
inductive Reaches (g : Grammar) : Pattern → Prop
  | pattern {p : Pattern} (hp : p ∈ g.patterns) (h : p.isDisabled = false) : Reaches g p
  | child {p q : Pattern} (hp : Reaches g p) (hq : q ∈ p.children) (h : q.isDisabled = false) :
      Reaches g q
  | rule {p q : Pattern} {name : String} (hp : Reaches g p)
      (hname : p.strategy = .ok (.reference (.repository name)))
      (hq : g.repository.get? name = some q) (h : q.isDisabled = false) : Reaches g q

/-- Whether an entry of the repository is referred to by a pattern that can be reached. There need
not be such an entry. -/
def ReachesName (g : Grammar) (name : String) : Prop :=
  ∃ p, g.Reaches p ∧ p.strategy = .ok (.reference (.repository name))

/-- Another grammar has the same patterns, and the same entries of the repository as far as they
can be reached. -/
structure SharesReached (g g' : Grammar) : Prop where
  patterns_eq : g'.patterns = g.patterns
  get?_eq (name : String) (h : g.ReachesName name) :
    g'.repository.get? name = g.repository.get? name

variable {g g' : Grammar} {p q : Pattern} {target : RuleRef}

theorem Reaches.enables (h : g.Reaches p) : g.Enables p := by
  induction h with
  | pattern hp h => exact .pattern hp h
  | child _ hq h ih => exact .child ih hq h
  | rule _ _ hq h _ => exact .rule (SortedMap.mem_of_get?_eq_some hq) h

/-- What can be reached in a grammar can be reached in one that shares it. -/
theorem SharesReached.reaches (h : g.SharesReached g') (hp : g.Reaches p) : g'.Reaches p := by
  induction hp with
  | pattern hp hdisabled => exact .pattern (h.patterns_eq ▸ hp) hdisabled
  | child _ hq hdisabled ih => exact .child ih hq hdisabled
  | @rule p q name hp hname hq hdisabled ih =>
    refine .rule ih hname ?_ hdisabled
    rw [h.get?_eq name ⟨p, hp, hname⟩]
    exact hq

theorem SharesReached.resolve_eq (h : g.SharesReached g') (hp : g.Reaches p)
    (htarget : p.strategy = .ok (.reference target)) : g'.resolve target = g.resolve target := by
  cases target with
  | repository name => rw [resolve, resolve, h.get?_eq name ⟨p, hp, htarget⟩]
  | self => exact h.patterns_eq
  | external scope => rfl

theorem Reaches.of_mem_resolve (hp : g.Reaches p) (htarget : p.strategy = .ok (.reference target))
    (hq : q ∈ g.resolve target) (h : q.isDisabled = false) : g.Reaches q := by
  cases target with
  | repository name => exact .rule hp htarget (Option.mem_toList.mp hq) h
  | self => exact .pattern hq h
  | external scope => exact absurd hq List.not_mem_nil

end Grammar

namespace Tokenizer

variable {k : Tokenizer} {c : Call} {p : Pattern} {r : Region} {s : Step}

theorem Takes.strategy_of_follow {target : RuleRef} {r' : Region}
    (h : k.Takes p r (.follow target r')) : p.strategy = .ok (.reference target) := by
  cases h with
  | follow hp => exact hp.2

/-- What a run comes to can be reached in the grammar, whatever the regions and frames are. -/
theorem Reached.reaches (h : k.Reached c) (hp : c.pattern.isDisabled = false) :
    k.grammar.Reaches c.pattern := by
  induction h with
  | top h =>
    obtain ⟨p, hmem, rfl⟩ := List.mem_map.mp h
    exact .pattern hmem hp
  | call _ hc ih =>
    rcases mem_calls.mp hc with ⟨q, r, hs, rfl⟩ | ⟨target, r, q, hs, -, hq, rfl⟩
    · exact .child (ih hs.isDisabled_eq_false) hs.mem_children hp
    · exact (ih hs.isDisabled_eq_false).of_mem_resolve hs.strategy_of_follow hq hp

/-- Two tables that serve a rule have the same expressions for it, so the rule takes the same steps
with either of them. -/
theorem steps_eq_of_serves {engine : Engine} {g g' : Grammar} {table table' : RuleTable}
    (s : Source) (options : TokenizeOptions) (h : table.Serves engine p.toRule)
    (h' : table'.Serves engine p.toRule) :
    (g'.tokenizer table' s options).steps p r = (g.tokenizer table s options).steps p r := by
  obtain ⟨strategy, hstrategy, hsources⟩ := h
  obtain ⟨strategy', hstrategy', hsources'⟩ := h'
  obtain rfl : strategy = strategy' := Except.ok.inj (hstrategy.symm.trans hstrategy')
  have hget : ∀ source ∈ strategy.sources, table'.get? source = table.get? source := by
    intro source hsource
    obtain ⟨finds, hfinds, hget⟩ := hsources source hsource
    obtain ⟨finds', hfinds', hget'⟩ := hsources' source hsource
    rw [hget, hget', ← hfinds, hfinds']
  rw [steps, steps, hstrategy]
  cases strategy with
  | single source => simp only [hget source List.mem_cons_self]
  | block begins ends =>
    simp only [hget begins List.mem_cons_self,
      hget ends (List.mem_cons_of_mem _ List.mem_cons_self)]
  | reference target | group => rfl

/-- Tokenizers for grammars that share what can be reached agree. -/
theorem agrees_of_sharesReached {engine : Engine} {g g' : Grammar} {table table' : RuleTable}
    (h : g.SharesReached g') (hcompile : RuleTable.compile engine g = .ok table)
    (hcompile' : RuleTable.compile engine g' = .ok table') (s : Source)
    (options : TokenizeOptions) :
    (g.tokenizer table s options).Agrees (g'.tokenizer table' s options) where
  topCalls_eq := by rw [topCalls, topCalls, h.patterns_eq]
  steps_eq c hc := by
    rw [effectiveSteps, effectiveSteps]
    by_cases hp : c.pattern.isDisabled
    · rw [steps_of_isDisabled hp, steps_of_isDisabled hp]
    · have hreaches := hc.reaches (Bool.eq_false_iff.mpr hp)
      have hserves := RuleTable.serves_of_compile hcompile hreaches.enables.toRule_mem
      have hserves' := RuleTable.serves_of_compile hcompile'
        (h.reaches hreaches).enables.toRule_mem
      rw [steps_eq_of_serves s options hserves hserves']
  callsOf_eq c hc step hstep := by
    cases step with
    | mark m | fail e | apply p r => rfl
    | follow target r =>
      have hresolve := h.resolve_eq (hc.reaches hstep.isDisabled_eq_false) hstep.strategy_of_follow
      rw [callsOf, callsOf, hresolve]
      rfl

end Tokenizer

/-- **What cannot be reached has no influence.** Two grammars that compile give every text the same
tokens if they have the same patterns, and the same entries of the repository under every name that
can be reached from these. -/
theorem tokenize_eq_of_sharesReached {engine : Engine} {g g' : Grammar} {table table' : RuleTable}
    (hcompile : RuleTable.compile engine g = .ok table)
    (hcompile' : RuleTable.compile engine g' = .ok table') (h : g.SharesReached g') (text : String)
    (options : TokenizeOptions) :
    ∃ tokens, tokenize engine g text options = .ok tokens ∧
      tokenize engine g' text options = .ok tokens := by
  obtain ⟨tokens, htokens, -⟩ := exists_tokenize_eq_ok hcompile text options
  refine ⟨tokens, htokens, ?_⟩
  have hagrees := Tokenizer.agrees_of_sharesReached h hcompile hcompile' (.ofString text) options
  unfold tokenize at htokens ⊢
  rw [hcompile] at htokens
  rw [hcompile', ← htokens]
  exact congrArg (· >>= fun marks ↦ pure (marks.map (Source.ofString text).token)) hagrees.marks_eq

/-- A grammar with a rule that refers to itself, and an entry that only a disabled pattern refers
to. -/
def sparseGrammar (unused : Pattern) : Grammar :=
  (Grammar.new "source.test").withPattern (.including "#a")
    |>.withPattern (Pattern.including "#b").disabled
    |>.withRule "a" (.group [.including "#a", (Pattern.single "x").named "variable"])
    |>.withRule "b" unused

theorem eq_of_including_strategy {name : String}
    (h : (Pattern.including "#a").strategy = .ok (.reference (.repository name))) : name = "a" := by
  have hstrategy : (Pattern.including "#a").strategy = .ok (.reference (.repository "a")) := rfl
  cases hstrategy.symm.trans h
  rfl

theorem eq_of_reaches_sparseGrammar {unused p : Pattern} (h : (sparseGrammar unused).Reaches p) :
    p = .including "#a" ∨ p = .group [.including "#a", (Pattern.single "x").named "variable"] ∨
      p = (Pattern.single "x").named "variable" := by
  induction h with
  | pattern hp h =>
    rcases List.mem_cons.mp hp with rfl | hp
    · exact .inl rfl
    · obtain rfl := List.mem_singleton.mp hp
      cases h
  | child _ hq _ ih =>
    rcases ih with rfl | rfl | rfl
    · cases hq
    · rcases List.mem_cons.mp hq with rfl | hq
      · exact .inl rfl
      · exact .inr (.inr (List.mem_singleton.mp hq))
    · cases hq
  | rule _ hname hq _ ih =>
    rcases ih with rfl | rfl | rfl
    · obtain rfl := eq_of_including_strategy hname
      exact .inr (.inl (Option.some.inj hq).symm)
    · cases hname
    · cases hname

/-- Compiles a letter to what finds it. -/
def alphabetEngine : Engine := fun source ↦ source.toList.head?.map Searcher.letter

theorem tokenize_sparseGrammar_eq :
    RuleTable.compile alphabetEngine (sparseGrammar (.group [])) = .ok ⟨[("x", .letter 'x')]⟩ ∧
    RuleTable.compile alphabetEngine (sparseGrammar (.single "y")) =
      .ok ⟨[("x", .letter 'x'), ("y", .letter 'y')]⟩ ∧
    (sparseGrammar (.group [])).SharesReached (sparseGrammar (.single "y")) ∧
    tokenize alphabetEngine (sparseGrammar (.group [])) "yx" {} =
      .ok [⟨1, 2, "variable", "x"⟩] ∧
    tokenize alphabetEngine (sparseGrammar (.single "y")) "yx" {} =
      .ok [⟨1, 2, "variable", "x"⟩] := by
  have hcompile : RuleTable.compile alphabetEngine (sparseGrammar (.group [])) =
      .ok ⟨[("x", .letter 'x')]⟩ := rfl
  have hcompile' : RuleTable.compile alphabetEngine (sparseGrammar (.single "y")) =
      .ok ⟨[("x", .letter 'x'), ("y", .letter 'y')]⟩ := rfl
  have hshares : (sparseGrammar (.group [])).SharesReached (sparseGrammar (.single "y")) := by
    refine ⟨rfl, fun name h ↦ ?_⟩
    obtain ⟨p, hp, hname⟩ := h
    rcases eq_of_reaches_sparseGrammar hp with rfl | rfl | rfl
    · obtain rfl := eq_of_including_strategy hname
      rfl
    · cases hname
    · cases hname
  have htokens : tokenize alphabetEngine (sparseGrammar (.group [])) "yx" {} =
      .ok [⟨1, 2, "variable", "x"⟩] := tokenize_eq_ok_of_tokenizeUpTo (n := 5) (by decide +kernel)
  obtain ⟨tokens, hok, hok'⟩ := tokenize_eq_of_sharesReached hcompile hcompile' hshares "yx" {}
  obtain rfl := Except.ok.inj (htokens.symm.trans hok)
  exact ⟨hcompile, hcompile', hshares, htokens, hok'⟩

end Highlighter
