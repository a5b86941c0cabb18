import Highlighter.Proofs.Tokenize.Literals

/-!
# The order of literals

A rule that marks the groups of an alternation marks them in the order of the text, because its
matches come in this order and each of them has one group (`Pattern.MarksGroups.pairwise_steps`).
The marks of escapes come between them, but those have a scope of their own. A grammar that ends in
literals applies this rule once, to the whole text, and nothing else in it has the scopes of
literals. So the literals of a text come in order and have no text in common
(`literals_in_order`).

Statements on membership do not suffice here: the marks are followed as lists, from the matches of
one scan to the steps of the rule, the marks of the call and the tokens of the text.
-/

namespace Highlighter

/-! ## Steps -/

/-- Whether the first of two steps, if both mark something, marks what comes first in the text. -/
def Step.MarksBefore (s s' : Step) : Prop :=
  ∀ m m', s = .mark m → s' = .mark m' → m.region.stop ≤ m'.region.start

theorem Match.pairwise_participating (m : Match) : m.participating.Pairwise (·.1 < ·.1) := by
  have hzip : m.allGroups.zipIdx.Pairwise (·.2 < ·.2) := by
    rw [← List.pairwise_map (R := (· < ·)), List.zipIdx_map_snd]
    exact List.pairwise_lt_range'
  refine hzip.filterMap _ fun e e' hlt g hg g' hg' ↦ ?_
  obtain ⟨r, -, rfl⟩ := Option.map_eq_some_iff.mp hg
  obtain ⟨r', -, rfl⟩ := Option.map_eq_some_iff.mp hg'
  exact hlt

theorem pairwise_markSteps (r : Region) (scope : Option String) :
    (markSteps r scope).Pairwise Step.MarksBefore := by
  unfold markSteps tag
  split
  · split <;> simp
  · simp

theorem mark_not_mem_applySteps {patterns : List Pattern} {r : Region} {m : Mark} :
    .mark m ∉ applySteps patterns r := by
  intro h
  obtain ⟨q, -, hm⟩ := mem_applySteps.mp h
  cases hm

/-- Applying patterns after some steps marks nothing. -/
theorem pairwise_append_applySteps {steps : List Step} (h : steps.Pairwise Step.MarksBefore)
    (patterns : List Pattern) (r : Region) :
    (steps ++ applySteps patterns r).Pairwise Step.MarksBefore := by
  have hlast : ∀ s : Step, ∀ s' ∈ applySteps patterns r, s.MarksBefore s' := by
    rintro s s' hs' m m' - rfl
    exact absurd hs' mark_not_mem_applySteps
  refine List.pairwise_append.mpr ⟨h, ?_, fun s _ s' hs' ↦ hlast s s' hs'⟩
  exact List.pairwise_of_forall_mem_list fun s _ s' hs' ↦ hlast s s' hs'

namespace Pattern.MarksGroups

variable {p : Pattern} {source : String} {nested : NestedScope} {found : Match} {m : Mark}
  {group : Nat} {r : Region}

/-- The group 0, which is the whole match, is not marked. -/
theorem exists_eq_succ (hp : p.MarksGroups source)
    (h : .mark m ∈ singleMark p.toRule p.captures found.whole group r ++
      applySteps (capturePatterns p.captures group) r) : ∃ i, group = i + 1 := by
  obtain ⟨scope, hs, -, -⟩ :=
    mem_singleMark ((List.mem_append.mp h).resolve_right mark_not_mem_applySteps)
  cases group with
  | zero =>
    have hname : p.toRule.name = none := hp.name
    simp [captureName?, hp.whole, hname] at hs
  | succ i => exact ⟨i, rfl⟩

theorem within_of_mem_matchSteps (hp : p.MarksGroups source) (halt : found.IsAlternative)
    (h : .mark m ∈ p.matchSteps nested found) : m.region.Within found.whole := by
  rcases mem_matchSteps.mp h with ⟨group, r, hg, ⟨scope, hs, -, hm⟩ | ⟨q, -, hm⟩⟩ | ⟨-, q, -, hm⟩
  · cases hm
    cases group with
    | zero => simp [captureName?, hp.whole, hp.name] at hs
    | succ i => exact halt.within_whole hg
  · cases hm
  · cases hm

/-- At one match there is one group, and so at most one mark. -/
theorem pairwise_groupSteps (hp : p.MarksGroups source) (halt : found.IsAlternative) :
    (found.groupSteps p.captures (singleMark p.toRule p.captures found.whole)).Pairwise
      Step.MarksBefore := by
  refine List.pairwise_flatMap.mpr ⟨fun e _ ↦ pairwise_append_applySteps ?_ _ _, ?_⟩
  · unfold singleMark
    dsimp only
    split
    · exact pairwise_markSteps _ _
    · exact .nil
  · refine found.pairwise_participating.imp_of_mem ?_
    intro e e' he he' hlt s hs s' hs' m m' hm hm'
    subst hm hm'
    -- Two groups that are both marked are the same group.
    obtain ⟨i, hi⟩ := hp.exists_eq_succ hs
    obtain ⟨j, hj⟩ := hp.exists_eq_succ hs'
    obtain ⟨group, r⟩ := e
    obtain ⟨group', r'⟩ := e'
    obtain rfl : group = i + 1 := hi
    obtain rfl : group' = j + 1 := hj
    obtain ⟨rfl, -⟩ := halt.group_eq he he'
    exact absurd hlt (Nat.lt_irrefl _)

theorem pairwise_matchSteps (hp : p.MarksGroups source) (halt : found.IsAlternative) :
    (p.matchSteps nested found).Pairwise Step.MarksBefore := by
  unfold matchSteps
  split
  · exact pairwise_append_applySteps (hp.pairwise_groupSteps halt) _ _
  · rw [List.append_nil]
    exact hp.pairwise_groupSteps halt

/-- The matches of a scan come in order, and what is marked at a match lies in it. -/
theorem pairwise_singleSteps (hp : p.MarksGroups source) {finds : Searcher}
    (halt : finds.IsAlternation) (text : Array Char) (r : Region) :
    (p.singleSteps nested (finds.matchesIn text r) r).Pairwise Step.MarksBefore := by
  have halt : ∀ found ∈ finds.matchesIn text r, found.IsAlternative := fun found hfound ↦
    halt.isAlternative (List.mem_filter.mp hfound).1
  have hmatches :
      ((finds.matchesIn text r).flatMap (p.matchSteps nested)).Pairwise Step.MarksBefore := by
    refine List.pairwise_flatMap.mpr ⟨fun found hfound ↦ hp.pairwise_matchSteps (halt _ hfound), ?_⟩
    refine ((pairwise_matchesFrom _ _ _).filter _).imp_of_mem
      fun {found found'} h h' hle s hs s' hs' m m' hm hm' ↦ ?_
    subst hm hm'
    have hstop := (hp.within_of_mem_matchSteps (halt found h) hs).2
    have hstart := (hp.within_of_mem_matchSteps (halt found' h') hs').1
    exact Nat.le_trans hstop (Nat.le_trans hle hstart)
  unfold singleSteps
  split
  · exact pairwise_append_applySteps hmatches _ _
  · rwa [List.append_nil]

/-- **The steps of a rule that marks the groups of an alternation** mark them in the order of the
text. -/
theorem pairwise_steps {k : Tokenizer} (hp : p.MarksGroups source)
    (hfinds : p.isDisabled = false → ∀ finds, k.table.get? source = some finds →
      finds.IsAlternation) (r : Region) : (k.steps p r).Pairwise Step.MarksBefore := by
  unfold Tokenizer.steps
  rw [hp.strategy]
  split
  · exact .nil
  · next henabled =>
    dsimp only
    split
    · next finds hget =>
      exact hp.pairwise_singleSteps (hfinds (eq_false_of_ne_true henabled) finds hget) _ _
    · exact .nil

end Pattern.MarksGroups

/-! ## Calls -/

/-- Whether the first of two marks, if both have one of some scopes, comes first in the text. -/
def Mark.Before (scopes : List String) (m m' : Mark) : Prop :=
  m.scope ∈ scopes → m'.scope ∈ scopes → m.region.stop ≤ m'.region.start

namespace Tokenizer

variable {k : Tokenizer} {p : Pattern} {r : Region} {m : Mark} {following : List Frame}
  {s : Step} {source escape : String} {literals : Pattern} {others : List String}

theorem made_including (target : String) :
    k.made ⟨following, .including target, r⟩ =
      (k.callsOf following (.follow (.ofString target) r)).flatMap k.made := by
  rw [made_eq]
  exact List.flatMap_singleton _ _

/-- Of the steps of a rule for literals, only those that mark a literal lead to one. -/
theorem eq_mark_of_mem_marksOf (hp : p.MarksGroups source)
    (hchildren : ∀ q ∈ p.children, k.grammar.Confines [escape] q) (hs : s ∈ k.steps p r)
    (hm : m ∈ k.marksOf following s) (hescape : m.scope ≠ escape) : s = .mark m := by
  have hs := mem_steps_iff.mp hs
  rcases mem_marksOf.mp hm with rfl | ⟨c, hc, hm⟩
  · rfl
  · rcases k.mem_callsOf.mp hc with ⟨q, r', rfl, rfl⟩ | ⟨target, r', q, rfl, -, -, -⟩
    · have hscope := scope_mem_of_mem_made (hchildren q hs.mem_children) hm
      exact absurd (List.mem_singleton.mp hscope) hescape
    · cases hs with
      | follow hp' =>
        have hstrategy := hp'.2
        rw [hp.strategy] at hstrategy
        cases hstrategy

/-- **What a rule for literals marks** comes in order, apart from escapes. -/
theorem pairwise_made (hp : p.MarksGroups source)
    (hfinds : p.isDisabled = false → ∀ finds, k.table.get? source = some finds →
      finds.IsAlternation)
    (hchildren : ∀ q ∈ p.children, k.grammar.Confines [escape] q) (hescape : escape ∉ p.scopes) :
    (k.made ⟨following, p, r⟩).Pairwise (Mark.Before p.scopes) := by
  have hmark : ∀ {s m}, s ∈ k.steps p r → m ∈ k.marksOf following s → m.scope ∈ p.scopes →
      s = .mark m := fun hs hm hscope ↦
    eq_mark_of_mem_marksOf hp hchildren hs hm fun heq ↦ hescape (heq ▸ hscope)
  rw [made_eq]
  refine List.pairwise_flatMap.mpr ⟨fun s hs ↦ ?_, ?_⟩
  · cases s with
    | mark m => exact List.pairwise_singleton _ m
    | fail e | apply q r' | follow target r' =>
      exact List.pairwise_of_forall_mem_list fun m hm m' _ hscope ↦ nomatch hmark hs hm hscope
  · refine (hp.pairwise_steps hfinds r).imp_of_mem
      fun {s s'} hs hs' hbefore m hm m' hm' hscope hscope' ↦ ?_
    exact hbefore m m' (hmark hs hm hscope) (hmark hs' hm' hscope')

/-- **The marks of literals come in order** in a grammar that ends in literals. -/
theorem pairwise_topCalls_made {engine : Engine} (hengine : engine.Suits k.grammar literals)
    (hcompile : RuleTable.compile engine k.grammar = .ok k.table)
    (hg : k.grammar.EndsInLiterals literals others escape) :
    (k.topCalls.flatMap k.made).Pairwise (Mark.Before literals.scopes) := by
  obtain ⟨front, hpatterns, hfront⟩ := hg.patterns
  obtain ⟨source, hmarks⟩ := hg.marksGroups
  let whole : Region := ⟨0, k.text.size, Nat.zero_le _⟩
  have hothers : ∀ m ∈ (front.map fun p ↦ (⟨[], p, whole⟩ : Call)).flatMap k.made,
      m.scope ∉ literals.scopes := by
    intro m hm hscope
    obtain ⟨c, hc, hm⟩ := List.mem_flatMap.mp hm
    obtain ⟨p, hp, rfl⟩ := List.mem_map.mp hc
    exact hg.disjoint m.scope (List.mem_cons_of_mem escape hscope)
      (scope_mem_of_mem_made (hfront p hp) hm)
  rw [topCalls, hpatterns, List.map_append, List.flatMap_append, List.map_singleton,
    List.flatMap_singleton]
  refine List.pairwise_append.mpr ⟨List.pairwise_of_forall_mem_list fun m hm _ _ hscope ↦
    absurd hscope (hothers m hm), ?_, fun m hm _ _ hscope ↦ absurd hscope (hothers m hm)⟩
  -- The rule is reached once, or not at all if no reference may be followed.
  rw [made_including, callsOf]
  split
  · rw [hg.resolve, List.map_singleton, List.flatMap_singleton]
    exact pairwise_made hmarks
      (fun henabled _ ↦ isAlternation_of_get?_eq_some hengine hcompile hg hmarks henabled)
      hg.children hg.escape_not_mem
  · exact .nil

end Tokenizer

/-! ## Tokens -/

/-- **Literals come in order**, and no two of them have text in common. -/
theorem pairwise_tokenize {engine : Engine} {g : Grammar} {table : RuleTable}
    {literals : Pattern} {others : List String} {escape text : String} {options : TokenizeOptions}
    {tokens : List Token} (hg : g.EndsInLiterals literals others escape)
    (hengine : engine.Suits g literals) (hcompile : RuleTable.compile engine g = .ok table)
    (htokens : tokenize engine g text options = .ok tokens) :
    (tokens.filter (·.scope ∈ literals.scopes)).Pairwise fun t t' ↦
      t.start < t'.start ∧ t.stop ≤ t'.start := by
  let k := g.tokenizer table (.ofString text) options
  obtain rfl : tokens = (k.topCalls.flatMap k.made).map (Source.ofString text).token :=
    Except.ok.inj (htokens.symm.trans (tokenize_eq_ok hcompile text options))
  rw [List.pairwise_filter, List.pairwise_map]
  refine (Tokenizer.pairwise_topCalls_made (k := k) hengine hcompile hg).imp_of_mem
    fun {m m'} hm hm' hbefore hscope hscope' ↦ ?_
  have hscope := of_decide_eq_true hscope
  have hscope' := of_decide_eq_true hscope'
  have hs := Tokenizer.takes_of_scope_mem (k := k) hg hm hscope
  have hs' := Tokenizer.takes_of_scope_mem (k := k) hg hm' hscope'
  have hlt := Source.token_start_lt_stop (s := .ofString text) hs.isEmpty_eq_false (hs.within rfl).2
  have hle := (Source.ofString text).offset_le_offset (hbefore hscope hscope')
    (Nat.le_trans m'.region.start_le_stop (hs'.within rfl).2)
  exact ⟨Nat.lt_of_lt_of_le hlt hle, hle⟩

end Highlighter
