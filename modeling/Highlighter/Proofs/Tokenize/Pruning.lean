import Highlighter.Proofs.Tokenize.Simplification

/-!
# A disabled rule is as good as absent

Pruning removes what is disabled from every list of patterns and from the repository, with all that
is below it (`Grammar.isAllEnabled_of_mem_prune`). A pruned grammar has the same table and tokenizes
every text alike, faults included (`tokenize_prune`). That covers a reference to a disabled rule,
which stands for a pattern that does nothing before and for nothing afterwards.
-/

namespace Highlighter

/-! ## Pruning -/

mutual

/-- A pattern without the disabled patterns below it. -/
def Pattern.prune : Pattern → Pattern
  | ⟨rule, patterns, captures, beginCaptures, endCaptures⟩ =>
    ⟨rule, prunePatterns patterns, pruneTable captures, pruneTable beginCaptures,
      pruneTable endCaptures⟩

/-- The patterns that are enabled, without the disabled patterns below them. -/
def prunePatterns : List Pattern → List Pattern
  | [] => []
  | p :: ps => if p.isDisabled then prunePatterns ps else p.prune :: prunePatterns ps

/-- A capture table without the disabled patterns. Its entries stay, and so do their scopes. -/
def pruneTable : List (Nat × Capture Pattern) → List (Nat × Capture Pattern)
  | [] => []
  | (group, ⟨name, patterns⟩) :: cs => (group, ⟨name, prunePatterns patterns⟩) :: pruneTable cs

end

/-- The entries of a repository that are enabled, without the disabled patterns below them. -/
def pruneRules (l : List (String × Pattern)) : List (String × Pattern) :=
  (l.filter fun e ↦ !e.2.isDisabled).map fun e ↦ (e.1, e.2.prune)

/-- A grammar without its disabled patterns. -/
def Grammar.prune (g : Grammar) : Grammar :=
  { g with
    patterns := prunePatterns g.patterns
    repository := ⟨pruneRules g.repository.entries,
      List.pairwise_map.mpr (g.repository.ascending.sublist List.filter_sublist)⟩ }

/-! ## Nothing disabled is left -/

/-- The pattern is enabled and so is all that is below it. -/
inductive Pattern.IsAllEnabled : Pattern → Prop
  | mk {p : Pattern} (hp : p.isDisabled = false) (hchildren : ∀ q ∈ p.children, q.IsAllEnabled) :
      IsAllEnabled p

mutual

theorem Pattern.isAllEnabled_prune {p : Pattern} (hp : p.isDisabled = false) :
    p.prune.IsAllEnabled := by
  match p with
  | ⟨rule, ps, cs, bs, es⟩ =>
    rw [Pattern.prune]
    refine .mk hp fun q hq ↦ ?_
    rcases List.mem_append.mp hq with hq | hq
    · exact isAllEnabled_of_mem_prunePatterns ps q hq
    · obtain ⟨c, hc, hq⟩ := List.mem_flatMap.mp hq
      simp only [List.mem_append] at hc
      rcases hc with (hc | hc) | hc
      · exact isAllEnabled_of_mem_pruneTable cs c hc q hq
      · exact isAllEnabled_of_mem_pruneTable bs c hc q hq
      · exact isAllEnabled_of_mem_pruneTable es c hc q hq

theorem isAllEnabled_of_mem_prunePatterns (ps : List Pattern) :
    ∀ q ∈ prunePatterns ps, q.IsAllEnabled := by
  match ps with
  | [] => exact List.forall_mem_nil _
  | p :: ps =>
    rw [prunePatterns]
    split
    · exact isAllEnabled_of_mem_prunePatterns ps
    · next hp =>
      exact List.forall_mem_cons.mpr ⟨Pattern.isAllEnabled_prune (by simpa using hp),
        isAllEnabled_of_mem_prunePatterns ps⟩

theorem isAllEnabled_of_mem_pruneTable (cs : List (Nat × Capture Pattern)) :
    ∀ c ∈ pruneTable cs, ∀ q ∈ c.2.patterns, q.IsAllEnabled := by
  match cs with
  | [] => exact List.forall_mem_nil _
  | (group, ⟨name, ps⟩) :: cs =>
    rw [pruneTable]
    exact List.forall_mem_cons.mpr
      ⟨isAllEnabled_of_mem_prunePatterns ps, isAllEnabled_of_mem_pruneTable cs⟩

end

/-- **A pruned grammar has no disabled patterns.** -/
theorem Grammar.isAllEnabled_of_mem_prune {g : Grammar} {p : Pattern}
    (hp : p ∈ g.prune.patterns ++ g.prune.repository.entries.map (·.2)) : p.IsAllEnabled := by
  rcases List.mem_append.mp hp with hp | hp
  · exact isAllEnabled_of_mem_prunePatterns _ p hp
  · obtain ⟨e', he', rfl⟩ := List.mem_map.mp hp
    obtain ⟨e, he, rfl⟩ := List.mem_map.mp he'
    have henabled : e.2.isDisabled = false := by simpa using (List.mem_filter.mp he).2
    exact Pattern.isAllEnabled_prune henabled

/-! ## Pruning has no effect -/

mutual

theorem Pattern.simplifiesTo_prune (p : Pattern) : p.SimplifiesTo p.prune := by
  match p with
  | ⟨_, ps, cs, bs, es⟩ =>
    rw [Pattern.prune]
    exact .mk rfl (simplifyTo_prunePatterns ps) (simplifiesTo_pruneTable cs)
      (simplifiesTo_pruneTable bs) (simplifiesTo_pruneTable es)

theorem simplifyTo_prunePatterns (ps : List Pattern) :
    PatternsSimplifyTo ps (prunePatterns ps) := by
  match ps with
  | [] => exact .nil
  | p :: ps =>
    rw [prunePatterns]
    split
    · next hp => exact .drop hp (simplifyTo_prunePatterns ps)
    · exact .cons p.simplifiesTo_prune (simplifyTo_prunePatterns ps)

theorem simplifiesTo_pruneTable (cs : List (Nat × Capture Pattern)) :
    TableSimplifiesTo cs (pruneTable cs) := by
  match cs with
  | [] => exact .nil
  | (_, ⟨_, ps⟩) :: cs =>
    rw [pruneTable]
    exact .cons (simplifyTo_prunePatterns ps) (simplifiesTo_pruneTable cs)

end

theorem simplifyTo_pruneRules (l : List (String × Pattern)) :
    RulesSimplifyTo l (pruneRules l) := by
  induction l with
  | nil => exact .nil
  | cons e l ih =>
    by_cases he : e.2.isDisabled
    · rw [pruneRules, List.filter_cons_of_neg (by simp [he])]
      exact .drop he ih
    · rw [pruneRules, List.filter_cons_of_pos (by simp [he])]
      exact .cons e.2.simplifiesTo_prune ih

theorem Grammar.simplifiesTo_prune (g : Grammar) : g.SimplifiesTo g.prune where
  patterns := simplifyTo_prunePatterns g.patterns
  rules := simplifyTo_pruneRules g.repository.entries

/-- **Disabled rules have no effect.** Without them, a grammar gives every text the same tokens or
the same fault, and has the same table. -/
theorem tokenize_prune (engine : Engine) (g : Grammar) :
    (∀ text options, tokenize engine g.prune text options = tokenize engine g text options) ∧
      RuleTable.compile engine g.prune = RuleTable.compile engine g :=
  ⟨g.simplifiesTo_prune.tokenize_eq engine, (g.simplifiesTo_prune.compile_eq engine).symm⟩

end Highlighter
