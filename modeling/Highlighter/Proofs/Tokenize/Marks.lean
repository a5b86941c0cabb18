import Highlighter.Proofs.Tokenize.Faults

/-!
# The marks of a call

What a call marks, with the calls that it makes, lies in its region (`Tokenizer.within_of_mem_made`)
and has a scope that some enabled rule gives (`Tokenizer.Reached.exists_enables`). Which scopes
these can be is told from the grammar alone: `Grammar.Confines` says that a pattern leads to some
scopes only, by way of its children and of what it refers to, and `Grammar.confinesWithin` checks
it. A scope that one rule for matches gives alone is on the groups of its matches in the whole text,
and nowhere else (`Tokenizer.mem_made_iff_of_givesBy`).

For a grammar that compiles, the tokens are the marks of the calls for the whole text, in order
(`tokenize_eq_ok`). So what an earlier pattern of the grammar marks comes before what a later one
marks.
-/

namespace Highlighter

/-! ## Scopes -/

/-- The scopes that a pattern gives: its own ones and those of its groups. -/
def Pattern.scopes (p : Pattern) : List String :=
  p.name.toList ++ p.contentName.toList ++
    (p.captures ++ p.beginCaptures ++ p.endCaptures).filterMap (·.2.name)

namespace Pattern

variable {p : Pattern} {scope : String}

theorem mem_scopes : scope ∈ p.scopes ↔ p.name = some scope ∨ p.contentName = some scope ∨
    ∃ c ∈ p.captures ++ p.beginCaptures ++ p.endCaptures, c.2.name = some scope := by
  simp only [scopes, List.mem_append, List.mem_filterMap, Option.mem_toList, or_assoc]

theorem mem_scopes_of_captureName? {captures : List (Nat × Capture Pattern)} {group : Nat}
    (hsubset : ∀ c ∈ captures, c ∈ p.captures ++ p.beginCaptures ++ p.endCaptures)
    (h : captureName? captures group = some scope) : scope ∈ p.scopes := by
  obtain ⟨c, hc, hname⟩ := Option.bind_eq_some_iff.mp h
  obtain ⟨l₁, l₂, hcaptures, -⟩ := List.lookup_eq_some_iff.mp hc
  exact mem_scopes.mpr (.inr (.inr ⟨(group, c), hsubset _ (by simp [hcaptures]), hname⟩))

end Pattern

/-- The enabled patterns of a grammar: those of the grammar and of its repository, and with an
enabled pattern its children, unless they are disabled. -/
inductive Grammar.Enables (g : Grammar) : Pattern → Prop
  | pattern {p : Pattern} (hp : p ∈ g.patterns) (h : p.isDisabled = false) : Enables g p
  | rule {name : String} {p : Pattern} (hp : (name, p) ∈ g.repository.entries)
      (h : p.isDisabled = false) : Enables g p
  | child {p q : Pattern} (hp : Enables g p) (hq : q ∈ p.children) (h : q.isDisabled = false) :
      Enables g q

namespace Grammar.Enables

variable {g : Grammar} {p : Pattern} {target : RuleRef}

theorem of_mem_resolve (hp : p ∈ g.resolve target) (h : p.isDisabled = false) : g.Enables p := by
  cases target with
  | self => exact .pattern hp h
  | external scope => simp [resolve] at hp
  | repository name => exact .rule (SortedMap.mem_of_get?_eq_some (Option.mem_toList.mp hp)) h

theorem isDisabled_eq_false (hp : g.Enables p) : p.isDisabled = false := by
  cases hp with
  | pattern _ h | rule _ h | child _ _ h => exact h

theorem enabledRules_subset (hp : g.Enables p) : p.enabledRules ⊆ g.enabledRules := by
  induction hp with
  | pattern hp => exact enabledRules_subset_of_mem hp
  | @rule name p hp =>
    have hmap : p ∈ g.repository.entries.map (·.2) := List.mem_map.mpr ⟨(name, p), hp, rfl⟩
    exact fun _ hrule ↦ mem_enabledRules.mpr ⟨p, List.mem_append_right _ hmap, hrule⟩
  | child hp hq _ ih =>
    exact List.Subset.trans (Pattern.enabledRules_subset hp.isDisabled_eq_false hq) ih

/-- The rules of enabled patterns are those that are checked when the grammar is compiled. -/
theorem toRule_mem (hp : g.Enables p) : p.toRule ∈ g.enabledRules :=
  hp.enabledRules_subset (Pattern.rule_mem_enabledRules hp.isDisabled_eq_false)

/-- The table of a grammar has the expression of each enabled rule for matches. -/
theorem exists_get?_eq_some {engine : Engine} {table : RuleTable} {source : String}
    (hp : g.Enables p) (hcompile : RuleTable.compile engine g = .ok table)
    (hstrategy : p.strategy = .ok (.single source)) :
    ∃ finds, engine source = some finds ∧ table.get? source = some finds := by
  obtain ⟨s, hs, hsources⟩ := RuleTable.serves_of_compile hcompile hp.toRule_mem
  obtain rfl : .single source = s := Except.ok.inj (hstrategy.symm.trans hs)
  exact hsources source (List.mem_singleton_self source)

end Grammar.Enables

/-! ## Scopes that a pattern leads to -/

/-- Whether a pattern leads only to scopes of a list: itself, by its children and by what it refers
to. -/
inductive Grammar.Confines (g : Grammar) (scopes : List String) : Pattern → Prop
  | intro {p : Pattern} (hscopes : ∀ scope ∈ p.scopes, scope ∈ scopes)
      (hchildren : ∀ q ∈ p.children, Confines g scopes q)
      (htarget : ∀ target, p.target = some target →
        ∀ q ∈ g.resolve (.ofString target), Confines g scopes q) : Confines g scopes p

/-- Checks that a pattern leads only to scopes of a list, going down by some steps at most. -/
def Grammar.confinesWithin (g : Grammar) (scopes : List String) : Nat → Pattern → Bool
  | 0, _ => false
  | n + 1, p =>
    p.scopes.all (scopes.contains ·) && p.children.all (g.confinesWithin scopes n) &&
      p.target.all fun target ↦ (g.resolve (.ofString target)).all (g.confinesWithin scopes n)

theorem Grammar.confines_of_confinesWithin {g : Grammar} {scopes : List String} {n : Nat}
    {p : Pattern} (h : g.confinesWithin scopes n p = true) : g.Confines scopes p := by
  induction n generalizing p with
  | zero => simp [confinesWithin] at h
  | succ n ih =>
    simp only [confinesWithin, Bool.and_eq_true, List.all_eq_true, Option.all_eq_true,
      List.contains_iff_mem] at h
    obtain ⟨⟨hscopes, hchildren⟩, htarget⟩ := h
    exact .intro hscopes (fun q hq ↦ ih (hchildren q hq)) fun target ht q hq ↦
      ih (htarget target ht q hq)

/-! ## Marks -/

namespace Tokenizer

variable {k : Tokenizer} {c : Call} {p : Pattern} {r r' : Region} {m : Mark} {s : Step}
  {following : List Frame}

/-- The marks of a call and of the calls that it makes, in order. -/
def made (k : Tokenizer) (c : Call) : List Mark := (k.run c).filterMap Except.toOption

theorem mem_made_iff_mem_run : m ∈ k.made c ↔ .ok m ∈ k.run c := by
  rw [made, List.mem_filterMap]
  constructor
  · rintro ⟨x, hx, hm⟩
    cases x with
    | error e => simp [Except.toOption] at hm
    | ok m' =>
      obtain rfl : m' = m := Option.some.inj hm
      exact hx
  · exact fun hm ↦ ⟨.ok m, hm, rfl⟩

/-- A mark is made by the pattern of a call itself, or by a call that it makes. -/
theorem mem_made : m ∈ k.made c ↔
    k.Takes c.pattern c.region (.mark m) ∨ ∃ c' ∈ k.calls c, m ∈ k.made c' := by
  simp only [mem_made_iff_mem_run]
  rw [mem_run]
  refine or_congr_left ⟨?_, fun h ↦ ⟨_, h, List.mem_singleton_self _⟩⟩
  rintro ⟨s, hs, hm⟩
  cases s with
  | mark m' =>
    obtain rfl : m = m' := by simpa [Step.outcome] using hm
    exact hs
  | fail e | apply p r | follow target r => simp [Step.outcome] at hm

/-- **What a call marks lies in its region.** -/
theorem within_of_mem_made (h : m ∈ k.made c) : m.region.Within c.region := by
  induction k.acc_calls c with
  | intro c _ ih =>
    rcases mem_made.mp h with hs | ⟨c', hc', hm⟩
    · exact hs.within rfl
    · have hregion : c'.region.Within c.region := by
        rcases mem_calls.mp hc' with ⟨q, r, hs, rfl⟩ | ⟨target, r, q, hs, -, -, rfl⟩
        · exact hs.within rfl
        · exact hs.within rfl
      exact (ih c' hc' hm).trans hregion

/-- What comes of a step: its own mark and those of the calls that it makes. -/
def marksOf (k : Tokenizer) (following : List Frame) (s : Step) : List Mark :=
  s.outcome.filterMap Except.toOption ++ (k.callsOf following s).flatMap k.made

/-- The marks of a call are those of its steps, in order. -/
theorem made_eq (c : Call) :
    k.made c = (k.steps c.pattern c.region).flatMap (k.marksOf c.following) := by
  rw [made, run_eq, List.filterMap_flatMap]
  simp only [List.filterMap_append, List.filterMap_flatMap]
  rfl

theorem mem_marksOf :
    m ∈ k.marksOf following s ↔ s = .mark m ∨ ∃ c ∈ k.callsOf following s, m ∈ k.made c := by
  rw [marksOf, List.mem_append, List.mem_flatMap]
  refine or_congr_left ⟨fun hm ↦ ?_, ?_⟩
  · cases s with
    | mark m' =>
      obtain rfl : m = m' := by simpa [Step.outcome, Except.toOption] using hm
      rfl
    | fail e | apply q r | follow target r => simp [Step.outcome, Except.toOption] at hm
  · rintro rfl
    exact List.mem_singleton_self m

/-- What comes of a step lies in the region that it is about. -/
theorem within_of_mem_marksOf (hr : s.region? = some r') (hm : m ∈ k.marksOf following s) :
    m.region.Within r' := by
  rcases mem_marksOf.mp hm with rfl | ⟨c, hc, hm⟩
  · obtain rfl := Option.some.inj hr
    exact .refl _
  · rcases k.mem_callsOf.mp hc with ⟨q, r, rfl, rfl⟩ | ⟨target, r, q, rfl, -, -, rfl⟩
    · obtain rfl := Option.some.inj hr
      exact within_of_mem_made hm
    · obtain rfl := Option.some.inj hr
      exact within_of_mem_made hm

/-- Nothing comes of a step that is about no region. -/
theorem marksOf_of_region?_eq_none (hr : s.region? = none) : k.marksOf following s = [] := by
  cases s with
  | fail e => rfl
  | mark m | apply p r | follow target r => cases hr

theorem Takes.scope_mem (h : k.Takes p r (.mark m)) : m.scope ∈ p.scopes := by
  cases h with
  | matchGroup _ _ hs _ =>
    rcases Option.or_eq_some_iff.mp hs with hs | ⟨-, hs⟩
    · exact Pattern.mem_scopes_of_captureName? (fun c hc ↦ by simp [hc]) hs
    · exact Pattern.mem_scopes.mpr (.inl hs)
  | block _ hs _ => exact Pattern.mem_scopes.mpr (.inl hs)
  | interior _ hs _ => exact Pattern.mem_scopes.mpr (.inr (.inl hs))
  | edgeGroup _ he _ hs _ =>
    rcases Option.or_eq_some_iff.mp hs with hs | ⟨-, hs⟩
    · exact Pattern.mem_scopes_of_captureName?
        (fun c hc ↦ Pattern.mem_captures_of_mem_edges he hc) hs
    · refine Pattern.mem_scopes.mpr (.inl ?_)
      split at hs
      · exact hs
      · cases hs

theorem Takes.isEmpty_eq_false (h : k.Takes p r (.mark m)) : m.region.isEmpty = false := by
  cases h with
  | matchGroup _ _ _ hr | block _ _ hr | interior _ _ hr | edgeGroup _ _ _ _ hr => exact hr

/-- What a call marks has an extent. -/
theorem isEmpty_eq_false_of_mem_made (h : m ∈ k.made c) : m.region.isEmpty = false := by
  induction k.acc_calls c with
  | intro c _ ih =>
    rcases mem_made.mp h with hs | ⟨c', hc', hm⟩
    · exact hs.isEmpty_eq_false
    · exact ih c' hc' hm

theorem Takes.isEmpty_eq_false_of_mem_marksOf (hs : k.Takes p r s)
    (hm : m ∈ k.marksOf following s) : m.region.isEmpty = false := by
  rcases mem_marksOf.mp hm with rfl | ⟨c, -, hm⟩
  · exact hs.isEmpty_eq_false
  · exact isEmpty_eq_false_of_mem_made hm

/-- What a pattern refers to is what it says it includes. -/
theorem Takes.exists_target {target : RuleRef} {r' : Region} (h : k.Takes p r (.follow target r')) :
    ∃ written, p.target = some written ∧ target = .ofString written := by
  cases h with
  | follow hp =>
    rcases Rule.strategy_eq_ok hp.2 with h | ⟨source, -, h⟩ | h | ⟨written, hwritten, h⟩
    · cases h
    · cases h
    · obtain ⟨begins, ends, -, -, h⟩ := Rule.exists_of_block?_eq_some h
      cases h
    · cases h
      exact ⟨written, hwritten, rfl⟩

/-- What is applied is enabled, or takes no steps. -/
theorem Reached.enables (h : k.Reached c) (hp : c.pattern.isDisabled = false) :
    k.grammar.Enables c.pattern := by
  induction h with
  | top h =>
    obtain ⟨p, hmem, rfl⟩ := List.mem_map.mp h
    exact .pattern hmem hp
  | call _ hc ih =>
    rcases mem_calls.mp hc with ⟨q, r, hs, rfl⟩ | ⟨target, r, q, -, -, hq, rfl⟩
    · exact .child (ih hs.isDisabled_eq_false) hs.mem_children hp
    · exact .of_mem_resolve hq hp

/-- A mark that is made has a scope that an enabled pattern gives. -/
theorem Reached.exists_enables (h : k.Reached c) (hm : k.Takes c.pattern c.region (.mark m)) :
    ∃ p, k.grammar.Enables p ∧ m.scope ∈ p.scopes :=
  ⟨c.pattern, h.enables hm.isDisabled_eq_false, hm.scope_mem⟩

/-- What a call marks has a scope that its pattern leads to. -/
theorem scope_mem_of_mem_made {scopes : List String} (hp : k.grammar.Confines scopes c.pattern)
    (h : m ∈ k.made c) : m.scope ∈ scopes := by
  obtain ⟨following, p, r⟩ := c
  dsimp only at hp
  induction hp generalizing following r with
  | intro hscopes _ _ ihchildren ihtarget =>
    rcases mem_made.mp h with hs | ⟨c', hc', hm⟩
    · exact hscopes _ hs.scope_mem
    · rcases mem_calls.mp hc' with ⟨q, r', hs, rfl⟩ | ⟨target, r', q, hs, -, hq, rfl⟩
      · exact ihchildren q hs.mem_children _ _ hm
      · obtain ⟨written, hwritten, rfl⟩ := hs.exists_target
        exact ihtarget written hwritten q hq _ _ hm

/-- A tokenizer that never fails makes the marks of the calls for the whole text, in order. -/
theorem NeverFails.marks_eq (h : k.NeverFails) : k.marks = .ok (k.topCalls.flatMap k.made) := by
  obtain ⟨ms, hms, hmap⟩ := mapM_id_of_forall_ok h.error_not_mem
  have hmade : k.topCalls.flatMap k.made = ms := by
    have hfilter := congrArg (List.filterMap Except.toOption) hmap
    rw [List.filterMap_flatMap, List.filterMap_map] at hfilter
    exact hfilter.trans (List.filterMap_some (l := ms))
  rw [marks, hms, hmade]

end Tokenizer

/-! ## Rules for the matches of an expression -/

namespace Tokenizer

variable {k : Tokenizer} {p : Pattern} {r : Region} {m : Mark} {following : List Frame}
  {source : String} {finds : Searcher}

/-- A rule for the matches of an expression marks groups of these. -/
theorem Takes.exists_participating (hp : p.strategy = .ok (.single source))
    (h : k.Takes p r (.mark m)) :
    ∃ finds found group, k.table.get? source = some finds ∧ found ∈ finds.matchesIn k.text r ∧
      (group, m.region) ∈ found.participating ∧
      (captureName? p.captures group).or p.name = some m.scope := by
  -- The expression is not that of a block.
  have hblock : ∀ b, ¬k.HasBlock p r b := by
    rintro b ⟨begins, ends, -, -, ⟨-, hs⟩, -⟩
    rw [hp] at hs
    cases hs
  cases h with
  | @matchGroup found group r' scope hm hg hs hr =>
    obtain ⟨source', finds, ⟨-, hs'⟩, hfinds, hfound⟩ := hm
    rw [hp] at hs'
    cases hs'
    exact ⟨finds, found, group, hfinds, hfound, hg, hs⟩
  | block hb | interior hb | edgeGroup hb => exact absurd hb (hblock _)

/-- What a rule for the matches of an expression leads to is marked by the rule itself, or has a
scope that the patterns below lead to. -/
theorem takes_or_exists_scope_mem (hp : p.strategy = .ok (.single source))
    (h : m ∈ k.made ⟨following, p, r⟩) : k.Takes p r (.mark m) ∨
      ∃ q ∈ p.children, ∀ scopes, k.grammar.Confines scopes q → m.scope ∈ scopes := by
  rcases mem_made.mp h with hs | ⟨c, hc, hm⟩
  · exact .inl hs
  · rcases mem_calls.mp hc with ⟨q, r', hs, rfl⟩ | ⟨target, r', q, hs, -, -, rfl⟩
    · exact .inr ⟨q, hs.mem_children, fun scopes hq ↦ scope_mem_of_mem_made hq hm⟩
    · cases hs with
      | follow hp' =>
        have hs := hp'.2
        rw [hp] at hs
        cases hs

end Tokenizer

/-- Whether a scope is given by one rule only, which is for the matches of an expression and among
the patterns of the grammar itself. -/
structure Grammar.GivesBy (g : Grammar) (scope : String) (p : Pattern) (source : String) :
    Prop where
  mem : p ∈ g.patterns
  strategy : p.strategy = .ok (.single source)
  isDisabled_eq_false : p.isDisabled = false
  children : ∀ q ∈ p.children, ∃ scopes, g.Confines scopes q ∧ scope ∉ scopes
  others : ∀ q ∈ g.patterns, q = p ∨ ∃ scopes, g.Confines scopes q ∧ scope ∉ scopes

/-- Checks that a scope is given by one rule only, following what patterns refer to for some
steps. -/
theorem Grammar.GivesBy.of_confinesWithin {g : Grammar} {scope : String} {p : Pattern}
    {source : String} (n : Nat) (front back : List Pattern) (scopes inner : List String)
    (hpatterns : g.patterns = front ++ p :: back) (hstrategy : p.strategy = .ok (.single source))
    (henabled : p.isDisabled = false)
    (hothers : ∀ q ∈ front ++ back, g.confinesWithin scopes n q = true) (hscope : scope ∉ scopes)
    (hchildren : ∀ q ∈ p.children, g.confinesWithin inner n q = true) (hinner : scope ∉ inner) :
    g.GivesBy scope p source where
  mem := by simp [hpatterns]
  strategy := hstrategy
  isDisabled_eq_false := henabled
  children := fun q hq ↦ ⟨inner, confines_of_confinesWithin (hchildren q hq), hinner⟩
  others := by
    intro q hq
    rw [hpatterns, List.mem_append, List.mem_cons] at hq
    rcases hq with hq | rfl | hq
    · exact .inr ⟨scopes, confines_of_confinesWithin (hothers q (by simp [hq])), hscope⟩
    · exact .inl rfl
    · exact .inr ⟨scopes, confines_of_confinesWithin (hothers q (by simp [hq])), hscope⟩

namespace Tokenizer

variable {k : Tokenizer} {p : Pattern} {m : Mark} {source : String} {finds : Searcher}

/-- The marks with a scope that one rule gives are those of groups of matches in the whole text. -/
theorem mem_made_iff_of_givesBy (hg : k.grammar.GivesBy m.scope p source)
    (hfinds : k.table.get? source = some finds) : m ∈ k.topCalls.flatMap k.made ↔
      m.region.isEmpty = false ∧ ∃ found ∈ finds.matchesFrom k.text 0, ∃ group,
        found.whole.isEmpty = false ∧ (group, m.region) ∈ found.participating ∧
        (captureName? p.captures group).or p.name = some m.scope := by
  let whole : Region := ⟨0, k.text.size, Nat.zero_le _⟩
  have hmatches : ∀ found, found ∈ finds.matchesIn k.text whole ↔
      found ∈ finds.matchesFrom k.text 0 ∧ found.whole.isEmpty = false := by
    intro found
    simp [Searcher.matchesIn, whole]
  constructor
  · intro hm
    obtain ⟨c, hc, hm⟩ := List.mem_flatMap.mp hm
    obtain ⟨q, hq, rfl⟩ := List.mem_map.mp hc
    -- Neither another rule nor the patterns below this rule give the scope.
    have heq : q = p := (hg.others q hq).resolve_right fun ⟨scopes, hconfines, hscope⟩ ↦
      hscope (scope_mem_of_mem_made hconfines hm)
    subst heq
    have hs : k.Takes q whole (.mark m) :=
      (takes_or_exists_scope_mem hg.strategy hm).resolve_right fun ⟨q', hq', hmem⟩ ↦ by
        obtain ⟨scopes, hconfines, hscope⟩ := hg.children q' hq'
        exact hscope (hmem scopes hconfines)
    obtain ⟨finds', found, group, hfinds', hfound, hgroup, hname⟩ :=
      hs.exists_participating hg.strategy
    obtain rfl : finds = finds' := Option.some.inj (hfinds.symm.trans hfinds')
    obtain ⟨hfound, hempty⟩ := (hmatches found).mp hfound
    exact ⟨hs.isEmpty_eq_false, found, hfound, group, hempty, hgroup, hname⟩
  · rintro ⟨hregion, found, hfound, group, hempty, hgroup, hname⟩
    have hmatch : k.HasMatch p whole found := ⟨source, finds,
      ⟨hg.isDisabled_eq_false, hg.strategy⟩, hfinds, (hmatches found).mpr ⟨hfound, hempty⟩⟩
    refine List.mem_flatMap.mpr ⟨⟨[], p, whole⟩, List.mem_map_of_mem hg.mem, ?_⟩
    exact mem_made.mpr (.inl (.matchGroup hmatch hgroup hname hregion))

end Tokenizer

/-- **The tokens of a text** are those of the marks of the calls for the whole text, in order. -/
theorem tokenize_eq_ok {engine : Engine} {g : Grammar} {table : RuleTable}
    (h : RuleTable.compile engine g = .ok table) (text : String) (options : TokenizeOptions) :
    tokenize engine g text options = .ok
      (((g.tokenizer table (.ofString text) options).topCalls.flatMap
        (g.tokenizer table (.ofString text) options).made).map (Source.ofString text).token) := by
  have hmarks := Tokenizer.NeverFails.marks_eq
    (Tokenizer.neverFails (k := g.tokenizer table (.ofString text) options) h)
  unfold tokenize
  rw [h]
  exact congrArg (· >>= fun marks ↦ pure (marks.map (Source.ofString text).token)) hmarks

end Highlighter
