import Highlighter.Grammar.RuleTable

/-!
# What a compiled grammar has

Compiling adds expressions to a table one by one. `RuleTable.Grows` says what adding does to a table
and composes along a fold. So the table of a grammar that compiles has, for every enabled rule, the
expressions that the rule needs, as the engine compiles them.

Which rules are enabled is told by a walk over the grammar. The walk misses nothing: with an enabled
pattern it visits the children of the pattern, and it visits whatever a reference can stand for.
-/

namespace Highlighter

theorem bind_eq_ok_iff {ε α β : Type} {x : Except ε α} {f : α → Except ε β} {b : β} :
    x >>= f = .ok b ↔ ∃ a, x = .ok a ∧ f a = .ok b := by
  cases x with
  | error e => simp [bind, Except.bind]
  | ok a => simp [bind, Except.bind]

theorem exists_of_isOk {ε α : Type} {x : Except ε α} (h : x.isOk = true) : ∃ a, x = .ok a := by
  cases x with
  | error e => cases h
  | ok a => exact ⟨a, rfl⟩

/-! ## Tables -/

namespace RuleTable

variable {engine : Engine} {t t' t'' : RuleTable} {source : String} {rule : Rule}

/-- A table becomes another one by adding what an engine compiles. -/
structure Grows (engine : Engine) (t t' : RuleTable) : Prop where
  keeps : ∀ {source finds}, t.get? source = some finds → t'.get? source = some finds
  compiles : ∀ {source finds}, t'.get? source = some finds →
    t.get? source = some finds ∨ engine source = some finds

theorem Grows.refl (engine : Engine) (t : RuleTable) : Grows engine t t where
  keeps h := h
  compiles h := .inl h

theorem Grows.trans (h : Grows engine t t') (h' : Grows engine t' t'') : Grows engine t t'' where
  keeps hs := h'.keeps (h.keeps hs)
  compiles hs := (h'.compiles hs).elim h.compiles .inr

/-- Adding one after the other, if each adding makes a table grow. -/
theorem grows_of_foldlM {α : Type} {f : RuleTable → α → Except GrammarError RuleTable}
    (hf : ∀ t a t', f t a = .ok t' → Grows engine t t') {l : List α} (h : l.foldlM f t = .ok t') :
    Grows engine t t' := by
  induction l generalizing t with
  | nil =>
    obtain rfl : t = t' := Except.ok.inj h
    exact .refl engine t
  | cons a l ih =>
    rw [List.foldlM_cons] at h
    obtain ⟨t₁, hstep, h⟩ := bind_eq_ok_iff.1 h
    exact (hf t a t₁ hstep).trans (ih h)

/-- Each adding of a fold succeeds, on a table that becomes the last one. -/
theorem exists_of_mem_foldlM {α : Type} {f : RuleTable → α → Except GrammarError RuleTable}
    (hf : ∀ t a t', f t a = .ok t' → Grows engine t t') {l : List α} {a : α} (ha : a ∈ l)
    (h : l.foldlM f t = .ok t') : ∃ t₁ t₂, f t₁ a = .ok t₂ ∧ Grows engine t₂ t' := by
  induction l generalizing t with
  | nil => simp at ha
  | cons b l ih =>
    rw [List.foldlM_cons] at h
    obtain ⟨t₁, hstep, hrest⟩ := bind_eq_ok_iff.1 h
    rcases List.mem_cons.1 ha with rfl | ha
    · exact ⟨t, t₁, hstep, grows_of_foldlM hf hrest⟩
    · exact ih ha hrest

theorem get?_append (source' : String) (finds : Searcher) :
    (⟨t.entries ++ [(source', finds)]⟩ : RuleTable).get? source =
      (t.get? source).or (if source = source' then some finds else none) := by
  simp only [get?, List.lookup_append, List.lookup_cons, List.lookup_nil]
  congr 1
  by_cases h : source = source'
  · simp [h]
  · simp [h, beq_eq_false_iff_ne.2 h]

theorem grows_of_add (h : add engine t source = .ok t') :
    Grows engine t t' ∧ (t'.get? source).isSome := by
  unfold add at h
  split at h
  · next hs =>
    obtain rfl : t = t' := Except.ok.inj h
    exact ⟨.refl engine t, hs⟩
  · next hs =>
    split at h
    · next finds hfinds =>
      obtain rfl := Except.ok.inj h
      refine ⟨⟨fun hget ↦ ?_, fun hget ↦ ?_⟩, ?_⟩
      · rw [get?_append, hget, Option.some_or]
      · rw [get?_append, Option.or_eq_some_iff] at hget
        rcases hget with hget | ⟨-, hget⟩
        · exact .inl hget
        · obtain ⟨rfl, rfl⟩ := by simpa using hget
          exact .inr hfinds
      · simp [get?_append]
    · simp at h

theorem addRule_eq_ok (h : addRule engine t rule = .ok t') :
    (∃ s, rule.strategy = .ok s) ∧ rule.regexes.foldlM (add engine) t = .ok t' := by
  obtain ⟨s, hs, h⟩ := bind_eq_ok_iff.1 h
  exact ⟨⟨s, hs⟩, h⟩

theorem grows_of_addRule (h : addRule engine t rule = .ok t') : Grows engine t t' :=
  grows_of_foldlM (fun _ _ _ h ↦ (grows_of_add h).1) (addRule_eq_ok h).2

end RuleTable

/-! ## Expressions that a rule needs -/

namespace Rule

variable {rule : Rule} {s : Strategy} {source : String}

theorem exists_of_block?_eq_some (h : rule.block? = .ok (some s)) :
    ∃ begins ends, rule.beginRegex = some begins ∧ rule.endRegex = some ends ∧
      s = .block begins ends := by
  unfold block? at h
  split at h
  · next begins ends hbegins hends =>
    cases h
    exact ⟨begins, ends, hbegins, hends, rfl⟩
  all_goals simp at h

/-- A rule is applied in a way that it sets, or else as a group. -/
theorem strategy_eq_ok (h : rule.strategy = .ok s) : s = .group ∨
    (∃ source, rule.regex = some source ∧ s = .single source) ∨ rule.block? = .ok (some s) ∨
    ∃ target, rule.target = some target ∧ s = .reference (.ofString target) := by
  obtain ⟨block, hblock, h⟩ := bind_eq_ok_iff.1 h
  dsimp only at h
  split at h
  · next hlist =>
    cases h
    exact .inl rfl
  · next s' hlist =>
    cases h
    have hmem : s ∈ [rule.regex.map .single, block,
        rule.target.map fun target ↦ .reference (.ofString target)].filterMap id := by
      rw [hlist]
      exact List.mem_singleton_self s
    obtain ⟨s?, hs?, hsome⟩ := List.mem_filterMap.1 hmem
    obtain rfl : s? = some s := hsome
    simp only [List.mem_cons, List.not_mem_nil, or_false] at hs?
    rcases hs? with hs | hs | hs
    · obtain ⟨source, hsource, rfl⟩ := Option.map_eq_some_iff.1 hs.symm
      exact .inr (.inl ⟨source, hsource, rfl⟩)
    · exact .inr (.inr (.inl (hs ▸ hblock)))
    · obtain ⟨target, htarget, rfl⟩ := Option.map_eq_some_iff.1 hs.symm
      exact .inr (.inr (.inr ⟨target, htarget, rfl⟩))
  · simp at h

theorem mem_regexes_of_mem_sources (hs : rule.strategy = .ok s) (h : source ∈ s.sources) :
    source ∈ rule.regexes := by
  have hregexes (o : Option String) (ho : o ∈ [rule.regex, rule.beginRegex, rule.endRegex])
      (hsource : o = some source) : source ∈ rule.regexes :=
    List.mem_filterMap.2 ⟨o, ho, hsource⟩
  rcases strategy_eq_ok hs with rfl | ⟨source', hsource, rfl⟩ | hblock | ⟨target, -, rfl⟩
  · simp [Strategy.sources] at h
  · obtain rfl := List.mem_singleton.1 h
    exact hregexes _ (by simp) hsource
  · obtain ⟨begins, ends, hbegins, hends, rfl⟩ := exists_of_block?_eq_some hblock
    simp only [Strategy.sources, List.mem_cons, List.not_mem_nil, or_false] at h
    rcases h with rfl | rfl
    · exact hregexes _ (by simp) hbegins
    · exact hregexes _ (by simp) hends
  · simp [Strategy.sources] at h

end Rule

/-- A rule can be applied with a table: there is one way to do so, and the table has what the engine
makes of the expressions that this takes. -/
def RuleTable.Serves (engine : Engine) (t : RuleTable) (rule : Rule) : Prop :=
  ∃ s, rule.strategy = .ok s ∧
    ∀ source ∈ s.sources, ∃ finds, engine source = some finds ∧ t.get? source = some finds

/-- **A table that compiling makes serves every enabled rule.** -/
theorem RuleTable.serves_of_compile {engine : Engine} {g : Grammar} {t : RuleTable}
    (h : RuleTable.compile engine g = .ok t) {rule : Rule} (hrule : rule ∈ g.enabledRules) :
    t.Serves engine rule := by
  have hgrows := grows_of_foldlM (fun _ _ _ h ↦ grows_of_addRule h) h
  obtain ⟨t₁, t₂, hadd, hgrows₂⟩ :=
    exists_of_mem_foldlM (fun _ _ _ h ↦ grows_of_addRule h) hrule h
  obtain ⟨⟨s, hs⟩, hfold⟩ := addRule_eq_ok hadd
  refine ⟨s, hs, fun source hsource ↦ ?_⟩
  obtain ⟨t₃, t₄, hadd, hgrows₄⟩ := exists_of_mem_foldlM (fun _ _ _ h ↦ (grows_of_add h).1)
    (Rule.mem_regexes_of_mem_sources hs hsource) hfold
  obtain ⟨finds, hfinds⟩ := Option.isSome_iff_exists.1 (grows_of_add hadd).2
  have hget := hgrows₂.keeps (hgrows₄.keeps hfinds)
  -- The first table is empty, so whatever the last one has comes from the engine.
  refine ⟨finds, (hgrows.compiles hget).elim (fun hempty ↦ ?_) id, hget⟩
  simp [get?, empty] at hempty

/-- A fold goes through if each adding does. -/
theorem RuleTable.exists_foldlM_eq_ok {α : Type}
    {f : RuleTable → α → Except GrammarError RuleTable} {l : List α}
    (hf : ∀ a ∈ l, ∀ t, ∃ t', f t a = .ok t') (t : RuleTable) : ∃ t', l.foldlM f t = .ok t' := by
  induction l generalizing t with
  | nil => exact ⟨t, rfl⟩
  | cons a l ih =>
    obtain ⟨t₁, ht₁⟩ := hf a (by simp) t
    obtain ⟨t₂, ht₂⟩ := ih (fun a' ha' ↦ hf a' (List.mem_cons_of_mem a ha')) t₁
    exact ⟨t₂, by rw [List.foldlM_cons, bind_eq_ok_iff]; exact ⟨t₁, ht₁, ht₂⟩⟩

theorem RuleTable.exists_add_eq_ok {engine : Engine} {source : String}
    (h : (engine source).isSome) (t : RuleTable) : ∃ t', add engine t source = .ok t' := by
  obtain ⟨finds, hfinds⟩ := Option.isSome_iff_exists.mp h
  unfold add
  split
  · exact ⟨t, rfl⟩
  · exact ⟨_, by rw [hfinds]⟩

/-- A grammar compiles if each enabled rule is applied in one way and the engine compiles each of
its expressions. -/
theorem RuleTable.exists_compile_eq_ok {engine : Engine} {g : Grammar}
    (hstrategy : ∀ rule ∈ g.enabledRules, rule.strategy.isOk = true)
    (hregexes : ∀ rule ∈ g.enabledRules, ∀ source ∈ rule.regexes, (engine source).isSome) :
    ∃ t, RuleTable.compile engine g = .ok t := by
  refine exists_foldlM_eq_ok (fun rule hrule t ↦ ?_) empty
  obtain ⟨s, hs⟩ := exists_of_isOk (hstrategy rule hrule)
  obtain ⟨t', ht'⟩ := exists_foldlM_eq_ok
    (fun source hsource ↦ exists_add_eq_ok (hregexes rule hrule source hsource)) t
  exact ⟨t', bind_eq_ok_iff.2 ⟨s, hs, ht'⟩⟩

/-! ## The rules that are enabled -/

section Enabled

variable {p q : Pattern} {rule : Rule}

theorem mem_enabledRules {ps : List Pattern} :
    rule ∈ enabledRules ps ↔ ∃ p ∈ ps, rule ∈ p.enabledRules := by
  induction ps with
  | nil => simp [enabledRules]
  | cons p ps ih => simp [enabledRules, ih]

theorem mem_captureRules {captures : List (Nat × Capture Pattern)} :
    rule ∈ captureRules captures ↔
      ∃ q ∈ captures.flatMap (·.2.patterns), rule ∈ q.enabledRules := by
  induction captures with
  | nil => simp [captureRules]
  | cons c captures ih =>
    rw [captureRules, List.mem_append, mem_enabledRules, ih, List.flatMap_cons]
    simp only [List.mem_append, or_and_right, exists_or]

theorem Pattern.mem_enabledRules_iff (hp : p.isDisabled = false) : rule ∈ p.enabledRules ↔
    rule = p.toRule ∨ ∃ q ∈ p.children, rule ∈ q.enabledRules := by
  obtain ⟨rule', patterns, captures, beginCaptures, endCaptures⟩ := p
  dsimp only at hp
  simp only [enabledRules, hp, Bool.false_eq_true, if_false, List.mem_cons, List.mem_append,
    mem_captureRules, mem_enabledRules, children, List.flatMap_append, or_and_right, exists_or]
  rw [or_comm (b := ∃ q, q ∈ patterns ∧ _)]

/-- The walk visits the children of an enabled pattern. -/
theorem Pattern.enabledRules_subset (hp : p.isDisabled = false) (hq : q ∈ p.children) :
    q.enabledRules ⊆ p.enabledRules :=
  fun _ hrule ↦ (mem_enabledRules_iff hp).2 (.inr ⟨q, hq, hrule⟩)

theorem Pattern.rule_mem_enabledRules (hp : p.isDisabled = false) : p.toRule ∈ p.enabledRules :=
  (mem_enabledRules_iff hp).2 (.inl rfl)

theorem Grammar.enabledRules_subset_of_mem {g : Grammar} (hp : p ∈ g.patterns) :
    p.enabledRules ⊆ g.enabledRules :=
  fun _ hrule ↦ mem_enabledRules.2 ⟨p, List.mem_append_left _ hp, hrule⟩

/-- The walk visits whatever a reference stands for. -/
theorem Grammar.enabledRules_subset_of_mem_resolve {g : Grammar} {target : RuleRef}
    (hp : p ∈ g.resolve target) : p.enabledRules ⊆ g.enabledRules := by
  cases target with
  | self => exact enabledRules_subset_of_mem hp
  | external scope => simp [resolve] at hp
  | repository name =>
    have hmem := SortedMap.mem_of_get?_eq_some (Option.mem_toList.1 hp)
    have hmap : p ∈ g.repository.entries.map (·.2) := List.mem_map.2 ⟨(name, p), hmem, rfl⟩
    exact fun _ hrule ↦ mem_enabledRules.2 ⟨p, List.mem_append_right _ hmap, hrule⟩

end Enabled

end Highlighter
