import Highlighter.Proofs.Grammar.Sorted
import Highlighter.Proofs.Tokenize.Calls

/-!
# The first fault of a grammar

A rule is at fault if it cannot be applied in one way, or else if one of its expressions does not
compile. A grammar compiles if none of its enabled rules is at fault, and fails with the fault of
the first one that is (`RuleTable.compile_eq_error_iff`). An expression that the table has already
is not compiled again. That hides no fault, because the table has only what compiles.

`RuleTable.Adds` says of a way to add items to a table which faults it finds and which sources it
adds. It is passed on from one item to a list of items, so it is shown for one source text and holds
of rules and of grammars.
-/

namespace Highlighter

/-! ## Faults -/

/-- In a list in order, what is found first is what is found at the least place. -/
theorem findSome?_eq_some_iff_of_pairwise {α β : Type} {R : α → α → Prop} [Std.Asymm R]
    {l : List α} {f : α → Option β} {b : β} (h : l.Pairwise R) : l.findSome? f = some b ↔
      ∃ a ∈ l, f a = some b ∧ ∀ a' ∈ l, R a' a → f a' = none := by
  rw [List.findSome?_eq_some_iff]
  constructor
  · rintro ⟨front, a, back, rfl, ha, hfront⟩
    have hback := (List.pairwise_cons.mp (List.pairwise_append.mp h).2.1).1
    refine ⟨a, by simp, ha, fun a' ha' hlt ↦ ?_⟩
    rcases List.mem_append.mp ha' with ha' | ha'
    · exact hfront a' ha'
    · rcases List.mem_cons.mp ha' with rfl | ha'
      · exact absurd hlt (Std.Irrefl.irrefl a')
      · exact absurd hlt (Std.Asymm.asymm _ _ (hback a' ha'))
  · rintro ⟨a, ha, hb, hbefore⟩
    obtain ⟨front, back, rfl⟩ := List.append_of_mem ha
    refine ⟨front, a, back, rfl, hb, fun a' ha' ↦ ?_⟩
    exact hbefore a' (List.mem_append_left _ ha')
      ((List.pairwise_append.mp h).2.2 a' ha' a List.mem_cons_self)

/-- What is wrong with a source text, if it does not compile. -/
def Engine.fault? (engine : Engine) (source : String) : Option GrammarError :=
  if (engine source).isSome then none else some (.invalidRegex source)

/-- What is wrong with a rule: how it is applied, or else the first of its expressions that does not
compile. -/
def Rule.fault? (engine : Engine) (r : Rule) : Option GrammarError :=
  match r.strategy with
  | .error e => some e
  | .ok _ => r.regexes.findSome? engine.fault?

theorem Engine.fault?_eq_none_iff {engine : Engine} {source : String} :
    engine.fault? source = none ↔ (engine source).isSome := by
  simp [fault?, Option.isSome_iff_ne_none]

theorem Engine.fault?_eq_some_iff {engine : Engine} {source : String} {e : GrammarError} :
    engine.fault? source = some e ↔ engine source = none ∧ e = .invalidRegex source := by
  cases h : engine source <;> simp [fault?, h, eq_comm]

theorem Rule.fault?_eq_none_iff {engine : Engine} {r : Rule} : r.fault? engine = none ↔
    (∃ s, r.strategy = .ok s) ∧ ∀ source ∈ r.regexes, (engine source).isSome := by
  unfold fault?
  split
  · next e he => simp [he]
  · next s hs => simp [hs, Engine.fault?_eq_none_iff]

/-! ## Tables -/

namespace RuleTable

variable {engine : Engine} {t : RuleTable} {P P' : String → Prop} {source : String}

/-- A table has some source texts and no others, each of them once and as the engine compiles it. -/
structure IsTableOf (engine : Engine) (P : String → Prop) (t : RuleTable) : Prop where
  nodup : (t.entries.map (·.1)).Nodup
  mem_iff : ∀ source, source ∈ t.entries.map (·.1) ↔ P source
  get?_eq : ∀ source, P source → t.get? source = engine source

theorem mem_keys_iff : source ∈ t.entries.map (·.1) ↔ (t.get? source).isSome := by
  rw [← not_iff_not, get?, Option.not_isSome_iff_eq_none, List.lookup_eq_none_iff]
  simp only [List.mem_map, not_exists, not_and, bne_iff_ne]
  exact ⟨fun h e he ↦ Ne.symm (h e he), fun h e he ↦ Ne.symm (h e he)⟩

theorem isTableOf_empty (engine : Engine) : empty.IsTableOf engine fun _ ↦ False where
  nodup := .nil
  mem_iff := by simp [empty]
  get?_eq := fun _ h ↦ h.elim

theorem IsTableOf.congr (h : t.IsTableOf engine P) (hP : ∀ source, P source ↔ P' source) :
    t.IsTableOf engine P' where
  nodup := h.nodup
  mem_iff := fun source ↦ (h.mem_iff source).trans (hP source)
  get?_eq := fun source hsource ↦ h.get?_eq source ((hP source).mpr hsource)

/-- What a table has is told by `P`. -/
theorem IsTableOf.isSome_iff (h : t.IsTableOf engine P) : (t.get? source).isSome ↔ P source :=
  mem_keys_iff.symm.trans (h.mem_iff source)

/-- A source text that compiles and is not in the table can be put behind what it has. -/
theorem IsTableOf.append {finds : Searcher} (h : t.IsTableOf engine P) (hP : ¬P source)
    (hfinds : engine source = some finds) :
    IsTableOf engine (fun source' ↦ P source' ∨ source' = source)
      ⟨t.entries ++ [(source, finds)]⟩ where
  nodup := by
    rw [List.map_append, List.nodup_append]
    refine ⟨h.nodup, List.pairwise_singleton _ source, fun source' hsource' source'' hsource'' ↦ ?_⟩
    obtain rfl := List.mem_singleton.mp hsource''
    rintro rfl
    exact hP ((h.mem_iff _).mp hsource')
  mem_iff := by
    intro source'
    rw [List.map_append, List.mem_append, h.mem_iff]
    exact or_congr_right List.mem_singleton
  get?_eq := by
    intro source' hsource'
    rw [get?_append]
    by_cases hP' : P source'
    · rw [h.get?_eq source' hP', Option.or_of_isSome]
      exact h.get?_eq source' hP' ▸ h.isSome_iff.mpr hP'
    · obtain rfl := hsource'.resolve_left hP'
      rw [if_pos rfl, hfinds, Option.not_isSome_iff_eq_none.mp (mt h.isSome_iff.mp hP'),
        Option.none_or]

/-! ## Adding to a table -/

/-- What a way to add items to a table does: it finds the fault of an item, and adds the sources of
an item without a fault. -/
structure Adds (engine : Engine) {α : Type} (f : RuleTable → α → Except GrammarError RuleTable)
    (fault? : α → Option GrammarError) (sources : α → List String) : Prop where
  ok : ∀ {P t a}, t.IsTableOf engine P → fault? a = none →
    ∃ t', f t a = .ok t' ∧ t'.IsTableOf engine fun source ↦ P source ∨ source ∈ sources a
  error : ∀ {P t a e}, t.IsTableOf engine P → fault? a = some e → f t a = .error e

theorem adds_add (engine : Engine) :
    Adds engine (add engine) engine.fault? fun source ↦ [source] where
  ok := by
    intro P t source h hfault
    obtain ⟨finds, hfinds⟩ := Option.isSome_iff_exists.mp (Engine.fault?_eq_none_iff.mp hfault)
    simp only [List.mem_singleton]
    by_cases hP : P source
    · refine ⟨t, if_pos (h.isSome_iff.mpr hP), h.congr fun source' ↦ ?_⟩
      exact (or_iff_left_of_imp fun heq ↦ heq ▸ hP).symm
    · refine ⟨_, ?_, h.append hP hfinds⟩
      rw [add, if_neg (mt h.isSome_iff.mp hP), hfinds]
  error := by
    intro P t source e h hfault
    obtain ⟨hnone, rfl⟩ := Engine.fault?_eq_some_iff.mp hfault
    -- The table has only what compiles.
    have hP : ¬P source := fun hP ↦ by
      have hsome := h.isSome_iff.mpr hP
      rw [h.get?_eq source hP, hnone] at hsome
      cases hsome
    rw [add, if_neg (mt h.isSome_iff.mp hP), hnone]

/-- **Adding one after the other** finds the first fault. -/
theorem Adds.foldlM {α : Type} {f : RuleTable → α → Except GrammarError RuleTable}
    {fault? : α → Option GrammarError} {sources : α → List String}
    (h : Adds engine f fault? sources) :
    Adds engine (fun t l ↦ l.foldlM f t) (List.findSome? fault?) (List.flatMap sources) where
  ok := by
    intro P t l ht hfault
    induction l generalizing P t with
    | nil => exact ⟨t, rfl, ht.congr fun source ↦ by simp⟩
    | cons a l ih =>
      have hnone := List.findSome?_eq_none_iff.mp hfault
      obtain ⟨t₁, hstep, ht₁⟩ := h.ok ht (hnone a List.mem_cons_self)
      obtain ⟨t₂, hfold, ht₂⟩ := ih ht₁
        (List.findSome?_eq_none_iff.mpr fun b hb ↦ hnone b (List.mem_cons_of_mem a hb))
      refine ⟨t₂, bind_eq_ok_iff.mpr ⟨t₁, hstep, hfold⟩, ht₂.congr fun source ↦ ?_⟩
      rw [List.flatMap_cons, List.mem_append, or_assoc]
  error := by
    intro P t l e ht hfault
    induction l generalizing P t with
    | nil => cases hfault
    | cons a l ih =>
      rw [List.foldlM_cons]
      rw [List.findSome?_cons] at hfault
      cases ha : fault? a with
      | some e' =>
        rw [ha] at hfault
        rw [h.error ht ha, Option.some.inj hfault]
        rfl
      | none =>
        rw [ha] at hfault
        obtain ⟨t₁, hstep, ht₁⟩ := h.ok ht ha
        rw [hstep]
        exact ih ht₁ hfault

theorem adds_addRule (engine : Engine) :
    Adds engine (addRule engine) (Rule.fault? engine) Rule.regexes where
  ok := by
    intro P t rule h hfault
    obtain ⟨⟨s, hs⟩, hregexes⟩ := Rule.fault?_eq_none_iff.mp hfault
    obtain ⟨t', hfold, ht'⟩ := (adds_add engine).foldlM.ok h
      (List.findSome?_eq_none_iff.mpr fun source hsource ↦
        Engine.fault?_eq_none_iff.mpr (hregexes source hsource))
    exact ⟨t', bind_eq_ok_iff.mpr ⟨s, hs, hfold⟩, by simpa using ht'⟩
  error := by
    intro P t rule e h hfault
    unfold Rule.fault? at hfault
    unfold addRule
    split at hfault
    · next e' he =>
      rw [he, Option.some.inj hfault]
      rfl
    · next s hs =>
      rw [hs]
      exact (adds_add engine).foldlM.error h hfault

/-! ## Compiling a grammar -/

variable {g : Grammar} {e : GrammarError}

/-- A grammar fails to compile with the fault that comes first in the walk. -/
theorem compile_eq_error_iff : compile engine g = .error e ↔
    g.nodes.findSome? (fun n ↦ n.2.fault? engine) = some e := by
  have hrules : g.nodes.findSome? (fun n ↦ n.2.fault? engine) =
      g.enabledRules.findSome? (Rule.fault? engine) := by
    rw [← g.map_nodes, List.findSome?_map]
    rfl
  rw [hrules]
  cases hfault : g.enabledRules.findSome? (Rule.fault? engine) with
  | some e' =>
    have hcompile : compile engine g = .error e' :=
      (adds_addRule engine).foldlM.error (isTableOf_empty engine) hfault
    simp [hcompile]
  | none =>
    obtain ⟨t, hcompile, -⟩ := (adds_addRule engine).foldlM.ok (isTableOf_empty engine) hfault
    have hcompile : compile engine g = .ok t := hcompile
    simp [hcompile]

theorem exists_compile_eq_ok_iff : (∃ t, compile engine g = .ok t) ↔
    ∀ a p, g.HasNode a p → p.fault? engine = none := by
  have hnodes : g.nodes.findSome? (fun n ↦ n.2.fault? engine) = none ↔
      ∀ a p, g.HasNode a p → p.fault? engine = none := by
    simp [Grammar.mem_nodes]
  rw [← hnodes, Option.eq_none_iff_forall_ne_some]
  simp only [ne_eq, ← compile_eq_error_iff]
  cases compile engine g with
  | ok t => simp
  | error e => simp

/-- The table of a grammar has the expressions of the enabled patterns. -/
theorem isTableOf_of_compile (h : compile engine g = .ok t) :
    t.IsTableOf engine fun source ↦ ∃ a p, g.HasNode a p ∧ source ∈ p.regexes := by
  have hfault : g.enabledRules.findSome? (Rule.fault? engine) = none := by
    rw [← g.map_nodes, List.findSome?_map, List.findSome?_eq_none_iff]
    intro n hn
    exact exists_compile_eq_ok_iff.mp ⟨t, h⟩ n.1 n.2 (Grammar.mem_nodes.mp hn)
  obtain ⟨t', hcompile, ht'⟩ := (adds_addRule engine).foldlM.ok (isTableOf_empty engine) hfault
  obtain rfl : t = t' := Except.ok.inj (h.symm.trans hcompile)
  refine ht'.congr fun source ↦ ?_
  simp only [← g.map_nodes, List.flatMap_map, List.mem_flatMap, Prod.exists, Grammar.mem_nodes,
    false_or]

end RuleTable

/-- **Compiling finds the first fault.** A grammar compiles exactly if every enabled pattern can be
applied in one way and has only expressions that compile. The table then has the expressions of the
enabled patterns, each once and as it is compiled. Otherwise the error is the fault of an enabled
pattern, and no pattern at an address before it is at fault. -/
theorem RuleTable.compile_finds_first_fault (engine : Engine) (g : Grammar) :
    ((∃ t, compile engine g = .ok t) ↔ ∀ a p, g.HasNode a p →
      (∃ s, p.strategy = .ok s) ∧ ∀ source ∈ p.regexes, (engine source).isSome) ∧
    (∀ t, compile engine g = .ok t →
      t.IsTableOf engine fun source ↦ ∃ a p, g.HasNode a p ∧ source ∈ p.regexes) ∧
    (g.IsSorted → ∀ e, compile engine g = .error e ↔
      ∃ a p, g.HasNode a p ∧ p.fault? engine = some e ∧
        ∀ a' p', g.HasNode a' p' → a' < a → p'.fault? engine = none) := by
  refine ⟨?_, fun t ht ↦ isTableOf_of_compile ht, fun hsorted e ↦ ?_⟩
  · simp only [exists_compile_eq_ok_iff, Rule.fault?_eq_none_iff]
  · have hasymm : Std.Asymm fun n n' : Address × Pattern ↦ n.1 < n'.1 :=
      ⟨fun n n' ↦ Std.Asymm.asymm (r := (· < ·)) n.1 n'.1⟩
    rw [compile_eq_error_iff, findSome?_eq_some_iff_of_pairwise hsorted.pairwise_nodes]
    simp only [Prod.exists, Prod.forall, Grammar.mem_nodes]

/-- A grammar with faults in the repository, below a rule that is off, and below a capture of the
rule that comes next. -/
def faultyGrammar : Grammar :=
  ((Grammar.new "source.test").withRule "a" (.single ")"))
    |>.withPattern ((Pattern.single "x").withPatterns [.single "("]).disabled
    |>.withPattern (((Pattern.single "x").withPatterns [.single "*"]).withCapture 1
      { patterns := [.single "x", .group [.single "["]] })

theorem isBuilt_faultyGrammar : faultyGrammar.IsBuilt := by
  refine .withPattern (.withPattern (.withRule (.new _) _ (.single _)) ?_) ?_
  · exact .disabled (.withPatterns (.single _) (List.forall_mem_singleton.mpr (.single _)))
  · refine .withCapture (.withPatterns (.single _) (List.forall_mem_singleton.mpr (.single _)))
      (by decide) ?_
    refine List.forall_mem_cons.mpr ⟨.single _, List.forall_mem_singleton.mpr (.group ?_)⟩
    exact List.forall_mem_singleton.mpr (.single _)

theorem RuleTable.compile_faultyGrammar : faultyGrammar.IsSorted ∧
    compile letterEngine faultyGrammar = .error (.invalidRegex "[") ∧
    faultyGrammar.HasNode ⟨.pattern 1, [.captures 1 1, .patterns 0]⟩ (.single "[") ∧
    ∃ a p, faultyGrammar.HasNode a p ∧ p.fault? letterEngine = some (.invalidRegex "[") ∧
      ∀ a' p', faultyGrammar.HasNode a' p' → a' < a → p'.fault? letterEngine = none := by
  have hsorted := isBuilt_faultyGrammar.isSorted
  have hcompile : compile letterEngine faultyGrammar = .error (.invalidRegex "[") := rfl
  have hnode : Pattern.HasNode (.group [.single "["]) [.patterns 0] (.single "[") :=
    .branch rfl (.patterns rfl) (.here rfl)
  refine ⟨hsorted, hcompile, ?_, ?_⟩
  · exact .pattern rfl (.branch rfl (.captures List.mem_cons_self rfl) hnode)
  · exact ((compile_finds_first_fault letterEngine faultyGrammar).2.2 hsorted _).mp hcompile

end Highlighter
