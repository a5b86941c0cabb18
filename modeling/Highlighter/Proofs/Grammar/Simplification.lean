import Highlighter.Proofs.Grammar.Nodes

/-!
# Simpler grammars

Two changes to a list of patterns have no effect. A disabled pattern can be left out, and a plain
group can be replaced by the patterns below it: a group that is enabled and assigns nothing to
capture groups. `PatternsSimplifyTo` says that a list becomes another one by such changes, however
many and however deep, and `Grammar.SimplifiesTo` says so of a grammar and its repository.

That they have no effect is shown twice, because patterns are looked at by two unrelated walks. Here
it is the walk that compiles a grammar: the simpler grammar has the same table or the same fault
(`Grammar.SimplifiesTo.compile_eq`).
-/

namespace Highlighter

/-! ## Simpler patterns -/

/-- A group that does nothing but apply the patterns below it. -/
structure Pattern.IsPlainGroup (p : Pattern) : Prop where
  isDisabled : p.isDisabled = false
  strategy : p.strategy = .ok .group
  captures : p.captures = []
  beginCaptures : p.beginCaptures = []
  endCaptures : p.endCaptures = []

mutual

/-- A pattern becomes another one by changes to the lists of patterns below it. -/
inductive Pattern.SimplifiesTo : Pattern → Pattern → Prop
  | mk {p p' : Pattern} (hrule : p.toRule = p'.toRule)
      (hpatterns : PatternsSimplifyTo p.patterns p'.patterns)
      (hcaptures : TableSimplifiesTo p.captures p'.captures)
      (hbegin : TableSimplifiesTo p.beginCaptures p'.beginCaptures)
      (hend : TableSimplifiesTo p.endCaptures p'.endCaptures) : Pattern.SimplifiesTo p p'

/-- A list of patterns becomes another one by leaving out disabled patterns and replacing plain
groups, here and below. -/
inductive PatternsSimplifyTo : List Pattern → List Pattern → Prop
  | nil : PatternsSimplifyTo [] []
  | cons {p p' : Pattern} {ps ps' : List Pattern} (hp : p.SimplifiesTo p')
      (hps : PatternsSimplifyTo ps ps') : PatternsSimplifyTo (p :: ps) (p' :: ps')
  | drop {p : Pattern} {ps ps' : List Pattern} (hp : p.isDisabled = true)
      (hps : PatternsSimplifyTo ps ps') : PatternsSimplifyTo (p :: ps) ps'
  | splice {p : Pattern} {qs ps ps' : List Pattern} (hp : p.IsPlainGroup)
      (hqs : PatternsSimplifyTo p.patterns qs) (hps : PatternsSimplifyTo ps ps') :
      PatternsSimplifyTo (p :: ps) (qs ++ ps')

/-- A capture table becomes another one by changes to its lists of patterns. -/
inductive TableSimplifiesTo : List (Nat × Capture Pattern) → List (Nat × Capture Pattern) → Prop
  | nil : TableSimplifiesTo [] []
  | cons {group : Nat} {name : Option String} {qs qs' : List Pattern}
      {cs cs' : List (Nat × Capture Pattern)} (hqs : PatternsSimplifyTo qs qs')
      (hcs : TableSimplifiesTo cs cs') :
      TableSimplifiesTo ((group, ⟨name, qs⟩) :: cs) ((group, ⟨name, qs'⟩) :: cs')

end

/-- The entries of a repository become others by changes to the lists of patterns below them, and by
leaving out disabled entries. -/
inductive RulesSimplifyTo : List (String × Pattern) → List (String × Pattern) → Prop
  | nil : RulesSimplifyTo [] []
  | cons {name : String} {p p' : Pattern} {l l' : List (String × Pattern)}
      (hp : p.SimplifiesTo p') (hl : RulesSimplifyTo l l') :
      RulesSimplifyTo ((name, p) :: l) ((name, p') :: l')
  | drop {name : String} {p : Pattern} {l l' : List (String × Pattern)}
      (hp : p.isDisabled = true) (hl : RulesSimplifyTo l l') : RulesSimplifyTo ((name, p) :: l) l'

/-- A grammar becomes another one by changes to its lists of patterns and its repository. -/
structure Grammar.SimplifiesTo (g g' : Grammar) : Prop where
  patterns : PatternsSimplifyTo g.patterns g'.patterns
  rules : RulesSimplifyTo g.repository.entries g'.repository.entries

mutual

theorem Pattern.SimplifiesTo.refl (p : Pattern) : p.SimplifiesTo p := by
  match p with
  | ⟨_, ps, cs, bs, es⟩ =>
    exact .mk rfl (PatternsSimplifyTo.refl ps) (TableSimplifiesTo.refl cs)
      (TableSimplifiesTo.refl bs) (TableSimplifiesTo.refl es)

theorem PatternsSimplifyTo.refl (ps : List Pattern) : PatternsSimplifyTo ps ps := by
  match ps with
  | [] => exact .nil
  | p :: ps => exact .cons (Pattern.SimplifiesTo.refl p) (PatternsSimplifyTo.refl ps)

theorem TableSimplifiesTo.refl (cs : List (Nat × Capture Pattern)) : TableSimplifiesTo cs cs := by
  match cs with
  | [] => exact .nil
  | (_, ⟨_, ps⟩) :: cs => exact .cons (PatternsSimplifyTo.refl ps) (TableSimplifiesTo.refl cs)

end

theorem PatternsSimplifyTo.append {ps ps' qs qs' : List Pattern} (hps : PatternsSimplifyTo ps ps')
    (hqs : PatternsSimplifyTo qs qs') : PatternsSimplifyTo (ps ++ qs) (ps' ++ qs') := by
  match hps with
  | .nil => exact hqs
  | .cons hp hps => exact .cons hp (hps.append hqs)
  | .drop hp hps => exact .drop hp (hps.append hqs)
  | .splice hp hqs' hps =>
    rw [List.append_assoc]
    exact .splice hp hqs' (hps.append hqs)

theorem TableSimplifiesTo.append_left {cs cs' : List (Nat × Capture Pattern)}
    (h : TableSimplifiesTo cs cs') (before : List (Nat × Capture Pattern)) :
    TableSimplifiesTo (before ++ cs) (before ++ cs') := by
  induction before with
  | nil => exact h
  | cons c before ih => exact .cons (.refl c.2.patterns) ih

/-! ## The repository of a simpler grammar -/

namespace RulesSimplifyTo

variable {l l' : List (String × Pattern)} {name : String}

theorem refl (l : List (String × Pattern)) : RulesSimplifyTo l l := by
  induction l with
  | nil => exact .nil
  | cons e l ih => exact .cons (.refl e.2) ih

theorem append_left (h : RulesSimplifyTo l l') (before : List (String × Pattern)) :
    RulesSimplifyTo (before ++ l) (before ++ l') := by
  induction before with
  | nil => exact h
  | cons e before ih => exact .cons (.refl e.2) ih

theorem map_snd (h : RulesSimplifyTo l l') :
    PatternsSimplifyTo (l.map (·.2)) (l'.map (·.2)) := by
  induction h with
  | nil => exact .nil
  | cons hp _ ih => exact .cons hp ih
  | drop hp _ ih => exact .drop hp ih

theorem lookup_eq_none (h : RulesSimplifyTo l l') (hl : l.lookup name = none) :
    l'.lookup name = none := by
  induction h with
  | nil => rfl
  | @cons name' p p' l l' _ _ ih =>
    rw [List.lookup_cons] at hl ⊢
    split at hl
    · cases hl
    · exact ih hl
  | @drop name' p l l' _ _ ih =>
    rw [List.lookup_cons] at hl
    split at hl
    · cases hl
    · exact ih hl

/-- What is found under a name becomes what is found under it afterwards. It is nothing if the entry
was left out, because there is no second entry of the name. -/
theorem lookup (h : RulesSimplifyTo l l') (hl : l.Pairwise (·.1 < ·.1)) (name : String) :
    PatternsSimplifyTo (l.lookup name).toList (l'.lookup name).toList := by
  induction h with
  | nil => exact .nil
  | @cons name' p p' l l' hp _ ih =>
    rw [List.lookup_cons, List.lookup_cons]
    split
    · exact .cons hp .nil
    · exact ih (List.pairwise_cons.mp hl).2
  | @drop name' p l l' hp hl' ih =>
    obtain ⟨hfirst, hrest⟩ := List.pairwise_cons.mp hl
    rw [List.lookup_cons]
    split
    · next heq =>
      obtain rfl : name = name' := eq_of_beq heq
      have hnone : l.lookup name = none := by
        refine List.lookup_eq_none_iff.mpr fun e he ↦ ?_
        exact bne_iff_ne.mpr fun heq ↦ absurd (hfirst e he) (heq ▸ String.lt_irrefl _)
      rw [hl'.lookup_eq_none hnone]
      exact .drop hp .nil
    · exact ih hrest

end RulesSimplifyTo

/-- What a reference stands for becomes what it stands for afterwards. -/
theorem Grammar.SimplifiesTo.resolve {g g' : Grammar} (h : g.SimplifiesTo g')
    (target : RuleRef) : PatternsSimplifyTo (g.resolve target) (g'.resolve target) := by
  cases target with
  | repository name => exact h.rules.lookup g.repository.ascending name
  | self => exact h.patterns
  | external scope => exact .nil

/-! ## The table of a simpler grammar -/

theorem Rule.regexes_eq_nil_of_group {r : Rule} (h : r.strategy = .ok .group) : r.regexes = [] := by
  obtain ⟨_, _, regex, beginRegex, endRegex, target, _, _⟩ := r
  cases beginRegex <;> cases endRegex <;> cases regex <;> cases target <;>
    simp [strategy, block?, regexes, bind, Except.bind] at h ⊢

/-- The rule of a group adds nothing to a table. -/
theorem RuleTable.addRule_of_group {engine : Engine} {t : RuleTable} {r : Rule}
    (h : r.strategy = .ok .group) : addRule engine t r = .ok t := by
  rw [addRule, h, Rule.regexes_eq_nil_of_group h]
  rfl

theorem RuleTable.foldlM_addRule_filter (engine : Engine) (t : RuleTable) (rules : List Rule) :
    (rules.filter (·.strategy ≠ .ok .group)).foldlM (addRule engine) t =
      rules.foldlM (addRule engine) t := by
  rw [List.foldlM_filter]
  congr 1
  funext t r
  split
  · rfl
  · next h => exact (addRule_of_group (by simpa using h)).symm

theorem Pattern.enabledRules_eq_append {p : Pattern} (hp : p.isDisabled = false) :
    p.enabledRules = p.toRule :: (captureRules p.captures ++ captureRules p.beginCaptures ++
      captureRules p.endCaptures ++ Highlighter.enabledRules p.patterns) := by
  obtain ⟨rule, ps, cs, bs, es⟩ := p
  rw [Pattern.enabledRules, if_neg (by simpa using hp)]

theorem Pattern.IsPlainGroup.enabledRules_eq {p : Pattern} (h : p.IsPlainGroup) :
    p.enabledRules = p.toRule :: Highlighter.enabledRules p.patterns := by
  rw [enabledRules_eq_append h.isDisabled, h.captures, h.beginCaptures, h.endCaptures]
  simp only [captureRules, List.nil_append]

mutual

/-- Patterns that become others by changes without effect have the same enabled rules, apart from
groups. -/
theorem Pattern.SimplifiesTo.filter_enabledRules {f : Rule → Bool}
    (hf : ∀ r : Rule, r.strategy = .ok .group → f r = false) {p p' : Pattern}
    (h : p.SimplifiesTo p') : p.enabledRules.filter f = p'.enabledRules.filter f := by
  match h with
  | .mk hrule hpatterns hcaptures hbegin hend =>
    by_cases hp : p.isDisabled
    · rw [Pattern.enabledRules_of_isDisabled hp, Pattern.enabledRules_of_isDisabled (hrule ▸ hp)]
    · rw [Bool.not_eq_true] at hp
      rw [Pattern.enabledRules_eq_append hp, Pattern.enabledRules_eq_append (hrule ▸ hp), hrule]
      simp only [List.filter_cons, List.filter_append, hpatterns.filter_enabledRules hf,
        hcaptures.filter_captureRules hf, hbegin.filter_captureRules hf,
        hend.filter_captureRules hf]

theorem PatternsSimplifyTo.filter_enabledRules {f : Rule → Bool}
    (hf : ∀ r : Rule, r.strategy = .ok .group → f r = false) {ps ps' : List Pattern}
    (h : PatternsSimplifyTo ps ps') : (enabledRules ps).filter f = (enabledRules ps').filter f := by
  match h with
  | .nil => rfl
  | .cons hp hps =>
    simp only [enabledRules, List.filter_append, hp.filter_enabledRules hf,
      hps.filter_enabledRules hf]
  | .drop hp hps =>
    rw [enabledRules, Pattern.enabledRules_of_isDisabled hp, List.nil_append,
      hps.filter_enabledRules hf]
  | .splice hp hqs hps =>
    rw [enabledRules, hp.enabledRules_eq, List.cons_append,
      List.filter_cons_of_neg (by simp [hf _ hp.strategy]), List.filter_append,
      hqs.filter_enabledRules hf, hps.filter_enabledRules hf, enabledRules_eq_flatMap,
      enabledRules_eq_flatMap, enabledRules_eq_flatMap, List.flatMap_append, List.filter_append]

theorem TableSimplifiesTo.filter_captureRules {f : Rule → Bool}
    (hf : ∀ r : Rule, r.strategy = .ok .group → f r = false)
    {cs cs' : List (Nat × Capture Pattern)} (h : TableSimplifiesTo cs cs') :
    (captureRules cs).filter f = (captureRules cs').filter f := by
  match h with
  | .nil => rfl
  | .cons hqs hcs =>
    simp only [captureRules, List.filter_append, hqs.filter_enabledRules hf,
      hcs.filter_captureRules hf]

end

/-- **A simpler grammar compiles to the same table,** or fails with the same fault. -/
theorem Grammar.SimplifiesTo.compile_eq {g g' : Grammar} (h : g.SimplifiesTo g')
    (engine : Engine) : RuleTable.compile engine g = RuleTable.compile engine g' := by
  have hwalk := h.patterns.append h.rules.map_snd
  rw [RuleTable.compile, RuleTable.compile, ← RuleTable.foldlM_addRule_filter engine _
    g.enabledRules, ← RuleTable.foldlM_addRule_filter engine _ g'.enabledRules,
    Grammar.enabledRules, Grammar.enabledRules,
    hwalk.filter_enabledRules fun r hr ↦ by simp [hr]]

end Highlighter
