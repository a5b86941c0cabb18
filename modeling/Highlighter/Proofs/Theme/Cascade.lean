import Highlighter.Proofs.Theme.Ranks
import Mathlib.Data.List.Forall2
import Mathlib.Data.List.Induction

/-!
# The cascade of a theme

How specifically a selector matches does not depend on the scope: it is the number of segments that
the selector names (`Selector.specificity_eq_some_iff`). So the rules of a theme have an order of
their own, in which the most specific ones come first and, among equals, the later ones. The style
of the best match is that of the first match in this order, and the rule that it comes from is the
one with the greatest weight and, among equals, the greatest place.

A stable sort puts one more rule behind exactly those of greater weight. So both sides are followed
while rules are added at the end of the theme (`foldl_better_eq_head?`).
-/

namespace Highlighter

/-! ## Selectors -/

namespace Selector

/-- The number of segments that a selector names. -/
def weight (s : Selector) : Nat := s.segments.countP (· ≠ "*")

/-- Whether a scope begins with the segments of a selector, where `*` stands for any segment. -/
def Matches (s : Selector) (scope : List String) : Prop :=
  ∃ front back, scope = front ++ back ∧
    List.Forall₂ (fun segment part ↦ segment = "*" ∨ segment = part) s.segments front

variable {s : Selector} {scope : List String} {n : Nat}

theorem matches_nil : Matches ⟨[]⟩ scope := ⟨[], scope, rfl, .nil⟩

theorem not_matches_cons_nil {segment : String} {segments : List String} :
    ¬Matches ⟨segment :: segments⟩ [] := by
  rintro ⟨front, back, hscope, hfront⟩
  obtain ⟨rfl, -⟩ := List.append_eq_nil_iff.mp hscope.symm
  cases hfront

theorem matches_cons_cons {segment part : String} {segments parts : List String} :
    Matches ⟨segment :: segments⟩ (part :: parts) ↔
      (segment = "*" ∨ segment = part) ∧ Matches ⟨segments⟩ parts := by
  constructor
  · rintro ⟨front, back, hscope, hfront⟩
    obtain ⟨part', front', hpart, hfront', rfl⟩ := List.forall₂_cons_left_iff.mp hfront
    obtain ⟨rfl, rfl⟩ := List.cons.inj hscope
    exact ⟨hpart, front', back, rfl, hfront'⟩
  · rintro ⟨hpart, front, back, rfl, hfront⟩
    exact ⟨part :: front, back, rfl, .cons hpart hfront⟩

/-- **A selector matches with its weight**, if it does. -/
theorem specificity_eq_some_iff :
    s.specificity scope = some n ↔ s.Matches scope ∧ n = s.weight := by
  obtain ⟨segments⟩ := s
  simp only [specificity, weight]
  fun_induction specificityOf segments scope generalizing n with
  | case1 scope => simp [matches_nil, eq_comm (a := 0)]
  | case2 segment segments => simp [not_matches_cons_nil]
  | case3 segments part parts ih => simp [matches_cons_cons, ih]
  | case4 segments segment parts hwild ih =>
    have hcount : (segment :: segments).countP (· ≠ "*") = segments.countP (· ≠ "*") + 1 :=
      List.countP_cons_of_pos (by simpa using hwild)
    rw [hcount, matches_cons_cons, Option.map_eq_some_iff]
    constructor
    · rintro ⟨n, hn, rfl⟩
      obtain ⟨hmatches, rfl⟩ := ih.mp hn
      exact ⟨⟨.inr rfl, hmatches⟩, rfl⟩
    · rintro ⟨⟨-, hmatches⟩, rfl⟩
      exact ⟨_, ih.mpr ⟨hmatches, rfl⟩, rfl⟩
  | case5 segment segments part parts hwild hne => simp [matches_cons_cons, hwild, hne]

instance (s : Selector) (scope : List String) : Decidable (s.Matches scope) :=
  decidable_of_iff ((s.specificity scope).isSome) <| by
    simp [Option.isSome_iff_exists, specificity_eq_some_iff]

theorem specificity_eq_ite (s : Selector) (scope : List String) :
    s.specificity scope = if s.Matches scope then some s.weight else none := by
  split
  · next h => exact specificity_eq_some_iff.mpr ⟨h, rfl⟩
  · next h =>
    exact Option.eq_none_iff_forall_ne_some.mpr fun n hn ↦ h (specificity_eq_some_iff.mp hn).1

end Selector

/-! ## Rules by weight -/

/-- The style that a rule assigns to what it matches. -/
def ThemeRule.resolved (r : ThemeRule) : Resolved := ⟨r.style, r.selector.weight⟩

/-- Rules in descending order of weight, those of equal weight in reverse order. -/
def rulesByWeight (rs : List ThemeRule) : List ThemeRule :=
  rs.reverse.mergeSort fun r r' ↦ r'.selector.weight ≤ r.selector.weight

section ByWeight

variable {p : ThemeRule → Bool} {rs : List ThemeRule} {r : ThemeRule}

theorem mem_rulesByWeight : r ∈ rulesByWeight rs ↔ r ∈ rs := by
  rw [rulesByWeight, List.mem_mergeSort, List.mem_reverse]

/-- A rule that is added at the end comes right behind the rules of greater weight. -/
theorem exists_rulesByWeight_append (rs : List ThemeRule) (r : ThemeRule) :
    ∃ front back, rulesByWeight rs = front ++ back ∧
      rulesByWeight (rs ++ [r]) = front ++ r :: back ∧
      (∀ r' ∈ front, r.selector.weight < r'.selector.weight) ∧
      ∀ r' ∈ back, r'.selector.weight ≤ r.selector.weight := by
  let le (r r' : ThemeRule) : Bool := r'.selector.weight ≤ r.selector.weight
  have htrans : ∀ a b c, le a b → le b c → le a c := by
    intro a b c hab hbc
    simp only [le, decide_eq_true_eq] at *
    exact Nat.le_trans hbc hab
  have htotal : ∀ a b, le a b || le b a := by
    intro a b
    simp only [le, Bool.or_eq_true, decide_eq_true_eq]
    exact Nat.le_total _ _
  obtain ⟨front, back, hsort, hsort', hfront⟩ := List.mergeSort_cons htrans htotal r rs.reverse
  have hsorted := List.pairwise_mergeSort htrans htotal (r :: rs.reverse)
  rw [hsort] at hsorted
  refine ⟨front, back, hsort', ?_, fun r' hr' ↦ ?_, fun r' hr' ↦ ?_⟩
  · rw [rulesByWeight, List.reverse_append, List.reverse_singleton, List.singleton_append, hsort]
  · simpa [le] using hfront r' hr'
  · have hback := (List.pairwise_cons.mp (List.pairwise_append.mp hsorted).2.1).1 r' hr'
    simpa [le] using hback

theorem better_resolved_of_lt {best : ThemeRule} (h : r.selector.weight < best.selector.weight) :
    Theme.better (some best.resolved) r.resolved = some best.resolved := by
  have hlt : ¬best.resolved.specificity ≤ r.resolved.specificity :=
    Int.not_le.mpr (Int.ofNat_lt.mpr h)
  rw [Theme.better, if_neg hlt]

theorem better_resolved_of_le {best : ThemeRule} (h : best.selector.weight ≤ r.selector.weight) :
    Theme.better (some best.resolved) r.resolved = some r.resolved := by
  have hle : best.resolved.specificity ≤ r.resolved.specificity := Int.ofNat_le.mpr h
  rw [Theme.better, if_pos hle]

/-- **The best of some rules is the first one by weight.** -/
theorem foldl_better_eq_head? (p : ThemeRule → Bool) (rs : List ThemeRule) :
    ((rs.filter p).map ThemeRule.resolved).foldl Theme.better none =
      (((rulesByWeight rs).filter p).map ThemeRule.resolved).head? := by
  induction rs using List.reverseRecOn with
  | nil => simp [rulesByWeight]
  | append_singleton rs r ih =>
    obtain ⟨front, back, hsort, hsort', hfront, hback⟩ := exists_rulesByWeight_append rs r
    rw [hsort] at ih
    rw [hsort', List.filter_append, List.map_append, List.foldl_append, ih, List.filter_append,
      List.filter_append]
    by_cases hr : p r
    · simp only [List.filter_cons_of_pos hr, List.filter_nil]
      -- A rule of greater weight stays the best one. Otherwise the rule that is added is the best.
      cases hf : front.filter p with
      | cons best front' =>
        have hbest : best ∈ front.filter p := by simp [hf]
        exact better_resolved_of_lt (hfront best (List.mem_of_mem_filter hbest))
      | nil =>
        cases hb : back.filter p with
        | nil => rfl
        | cons best back' =>
          have hbest : best ∈ back.filter p := by simp [hb]
          exact better_resolved_of_le (hback best (List.mem_of_mem_filter hbest))
    · simp only [List.filter_cons_of_neg hr, List.filter_nil]
      rfl

/-- Whether a rule is the one of greatest weight among those that have a property, and the last of
these. -/
structure IsHeaviest (p : ThemeRule → Bool) (rs : List ThemeRule) (place : Nat) (r : ThemeRule) :
    Prop where
  getElem? : rs[place]? = some r
  holds : p r
  heaviest : ∀ place' r', rs[place']? = some r' → p r' →
    r'.selector.weight < r.selector.weight ∨
      r'.selector.weight = r.selector.weight ∧ place' ≤ place

theorem getElem?_append_singleton_cases {place : Nat} {r' : ThemeRule}
    (h : (rs ++ [r])[place]? = some r') : rs[place]? = some r' ∨ place = rs.length ∧ r = r' := by
  rcases Nat.lt_or_ge place rs.length with hlt | hge
  · rw [List.getElem?_append_left hlt] at h
    exact .inl h
  · rw [List.getElem?_append_right hge, List.getElem?_singleton] at h
    split at h
    · next hplace => exact .inr ⟨by omega, Option.some.inj h⟩
    · cases h

theorem isHeaviest_append_self (hr : p r)
    (h : ∀ r' ∈ rs, p r' → r'.selector.weight ≤ r.selector.weight) :
    IsHeaviest p (rs ++ [r]) rs.length r where
  getElem? := List.getElem?_concat_length
  holds := hr
  heaviest := by
    intro place' r' hget hr'
    rcases getElem?_append_singleton_cases hget with hget | ⟨rfl, rfl⟩
    · have hlt := (List.getElem?_eq_some_iff.mp hget).1
      have hle := h r' (List.mem_of_getElem? hget) hr'
      omega
    · exact .inr ⟨rfl, Nat.le_refl _⟩

theorem IsHeaviest.append {place : Nat} {best : ThemeRule} (h : IsHeaviest p rs place best)
    (hr : p r → r.selector.weight < best.selector.weight) :
    IsHeaviest p (rs ++ [r]) place best where
  getElem? := by
    rw [List.getElem?_append_left (List.getElem?_eq_some_iff.mp h.getElem?).1, h.getElem?]
  holds := h.holds
  heaviest := by
    intro place' r' hget hr'
    rcases getElem?_append_singleton_cases hget with hget | ⟨-, rfl⟩
    · exact h.heaviest place' r' hget hr'
    · exact .inl (hr hr')

/-- **The best of some rules is the heaviest one.** -/
theorem exists_isHeaviest (h : ∃ r ∈ rs, p r) : ∃ place r, IsHeaviest p rs place r ∧
    ((rs.filter p).map ThemeRule.resolved).foldl Theme.better none = some r.resolved := by
  induction rs using List.reverseRecOn with
  | nil => simp at h
  | append_singleton rs r ih =>
    rw [List.filter_append, List.map_append, List.foldl_append]
    by_cases hrs : ∃ r ∈ rs, p r
    · obtain ⟨place, best, hbest, hfold⟩ := ih hrs
      rw [hfold]
      by_cases hr : p r
      · rw [List.filter_cons_of_pos hr]
        rcases Nat.lt_or_ge r.selector.weight best.selector.weight with hlt | hge
        · exact ⟨place, best, hbest.append fun _ ↦ hlt, better_resolved_of_lt hlt⟩
        · refine ⟨rs.length, r, isHeaviest_append_self hr fun r' hr' hp' ↦ ?_,
            better_resolved_of_le hge⟩
          obtain ⟨place', hget⟩ := List.getElem?_of_mem hr'
          rcases hbest.heaviest place' r' hget hp' with hlt | ⟨heq, -⟩ <;> omega
      · rw [List.filter_cons_of_neg hr]
        exact ⟨place, best, hbest.append fun h ↦ absurd h hr, rfl⟩
    · have hnone : rs.filter p = [] := by simpa using hrs
      obtain ⟨r', hmem, hr⟩ := h
      obtain rfl : r' = r := by
        rcases List.mem_append.mp hmem with hmem | hmem
        · exact absurd ⟨r', hmem, hr⟩ hrs
        · exact List.mem_singleton.mp hmem
      rw [hnone, List.filter_cons_of_pos hr]
      exact ⟨rs.length, r', isHeaviest_append_self hr fun r hr hp ↦ absurd ⟨r, hr, hp⟩ hrs, rfl⟩

end ByWeight

/-! ## Themes -/

namespace Theme

/-- The theme with its rules in descending order of weight, those of equal weight in reverse
order. -/
def byWeight (t : Theme) : Theme := { t with rules := rulesByWeight t.rules }

/-- Whether a rule of a theme wins for a scope: of the rules that match, it has the greatest weight,
and is the last one of this weight. -/
def IsWinner (t : Theme) (scope : String) (place : Nat) (r : ThemeRule) : Prop :=
  IsHeaviest (fun r ↦ r.selector.Matches (scopeSegments scope)) t.rules place r

variable {t : Theme} {scope : String}

theorem matching_eq_map_filter (t : Theme) (hscope : scope ≠ "") : t.matching scope =
    (t.rules.filter fun r ↦ r.selector.Matches (scopeSegments scope)).map ThemeRule.resolved := by
  rw [matching_eq, if_neg (by simpa using hscope), ← List.filterMap_eq_map, List.filterMap_filter]
  congr 1
  funext r
  rw [Selector.specificity_eq_ite]
  by_cases h : r.selector.Matches (scopeSegments scope) <;> simp [h, ThemeRule.resolved]

theorem matching_empty (t : Theme) : t.matching "" = [] := by
  rw [matching_eq, if_pos (by decide)]

theorem resolve_of_not_matches (t : Theme) (policy : SelectorPolicy)
    (h : scope = "" ∨ ∀ r ∈ t.rules, ¬r.selector.Matches (scopeSegments scope)) :
    t.resolve policy scope = t.baseStyle := by
  have hnone : t.matching scope = [] := by
    by_cases hscope : scope = ""
    · rw [hscope, matching_empty]
    · rw [matching_eq_map_filter t hscope]
      simpa using h.resolve_left hscope
  unfold resolve
  rw [hnone]
  cases policy <;> rfl

theorem resolve_bestMatch_of_matches (hscope : scope ≠ "")
    (h : ∃ r ∈ t.rules, r.selector.Matches (scopeSegments scope)) :
    ∃ place r, t.IsWinner scope place r ∧ t.resolve .bestMatch scope = r.resolved := by
  obtain ⟨place, r, hr, hfold⟩ := exists_isHeaviest
    (p := fun r ↦ r.selector.Matches (scopeSegments scope)) (by simpa using h)
  refine ⟨place, r, hr, ?_⟩
  rw [resolve, matching_eq_map_filter t hscope]
  exact congrArg (·.getD t.baseStyle) hfold

end Theme

/-- **The best match is the first match by weight.** The style of a scope is that of the rule that
matches it with the greatest weight and, among equals, the greatest place. It is the base style, as
less specific than any rule, exactly if no rule matches or the scope is empty. -/
theorem Theme.resolve_bestMatch_eq_firstMatch_byWeight (t : Theme) (scope : String) :
    t.resolve .bestMatch scope = t.byWeight.resolve .firstMatch scope ∧
    (t.resolve .bestMatch scope = ⟨t.base, -1⟩ ↔
      scope = "" ∨ ∀ r ∈ t.rules, ¬r.selector.Matches (scopeSegments scope)) ∧
    ((scope = "" ∨ ∀ r ∈ t.rules, ¬r.selector.Matches (scopeSegments scope)) ∨
      ∃ place r, t.IsWinner scope place r ∧
        t.resolve .bestMatch scope = ⟨r.style, r.selector.weight⟩) := by
  by_cases h : scope = "" ∨ ∀ r ∈ t.rules, ¬r.selector.Matches (scopeSegments scope)
  · have h' : scope = "" ∨ ∀ r ∈ t.byWeight.rules, ¬r.selector.Matches (scopeSegments scope) :=
      h.imp_right fun h r hr ↦ h r (mem_rulesByWeight.mp hr)
    have hbase := resolve_of_not_matches t .bestMatch h
    exact ⟨hbase.trans (resolve_of_not_matches t.byWeight .firstMatch h').symm,
      ⟨fun _ ↦ h, fun _ ↦ hbase⟩, .inl h⟩
  · obtain ⟨hscope, hmatches⟩ := not_or.mp h
    obtain ⟨place, r, hwinner, hresolve⟩ :=
      resolve_bestMatch_of_matches hscope (by simpa using hmatches)
    refine ⟨?_, ⟨fun hbase ↦ ?_, fun h' ↦ absurd h' h⟩, .inr ⟨place, r, hwinner, hresolve⟩⟩
    · have hfold := foldl_better_eq_head? (fun r ↦ r.selector.Matches (scopeSegments scope)) t.rules
      unfold resolve
      rw [matching_eq_map_filter t hscope, matching_eq_map_filter t.byWeight hscope]
      exact congrArg (·.getD t.baseStyle) hfold
    · -- A rule that matches is more specific than the base style.
      have hspecificity := congrArg Resolved.specificity (hresolve.symm.trans hbase)
      have hweight : (0 : Int) ≤ r.selector.weight := Int.natCast_nonneg _
      change (r.selector.weight : Int) = -1 at hspecificity
      omega

end Highlighter
