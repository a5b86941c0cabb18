import Highlighter.Proofs.Text.Words
import Highlighter.Proofs.Theme.Cascade

/-!
# Longer scopes

A scope that goes on after a dot has the segments of the shorter scope in front. A selector looks at
as many segments as it has itself, so what comes after them makes no difference to it: a selector
that matches a scope matches whatever the scope goes on with, equally specifically
(`Selector.specificity_eq_some_iff_append`). What a longer scope can gain are matches of selectors
that are longer than the shorter one.

The empty scope is matched by no rule, although it has a segment, which is empty. So it is left
aside where rules are compared, and has the base style, which is less specific than any other.
-/

namespace Highlighter

/-! ## Segments -/

/-- A scope that goes on with further segments, each of them after a dot. -/
def extendScope (scope : String) (more : List String) : String := ".".intercalate (scope :: more)

theorem extendScope_cons (scope segment : String) (more : List String) :
    extendScope scope (segment :: more) = scope ++ "." ++ extendScope segment more := by
  rw [extendScope, String.intercalate_cons_cons, extendScope]

theorem extendScope_ne_empty {scope : String} (hscope : scope ≠ "") (more : List String) :
    extendScope scope more ≠ "" := by
  cases more with
  | nil => rwa [extendScope, String.intercalate_singleton]
  | cons segment more =>
    rw [extendScope_cons]
    simp

/-- A further segment may itself have dots in it. -/
theorem scopeSegments_extendScope (scope : String) (more : List String) :
    scopeSegments (extendScope scope more) = scopeSegments scope ++ more.flatMap scopeSegments := by
  induction more generalizing scope with
  | nil => rw [extendScope, String.intercalate_singleton, List.flatMap_nil, List.append_nil]
  | cons segment more ih =>
    rw [List.flatMap_cons, ← ih segment, extendScope_cons]
    exact Words.pieces_append_singleton '.' scope (extendScope segment more)

/-! ## Selectors -/

namespace Selector

variable {s : Selector} {scope : List String} {n : Nat}

/-- A selector matches a scope exactly if it is no longer than the scope and matches whatever the
scope goes on with. -/
theorem matches_iff_append (more : List String) :
    s.Matches scope ↔ s.segments.length ≤ scope.length ∧ s.Matches (scope ++ more) := by
  constructor
  · rintro ⟨front, back, rfl, hfront⟩
    refine ⟨?_, front, back ++ more, List.append_assoc front back more, hfront⟩
    rw [hfront.length_eq, List.length_append]
    exact Nat.le_add_right _ _
  · rintro ⟨hlength, front, back, hscope, hfront⟩
    rw [hfront.length_eq] at hlength
    obtain ⟨back', rfl⟩ : front <+: scope :=
      List.prefix_of_prefix_length_le ⟨back, hscope.symm⟩ (List.prefix_append scope more) hlength
    exact ⟨front, back', rfl, hfront⟩

/-- **A selector that matches a scope matches whatever the scope goes on with**, and equally
specifically. -/
theorem specificity_eq_some_iff_append (more : List String) : s.specificity scope = some n ↔
    s.segments.length ≤ scope.length ∧ s.specificity (scope ++ more) = some n := by
  rw [specificity_eq_some_iff, specificity_eq_some_iff, matches_iff_append more, and_assoc]

end Selector

/-! ## Themes -/

namespace Theme

variable {t : Theme} {scope : String}

theorem neg_one_le_specificity_resolve (t : Theme) (scope : String) :
    -1 ≤ (t.resolve .bestMatch scope).specificity := by
  by_cases h : scope = "" ∨ ∀ r ∈ t.rules, ¬r.selector.Matches (scopeSegments scope)
  · rw [resolve_of_not_matches t .bestMatch h]
    exact Int.le_refl _
  · obtain ⟨hscope, hmatches⟩ := not_or.mp h
    obtain ⟨place, r, -, hresolve⟩ := resolve_bestMatch_of_matches hscope (by simpa using hmatches)
    have hweight : (0 : Int) ≤ r.selector.weight := Int.natCast_nonneg _
    rw [hresolve]
    change -1 ≤ (r.selector.weight : Int)
    omega

/-- A rule that matches a scope is no more specific than the style of the scope. -/
theorem weight_le_specificity_resolve {r : ThemeRule} (hscope : scope ≠ "") (hr : r ∈ t.rules)
    (hmatches : r.selector.Matches (scopeSegments scope)) :
    (r.selector.weight : Int) ≤ (t.resolve .bestMatch scope).specificity := by
  obtain ⟨place, best, hbest, hresolve⟩ := resolve_bestMatch_of_matches hscope ⟨r, hr, hmatches⟩
  obtain ⟨place', hplace⟩ := List.getElem?_of_mem hr
  have hle : r.selector.weight ≤ best.selector.weight := by
    rcases hbest.heaviest place' r hplace (by simpa using hmatches) with hlt | ⟨heq, -⟩
    · exact Nat.le_of_lt hlt
    · exact Nat.le_of_eq heq
  rw [hresolve]
  exact Int.ofNat_le.mpr hle

theorem matching_sublist_extendScope (t : Theme) (scope : String) (more : List String) :
    (t.matching scope).Sublist (t.matching (extendScope scope more)) := by
  by_cases hscope : scope = ""
  · rw [hscope, matching_empty]
    exact List.nil_sublist _
  · rw [matching_eq_map_filter t hscope,
      matching_eq_map_filter t (extendScope_ne_empty hscope more), scopeSegments_extendScope]
    refine List.Sublist.map _ (List.monotone_filter_right t.rules fun r hr ↦ ?_)
    simp only [decide_eq_true_eq] at hr ⊢
    exact ((Selector.matches_iff_append _).mp hr).2

end Theme

/-- **A more specific scope loses no style.** What a scope goes on with only adds rules that match,
the others stay as specific as they were, and so the style of the longer scope is at least as
specific as that of the shorter one. A selector that matches the longer scope matches the shorter
one equally specifically, unless it has more segments than this one. -/
theorem Theme.specificity_resolve_le_extendScope (t : Theme) (scope : String)
    (more : List String) :
    (t.resolve .bestMatch scope).specificity ≤
      (t.resolve .bestMatch (extendScope scope more)).specificity ∧
    (t.matching scope).Sublist (t.matching (extendScope scope more)) ∧
    ∀ (r : ThemeRule) (n : Nat), r.selector.specificity (scopeSegments scope) = some n ↔
      r.selector.segments.length ≤ (scopeSegments scope).length ∧
        r.selector.specificity (scopeSegments (extendScope scope more)) = some n := by
  refine ⟨?_, t.matching_sublist_extendScope scope more, fun r n ↦ ?_⟩
  · by_cases h : scope = "" ∨ ∀ r ∈ t.rules, ¬r.selector.Matches (scopeSegments scope)
    · rw [resolve_of_not_matches t .bestMatch h]
      exact t.neg_one_le_specificity_resolve (extendScope scope more)
    · obtain ⟨hscope, hmatches⟩ := not_or.mp h
      obtain ⟨place, r, hwinner, hresolve⟩ :=
        resolve_bestMatch_of_matches hscope (by simpa using hmatches)
      -- The rule that wins for the shorter scope matches the longer one.
      have hmatches' : r.selector.Matches (scopeSegments (extendScope scope more)) := by
        rw [scopeSegments_extendScope]
        exact ((Selector.matches_iff_append _).mp (by simpa using hwinner.holds)).2
      rw [hresolve]
      exact weight_le_specificity_resolve (extendScope_ne_empty hscope more)
        (List.mem_of_getElem? hwinner.getElem?) hmatches'
  · rw [scopeSegments_extendScope]
    exact Selector.specificity_eq_some_iff_append _

end Highlighter
