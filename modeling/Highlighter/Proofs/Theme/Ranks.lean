import Highlighter.Theme.Basic
import Mathlib.Data.List.Basic

/-!
# Ranks

How specific the style of a scope is depends on the selectors of a theme only, and not on its styles
(`Theme.specificity_resolve`). Themes that share their selectors therefore rank scopes alike, and
what the ranks are can be computed once for all of them.
-/

namespace Highlighter

/-- How specifically the best of some selectors matches a scope, where no match counts as less than
any. -/
def rankIn (selectors : List Selector) (scope : String) : Int :=
  if scope.isEmpty then -1
  else (selectors.filterMap fun s ↦
    (s.specificity (scopeSegments scope)).map fun n : Nat ↦ (n : Int)).foldl max (-1)

namespace Theme

variable {t : Theme} {rs : List Resolved} {best : Option Resolved}

/-- The selectors of a theme. -/
def selectors (t : Theme) : List Selector := t.rules.map (·.selector)

theorem matching_eq (t : Theme) (scope : String) : t.matching scope =
    if scope.isEmpty then []
    else t.rules.filterMap fun r ↦
      (r.selector.specificity (scopeSegments scope)).map fun n : Nat ↦ ⟨r.style, (n : Int)⟩ := by
  simp only [matching, bind_pure_comp, Option.map_eq_map, Option.map_map, Function.comp_def]

/-- The better of two styles has the greater specificity. -/
theorem specificity_better (t : Theme) (best : Option Resolved) {r : Resolved}
    (hr : 0 ≤ r.specificity) : ((better best r).getD t.baseStyle).specificity =
      max (best.getD t.baseStyle).specificity r.specificity := by
  cases best with
  | none =>
    change r.specificity = max (-1) r.specificity
    omega
  | some b =>
    rw [better]
    split
    · next hle => exact (Int.max_eq_right hle).symm
    · next hlt => exact (Int.max_eq_left (Int.le_of_lt (Int.not_le.mp hlt))).symm

theorem specificity_foldl_better (t : Theme) (hrs : ∀ r ∈ rs, 0 ≤ r.specificity) :
    ((rs.foldl better best).getD t.baseStyle).specificity =
      (rs.map (·.specificity)).foldl max (best.getD t.baseStyle).specificity := by
  induction rs generalizing best with
  | nil => rfl
  | cons r rs ih =>
    rw [List.foldl_cons, ih fun r hr ↦ hrs r (List.mem_cons_of_mem _ hr), List.map_cons,
      List.foldl_cons, specificity_better t best (hrs r (by simp))]

/-- **The rank of a scope is told by the selectors.** -/
theorem specificity_resolve (t : Theme) (scope : String) :
    (t.resolve .bestMatch scope).specificity = rankIn t.selectors scope := by
  have hmatching : ∀ r ∈ t.matching scope, 0 ≤ r.specificity := by
    intro r hr
    rw [matching_eq] at hr
    split at hr
    · simp at hr
    · obtain ⟨rule, -, hrule⟩ := List.mem_filterMap.mp hr
      obtain ⟨n, -, rfl⟩ := Option.map_eq_some_iff.mp hrule
      exact Int.natCast_nonneg n
  rw [resolve, specificity_foldl_better t hmatching, rankIn, matching_eq, selectors]
  split
  · rfl
  · rw [List.map_filterMap, List.filterMap_map]
    simp only [Option.map_map, Function.comp_def]
    rfl

end Theme

end Highlighter
