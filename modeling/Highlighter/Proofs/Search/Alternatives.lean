import Highlighter.Proofs.Tokenize.Regions
import Mathlib.Data.List.Pairwise

/-!
# Alternatives

An alternation whose alternatives are groups picks one of them for each match, so the match has one
group. This is a property of the searcher (`Searcher.IsAlternation`). The matches of a scan have no
text in common, whatever the expression is (`pairwise_matchesFrom`). Together: where two groups of
such a scan have text in common, they are the same group of the same match
(`Searcher.IsAlternation.eq_of_overlaps`).
-/

namespace Highlighter

/-- Whether two regions, neither of which is empty, have text in common. -/
def Region.Overlaps (r r' : Region) : Prop := r.start < r'.stop ∧ r'.start < r.stop

/-! ## Groups of a match -/

namespace Match

variable {m : Match} {group group' : Nat} {r r' : Region}

theorem Between.start_le_stop {start stop : Nat} (h : m.Between start stop) : start ≤ stop :=
  Nat.le_trans h.le_start (Nat.le_trans m.whole.start_le_stop h.stop_le)

theorem mem_participating : (group, r) ∈ m.participating ↔ m.allGroups[group]? = some (some r) := by
  rw [participating, List.mem_filterMap]
  constructor
  · rintro ⟨⟨r?, group'⟩, hr, h⟩
    obtain ⟨r', rfl, heq⟩ := Option.map_eq_some_iff.mp h
    cases heq
    exact List.mem_zipIdx_iff_getElem?.mp hr
  · exact fun h ↦ ⟨(some r, group), List.mem_zipIdx_iff_getElem?.mpr h, rfl⟩

/-- Whether a match is that of one alternative: its groups lie within what is matched, and at most
one of them took part. -/
structure IsAlternative (m : Match) : Prop where
  within : ∀ r, some r ∈ m.groups → r.Within m.whole
  unique : ∀ (i j : Nat) (r r' : Region), m.groups[i]? = some (some r) →
    m.groups[j]? = some (some r') → i = j

theorem IsAlternative.within_whole (h : m.IsAlternative) (hg : (group + 1, r) ∈ m.participating) :
    r.Within m.whole :=
  h.within r (List.mem_of_getElem? (mem_participating.mp hg))

theorem IsAlternative.group_eq (h : m.IsAlternative) (hg : (group + 1, r) ∈ m.participating)
    (hg' : (group' + 1, r') ∈ m.participating) : group = group' ∧ r = r' := by
  have hget := mem_participating.mp hg
  have hget' := mem_participating.mp hg'
  obtain rfl := h.unique group group' r r' hget hget'
  exact ⟨rfl, Option.some.inj (Option.some.inj (hget.symm.trans hget'))⟩

/-- The match of one alternative out of some number of them. -/
def ofAlternative (r : Region) (count group : Nat) : Match :=
  ⟨r, (List.replicate count none).set group (some r)⟩

theorem isAlternative_ofAlternative (r : Region) (count group : Nat) :
    (ofAlternative r count group).IsAlternative where
  within := by
    intro r' hr'
    rcases List.mem_or_eq_of_mem_set hr' with hr' | hr'
    · cases List.eq_of_mem_replicate hr'
    · obtain rfl : r' = r := Option.some.inj hr'
      exact .refl r'
  unique := by
    have hgroup : ∀ (i : Nat) (r' : Region),
        ((List.replicate count none).set group (some r))[i]? = some (some r') → i = group := by
      intro i r' hget
      by_contra hne
      rw [List.getElem?_set_ne (Ne.symm hne)] at hget
      cases List.eq_of_mem_replicate (List.mem_of_getElem? hget)
    intro i j r₁ r₂ hi hj
    rw [hgroup i r₁ hi, hgroup j r₂ hj]

/-- The matches of some alternatives, each given by its number and what it matched. -/
def alternatives (count : Nat) (found : List (Nat × Region)) : List Match :=
  found.map fun e ↦ ofAlternative e.2 count e.1

theorem isAlternative_of_mem_alternatives {count : Nat} {found : List (Nat × Region)}
    (h : m ∈ alternatives count found) : m.IsAlternative := by
  obtain ⟨e, -, rfl⟩ := List.mem_map.mp h
  exact isAlternative_ofAlternative e.2 count e.1

end Match

/-! ## Matches of a scan -/

/-- Whether an expression is an alternation whose alternatives are groups. -/
def Searcher.IsAlternation (finds : Searcher) : Prop :=
  ∀ text start m, finds.find text start = some m → m.1.IsAlternative

section Scan

variable {finds : Searcher} {text : Array Char} {pos : Nat} {r r₁ r₂ : Region} {m m₁ m₂ : Match}
  {group₁ group₂ : Nat}

theorem Match.stop_le_resume (m : Match) : m.whole.stop ≤ m.resume := by
  unfold resume
  split
  · exact Nat.le_succ _
  · exact Nat.le_refl _

theorem Match.resume_eq {m : Match} (h : m.whole.start < m.whole.stop) :
    m.resume = m.whole.stop := by
  rw [resume, Region.isEmpty_eq_false h]
  rfl

/-- Each match of a scan begins where the search after those before it begins, or further on. -/
theorem pairwise_resume_le_matchesFrom (finds : Searcher) (text : Array Char) (pos : Nat) :
    (finds.matchesFrom text pos).Pairwise fun m m' ↦ m.resume ≤ m'.whole.start := by
  fun_induction Searcher.matchesFrom finds text pos with
  | case1 | case3 => exact .nil
  | case2 pos hpos found hfound hfind hlt ih =>
    exact List.pairwise_cons.mpr ⟨fun m hm ↦ (between_of_mem_matchesFrom hm).le_start, ih⟩

/-- Each match of a scan begins where those before it have ended, or further on. -/
theorem pairwise_matchesFrom (finds : Searcher) (text : Array Char) (pos : Nat) :
    (finds.matchesFrom text pos).Pairwise fun m m' ↦ m.whole.stop ≤ m'.whole.start :=
  (pairwise_resume_le_matchesFrom finds text pos).imp fun {m _} hle ↦
    Nat.le_trans m.stop_le_resume hle

/-- Two matches of a scan are the same, or one of them comes before the other one. -/
theorem eq_or_disjoint_of_mem_matchesFrom (hm₁ : m₁ ∈ finds.matchesFrom text pos)
    (hm₂ : m₂ ∈ finds.matchesFrom text pos) :
    m₁ = m₂ ∨ m₁.whole.stop ≤ m₂.whole.start ∨ m₂.whole.stop ≤ m₁.whole.start := by
  have hsymm : Std.Symm fun m m' : Match ↦
      m = m' ∨ m.whole.stop ≤ m'.whole.start ∨ m'.whole.stop ≤ m.whole.start :=
    ⟨fun _ _ ↦ Or.imp Eq.symm Or.symm⟩
  have hpairwise : (finds.matchesFrom text pos).Pairwise fun m m' : Match ↦
      m = m' ∨ m.whole.stop ≤ m'.whole.start ∨ m'.whole.stop ≤ m.whole.start :=
    (pairwise_matchesFrom finds text pos).imp fun hle ↦ .inr (.inl hle)
  exact hpairwise.forall_of_forall (fun _ _ ↦ .inl rfl) hm₁ hm₂

theorem Searcher.IsAlternation.isAlternative (h : finds.IsAlternation)
    (hm : m ∈ finds.matchesFrom text pos) : m.IsAlternative := by
  fun_induction Searcher.matchesFrom finds text pos with
  | case1 | case3 => simp at hm
  | case2 pos hpos found hfound hfind hlt ih =>
    rcases List.mem_cons.mp hm with rfl | hm
    · exact h _ _ _ hfind
    · exact ih hm

/-- **Groups that have text in common are the same.** -/
theorem Searcher.IsAlternation.eq_of_overlaps (h : finds.IsAlternation)
    (hm₁ : m₁ ∈ finds.matchesFrom text pos) (hm₂ : m₂ ∈ finds.matchesFrom text pos)
    (hg₁ : (group₁ + 1, r₁) ∈ m₁.participating) (hg₂ : (group₂ + 1, r₂) ∈ m₂.participating)
    (hoverlaps : r₁.Overlaps r₂) : group₁ = group₂ ∧ r₁ = r₂ := by
  have halt₁ := h.isAlternative hm₁
  have halt₂ := h.isAlternative hm₂
  obtain ⟨hstart₁, hstop₁⟩ := halt₁.within_whole hg₁
  obtain ⟨hstart₂, hstop₂⟩ := halt₂.within_whole hg₂
  obtain ⟨hlt, hlt'⟩ := hoverlaps
  -- Two different matches would have to follow each other.
  rcases eq_or_disjoint_of_mem_matchesFrom hm₁ hm₂ with rfl | hle | hle
  · exact halt₁.group_eq hg₁ hg₂
  · omega
  · omega

end Scan

end Highlighter
