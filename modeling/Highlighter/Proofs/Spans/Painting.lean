import Highlighter.Proofs.Spans.Sweep
import Mathlib.Data.List.Induction

/-!
# Painting

The plain way to style a text keeps one style for each offset. At first all of them are the base
style; then each token paints its range, the tokens of lower rank first and those of equal rank in
their order; and at the end neighbours of equal style become one span. The sweep comes to the same
spans (`eq_spansOf_iff_and_eq_coalesce_paint`), and there are no others that show these styles.
-/

namespace Highlighter

/-! ## Neighbours of equal style -/

/-- The spans of a list of styles, one style for each offset. -/
def coalesce (canvas : List Style) : List Span :=
  (canvas.zipIdx.foldl (fun found e ↦ addSpan found ⟨e.2, e.2 + 1, e.1⟩) []).reverse

theorem displays_coalesce (canvas : List Style) :
    Displays (fun offset style ↦ canvas[offset]? = some style) 0 canvas.length
      (coalesce canvas) := by
  induction canvas using List.reverseRecOn with
  | nil => exact .nil _ 0
  | append_singleton canvas style ih =>
    have hfound : Displays (fun offset s ↦ (canvas ++ [style])[offset]? = some s) 0 canvas.length
        (coalesce canvas) :=
      ih.mono fun offset ho s hs ↦ by rwa [List.getElem?_append_left ho]
    rw [coalesce, List.zipIdx_append, List.foldl_append, List.length_append, Nat.zero_add]
    refine hfound.addSpan (s := ⟨canvas.length, canvas.length + 1, style⟩) rfl
      (Nat.lt_succ_self canvas.length) fun offset hle hlt ↦ ?_
    obtain rfl : offset = canvas.length := Nat.le_antisymm (Nat.le_of_lt_succ hlt) hle
    simp

/-! ## Painting the tokens -/

section Paint

variable (t : Theme) (policy : SelectorPolicy)

/-- Gives the offsets of a token its style. -/
def paintToken (canvas : List Style) (k : Token) : List Style :=
  canvas.mapIdx fun offset style ↦
    if k.start ≤ offset ∧ offset < k.stop then (t.resolve policy k.scope).style else style

/-- Whether a token is painted before another one, or is the same: it has a lower rank, or the same
rank and not a later place. -/
def IsPaintedBefore (e e' : Token × Nat) : Prop :=
  t.rank policy e.1 < t.rank policy e'.1 ∨ t.rank policy e.1 = t.rank policy e'.1 ∧ e.2 ≤ e'.2

instance (e e' : Token × Nat) : Decidable (IsPaintedBefore t policy e e') :=
  inferInstanceAs (Decidable (_ ∨ _ ∧ _))

/-- The tokens in the order in which they are painted, each with its place. -/
def paintOrder (tokens : List Token) : List (Token × Nat) :=
  tokens.zipIdx.mergeSort fun e e' ↦ IsPaintedBefore t policy e e'

/-- The style of each offset after all tokens have been painted. -/
def paint (size : Nat) (tokens : List Token) : List Style :=
  (paintOrder t policy tokens).foldl (fun canvas e ↦ paintToken t policy canvas e.1)
    (List.replicate size t.base)

end Paint

section Paint

variable {t : Theme} {policy : SelectorPolicy} {size : Nat} {tokens : List Token}

theorem mem_paintOrder {e : Token × Nat} :
    e ∈ paintOrder t policy tokens ↔ tokens[e.2]? = some e.1 :=
  List.mem_mergeSort.trans List.mem_zipIdx_iff_getElem?

theorem pairwise_paintOrder (t : Theme) (policy : SelectorPolicy) (tokens : List Token) :
    (paintOrder t policy tokens).Pairwise (IsPaintedBefore t policy) := by
  have htrans : ∀ e e' e'' : Token × Nat, decide (IsPaintedBefore t policy e e') = true →
      decide (IsPaintedBefore t policy e' e'') = true →
      decide (IsPaintedBefore t policy e e'') = true := by
    simp only [decide_eq_true_iff]
    unfold IsPaintedBefore
    omega
  have htotal : ∀ e e' : Token × Nat, (decide (IsPaintedBefore t policy e e') ||
      decide (IsPaintedBefore t policy e' e)) = true := by
    simp only [Bool.or_eq_true, decide_eq_true_iff]
    unfold IsPaintedBefore
    omega
  exact (List.pairwise_mergeSort htrans htotal _).imp of_decide_eq_true

theorem length_paintToken (canvas : List Style) (k : Token) :
    (paintToken t policy canvas k).length = canvas.length := List.length_mapIdx

theorem length_foldl_paintToken (l : List (Token × Nat)) (canvas : List Style) :
    (l.foldl (fun canvas e ↦ paintToken t policy canvas e.1) canvas).length = canvas.length := by
  induction l generalizing canvas with
  | nil => rfl
  | cons e l ih => rw [List.foldl_cons, ih, length_paintToken]

theorem length_paint (t : Theme) (policy : SelectorPolicy) (size : Nat) (tokens : List Token) :
    (paint t policy size tokens).length = size := by
  rw [paint, length_foldl_paintToken, List.length_replicate]

theorem covers_iff {k : Token} {offset : Nat} (h : offset < size) :
    k.Covers size offset ↔ k.start ≤ offset ∧ offset < k.stop := by
  unfold Token.Covers
  omega

/-- What an offset looks like after some tokens have been painted: like the last of them that covers
it, which is the greatest. -/
theorem getElem?_foldl_paintToken {l : List (Token × Nat)} {offset : Nat} {style : Style}
    (hl : l.Pairwise (IsPaintedBefore t policy)) (ho : offset < size)
    (hstyle : (l.foldl (fun canvas e ↦ paintToken t policy canvas e.1)
      (List.replicate size t.base))[offset]? = some style) :
    ((∀ e ∈ l, ¬e.1.Covers size offset) ∧ style = t.base) ∨
      ∃ e ∈ l, e.1.Covers size offset ∧
        (∀ e' ∈ l, e'.1.Covers size offset → IsPaintedBefore t policy e' e) ∧
        style = (t.resolve policy e.1.scope).style := by
  induction l using List.reverseRecOn generalizing style with
  | nil =>
    refine .inl ⟨by simp, ?_⟩
    simpa [ho, eq_comm] using hstyle
  | append_singleton l last ih =>
    obtain ⟨hinit, -, hlast⟩ := List.pairwise_append.mp hl
    rw [List.foldl_append, List.foldl_cons, List.foldl_nil, paintToken, List.getElem?_mapIdx,
      Option.map_eq_some_iff] at hstyle
    obtain ⟨before, hbefore, rfl⟩ := hstyle
    -- The token that is painted last decides wherever it covers the offset.
    by_cases hc : last.1.Covers size offset
    · refine .inr ⟨last, by simp, hc, fun e he _ ↦ ?_, if_pos ((covers_iff ho).mp hc)⟩
      rcases List.mem_append.mp he with he | he
      · exact hlast e he last (by simp)
      · obtain rfl := List.mem_singleton.mp he
        exact .inr ⟨rfl, Nat.le_refl _⟩
    · rw [if_neg fun h ↦ hc ((covers_iff ho).mpr h)]
      rcases ih hinit hbefore with ⟨hnone, hbase⟩ | ⟨e, he, hcovers, htop, hstyle⟩
      · refine .inl ⟨fun e he ↦ ?_, hbase⟩
        rcases List.mem_append.mp he with he | he
        · exact hnone e he
        · exact List.mem_singleton.mp he ▸ hc
      · refine .inr ⟨e, List.mem_append_left _ he, hcovers, fun e' he' hc' ↦ ?_, hstyle⟩
        rcases List.mem_append.mp he' with he' | he'
        · exact htop e' he' hc'
        · exact absurd (List.mem_singleton.mp he' ▸ hc') hc

/-- Painting gives each offset its style. -/
theorem isStyleAt_of_getElem?_paint {offset : Nat} {style : Style}
    (h : (paint t policy size tokens)[offset]? = some style) :
    IsStyleAt t policy size tokens offset style := by
  have ho : offset < size := by
    have := (List.getElem?_eq_some_iff.mp h).1
    rwa [length_paint] at this
  rcases getElem?_foldl_paintToken (pairwise_paintOrder t policy tokens) ho h with
    ⟨hnone, rfl⟩ | ⟨⟨k, place⟩, hk, hc, htop, rfl⟩
  · refine .base fun k hk ↦ ?_
    obtain ⟨place, hplace⟩ := List.getElem?_of_mem hk
    exact hnone (k, place) (mem_paintOrder.mpr hplace)
  · refine .token (mem_paintOrder.mp hk) hc fun place' k' hk' hc' ↦ ?_
    exact htop (k', place') (mem_paintOrder.mpr hk') hc'

end Paint

/-! ## The spans -/

/-- **The spans of a text.** The sweep returns the one list of spans that tiles the text, shows for
each offset the style of the greatest token over it, and has no neighbours of equal style. It is
what comes of painting the tokens one by one and joining neighbours of equal style. -/
theorem eq_spansOf_iff_and_eq_coalesce_paint (t : Theme) (policy : SelectorPolicy) (size : Nat)
    (tokens : List Token) :
    (∀ spans, spans = spansOf t policy size tokens ↔
      Displays (IsStyleAt t policy size tokens) 0 size spans) ∧
    spansOf t policy size tokens = coalesce (paint t policy size tokens) := by
  have hspans := displays_spansOf t policy size tokens
  have hfun : ∀ offset style style', IsStyleAt t policy size tokens offset style →
      IsStyleAt t policy size tokens offset style' → style = style' :=
    fun _ _ _ ↦ IsStyleAt.unique
  refine ⟨fun spans ↦ ⟨fun h ↦ h ▸ hspans, fun h ↦ h.unique hfun hspans⟩, ?_⟩
  have hpaint := displays_coalesce (paint t policy size tokens)
  rw [length_paint] at hpaint
  exact hspans.unique hfun (hpaint.mono fun _ _ _ ↦ isStyleAt_of_getElem?_paint)

end Highlighter
