import Highlighter.Span
import Mathlib.Data.List.Chain

/-!
# Tilings

The spans of a text tile it: they follow each other without a gap, none of them is empty, and
neighbours differ in style. Together with the style of each offset this leaves no choice, so a list
of spans is determined by the styles that it shows (`Displays.unique`).

What style an offset has is a parameter here, a relation between offsets and styles. Spans are added
at the end of a list that is kept from the last span on, and `Displays.addSpan` is the step by which
every list of spans in this library comes about.
-/

namespace Highlighter

/-! ## Spans without gaps -/

/-- Whether spans follow each other from one offset to another one without a gap, and none of them
is empty. -/
def Tiles : Nat → Nat → List Span → Prop
  | start, stop, [] => start = stop
  | start, stop, s :: ss => s.start = start ∧ s.start < s.stop ∧ Tiles s.stop stop ss

section Tiles

variable {start stop : Nat} {s : Span} {ss ss' : List Span}

theorem Tiles.le (h : Tiles start stop ss) : start ≤ stop := by
  induction ss generalizing start with
  | nil => exact Nat.le_of_eq h
  | cons s ss ih =>
    obtain ⟨rfl, hlt, h⟩ := h
    exact Nat.le_trans (Nat.le_of_lt hlt) (ih h)

theorem tiles_append : Tiles start stop (ss ++ ss') ↔
    ∃ mid, Tiles start mid ss ∧ Tiles mid stop ss' := by
  induction ss generalizing start with
  | nil => simp [Tiles]
  | cons s ss ih =>
    simp only [List.cons_append, Tiles, ih]
    constructor
    · rintro ⟨hs, hlt, mid, h, h'⟩
      exact ⟨mid, ⟨hs, hlt, h⟩, h'⟩
    · rintro ⟨mid, ⟨hs, hlt, h⟩, h'⟩
      exact ⟨hs, hlt, mid, h, h'⟩

end Tiles

/-! ## Spans that show styles -/

/-- Whether spans tile a range, each offset in it has the style of its span, and neighbours differ
in style. -/
structure Displays (hasStyle : Nat → Style → Prop) (start stop : Nat) (spans : List Span) :
    Prop where
  tiles : Tiles start stop spans
  hasStyle : ∀ s ∈ spans, ∀ offset, s.start ≤ offset → offset < s.stop → hasStyle offset s.style
  differ : spans.IsChain fun s s' ↦ s.style ≠ s'.style

namespace Displays

variable {hasStyle hasStyle' : Nat → Style → Prop} {start stop : Nat} {s s' : Span}
  {ss ss' found : List Span}

theorem nil (hasStyle : Nat → Style → Prop) (start : Nat) : Displays hasStyle start start [] :=
  ⟨rfl, by simp, .nil⟩

theorem mono (h : Displays hasStyle start stop ss)
    (himp : ∀ offset < stop, ∀ style, hasStyle offset style → hasStyle' offset style) :
    Displays hasStyle' start stop ss := by
  refine ⟨h.tiles, fun s hs offset hle hlt ↦ ?_, h.differ⟩
  refine himp offset ?_ _ (h.hasStyle s hs offset hle hlt)
  obtain ⟨before, after, rfl⟩ := List.append_of_mem hs
  obtain ⟨mid, -, -, -, hafter⟩ := tiles_append.mp h.tiles
  exact Nat.lt_of_lt_of_le hlt hafter.le

theorem tail (h : Displays hasStyle start stop (s :: ss)) : Displays hasStyle s.stop stop ss :=
  ⟨h.tiles.2.2, fun s' hs' ↦ h.hasStyle s' (List.mem_cons_of_mem s hs'), h.differ.tail⟩

/-- A first span cannot end before that of another list: the next one would have its style. -/
theorem stop_le (hfun : ∀ offset style style', hasStyle offset style → hasStyle offset style' →
      style = style')
    (h : Displays hasStyle start stop (s :: ss)) (h' : Displays hasStyle start stop (s' :: ss')) :
    s'.stop ≤ s.stop := by
  obtain ⟨hs, hlt, htiles⟩ := h.tiles
  obtain ⟨hs', hlt', htiles'⟩ := h'.tiles
  by_contra hnot
  -- The span after the shorter one still lies in the longer one, and so has the style of both.
  have hstyle : s.style = s'.style :=
    hfun start _ _ (h.hasStyle s (by simp) start (by omega) (by omega))
      (h'.hasStyle s' (by simp) start (by omega) (by omega))
  cases ss with
  | nil =>
    have hend : s.stop = stop := htiles
    have := htiles'.le
    omega
  | cons next rest =>
    obtain ⟨hnext, hltNext, -⟩ := htiles
    have hstyleNext : next.style = s'.style :=
      hfun s.stop _ _ (h.hasStyle next (by simp) s.stop (by omega) (by omega))
        (h'.hasStyle s' (by simp) s.stop (by omega) (by omega))
    exact (List.isChain_cons_cons.mp h.differ).1 (hstyle.trans hstyleNext.symm)

/-- **Uniqueness.** Where each offset has one style, one list of spans shows the styles of a
range. -/
theorem unique (hfun : ∀ offset style style', hasStyle offset style → hasStyle offset style' →
      style = style')
    (h : Displays hasStyle start stop ss) (h' : Displays hasStyle start stop ss') : ss = ss' := by
  induction ss generalizing start ss' with
  | nil =>
    obtain rfl : start = stop := h.tiles
    cases ss' with
    | nil => rfl
    | cons s' rest =>
      obtain ⟨hs', hlt', htiles'⟩ := h'.tiles
      have := htiles'.le
      omega
  | cons s rest ih =>
    cases ss' with
    | nil =>
      obtain rfl : start = stop := h'.tiles
      obtain ⟨hs, hlt, htiles⟩ := h.tiles
      have := htiles.le
      omega
    | cons s' rest' =>
      -- The first spans agree in start and style, and neither of them can end first.
      have hstop : s.stop = s'.stop := Nat.le_antisymm (stop_le hfun h' h) (stop_le hfun h h')
      have hstart : s.start = s'.start := h.tiles.1.trans h'.tiles.1.symm
      have hstyle : s.style = s'.style :=
        hfun s.start _ _ (h.hasStyle s (by simp) _ (Nat.le_refl _) h.tiles.2.1)
          (h'.hasStyle s' (by simp) _ (Nat.le_of_eq hstart.symm) (hstart ▸ h'.tiles.2.1))
      have hspan : s = s' := by
        cases s
        cases s'
        simp_all
      rw [hspan, ih h.tail (hstop ▸ h'.tail)]

end Displays

/-! ## Adding a span at the end

The spans found so far are listed from the last one on, so each statement on a list of spans is
about its reverse. That neighbours differ can be said of either direction. -/

section AddSpan

variable {start mid : Nat} {s : Span} {found : List Span}

theorem differ_reverse {ss : List Span} : ss.reverse.IsChain (fun s s' ↦ s.style ≠ s'.style) ↔
    ss.IsChain fun s s' ↦ s.style ≠ s'.style := by
  rw [List.isChain_reverse]
  exact ⟨List.IsChain.imp fun _ _ ↦ Ne.symm, List.IsChain.imp fun _ _ ↦ Ne.symm⟩

theorem tiles_addSpan (h : Tiles start mid found.reverse) (hs : s.start = mid)
    (hlt : s.start < s.stop) : Tiles start s.stop (addSpan found s).reverse := by
  have happend : Tiles start s.stop (s :: found).reverse := by
    rw [List.reverse_cons, tiles_append]
    exact ⟨mid, h, hs, hlt, rfl⟩
  cases found with
  | nil => exact happend
  | cons last rest =>
    rw [addSpan]
    split
    · rw [List.reverse_cons, tiles_append] at h ⊢
      obtain ⟨before, hrest, hlast, hltLast, hmid⟩ := h
      exact ⟨before, hrest, hlast, by dsimp only; omega, rfl⟩
    · exact happend

theorem differ_addSpan (h : found.IsChain fun s s' ↦ s.style ≠ s'.style)
    (hmid : ∀ last ∈ found.head?, last.stop = s.start) :
    (addSpan found s).IsChain fun s s' ↦ s.style ≠ s'.style := by
  cases found with
  | nil => exact .singleton s
  | cons last rest =>
    rw [addSpan]
    split
    · cases rest with
      | nil => exact .singleton _
      | cons next rest =>
        obtain ⟨hne, hchain⟩ := List.isChain_cons_cons.mp h
        exact List.isChain_cons_cons.mpr ⟨hne, hchain⟩
    · next hnot =>
      exact List.isChain_cons_cons.mpr ⟨fun heq ↦ hnot ⟨hmid last rfl, heq.symm⟩, h⟩

/-- A span that starts where the others end is added to them, or joined to the last of them. -/
theorem Displays.addSpan {hasStyle : Nat → Style → Prop}
    (h : Displays hasStyle start mid found.reverse) (hs : s.start = mid) (hlt : s.start < s.stop)
    (hstyle : ∀ offset, s.start ≤ offset → offset < s.stop → hasStyle offset s.style) :
    Displays hasStyle start s.stop (addSpan found s).reverse := by
  have hlast : ∀ last ∈ found.head?, last.stop = s.start := by
    intro last hl
    obtain ⟨rest, rfl⟩ := List.head?_eq_some_iff.mp hl
    have htiles := h.tiles
    rw [List.reverse_cons, tiles_append] at htiles
    obtain ⟨-, -, -, -, hmid⟩ := htiles
    exact hmid.trans hs.symm
  refine ⟨tiles_addSpan h.tiles hs hlt, fun s' hs' offset hle hltOffset ↦ ?_,
    differ_reverse.mpr (differ_addSpan (differ_reverse.mp h.differ) hlast)⟩
  have hold : ∀ s' ∈ found, s'.start ≤ offset → offset < s'.stop → hasStyle offset s'.style :=
    fun s' hs' ↦ h.hasStyle s' (List.mem_reverse.mpr hs') offset
  rw [List.mem_reverse] at hs'
  cases found with
  | nil =>
    obtain rfl := List.mem_singleton.mp hs'
    exact hstyle offset hle hltOffset
  | cons last rest =>
    rw [Highlighter.addSpan] at hs'
    split at hs'
    · next heq =>
      rcases List.mem_cons.mp hs' with rfl | hs'
      · by_cases hin : offset < last.stop
        · exact hold last (by simp) hle hin
        · exact heq.2 ▸ hstyle offset (by omega) hltOffset
      · exact hold s' (List.mem_cons_of_mem last hs') hle hltOffset
    · rcases List.mem_cons.mp hs' with rfl | hs'
      · exact hstyle offset hle hltOffset
      · exact hold s' hs' hle hltOffset

end AddSpan

end Highlighter
