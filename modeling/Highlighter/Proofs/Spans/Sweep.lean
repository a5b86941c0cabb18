import Highlighter.Proofs.Spans.Layers
import Highlighter.Proofs.Spans.Tiling
import Mathlib.Data.List.TakeWhile

/-!
# The sweep over the cuts

Between two cuts no layer starts or stops, so a style that holds at a cut holds up to the next one.
What remains is that the sweep finds the style of a cut by looking at the top of its pile.

The pile holds every layer that has started and has not stopped, but others as well: a layer that
stops while another one lies over it stays in the pile until it comes to lie on top. `Sweep.Keeps`
says what holds of a sweep nevertheless: a layer may be missing from it only if it has stopped, and
no layer in the pile lies over one above it. With the top cleared of what has stopped
(`Sweep.Keeps.moveTo`) this is enough for the top to be what the style asks for.
-/

namespace Highlighter

/-! ## Cuts -/

section Cuts

theorem pairwise_mergeSort_key {α : Type} (key : α → Nat) (l : List α) :
    (l.mergeSort fun a b ↦ key a ≤ key b).Pairwise fun a b ↦ key a ≤ key b := by
  have htrans : ∀ a b c : α, decide (key a ≤ key b) = true → decide (key b ≤ key c) = true →
      decide (key a ≤ key c) = true := by
    simp only [decide_eq_true_iff]
    exact fun _ _ _ ↦ Nat.le_trans
  have htotal : ∀ a b : α, (decide (key a ≤ key b) || decide (key b ≤ key a)) = true := by
    simpa using fun a b ↦ Nat.le_total (key a) (key b)
  exact (List.pairwise_mergeSort htrans htotal l).imp of_decide_eq_true

theorem eraseRepsBy_loop_append {α : Type} (r : α → α → Bool) (a : α) (l acc : List α) :
    List.eraseRepsBy.loop r a l acc = acc.reverse ++ List.eraseRepsBy.loop r a l [] := by
  induction l generalizing a acc with
  | nil => simp [List.eraseRepsBy.loop]
  | cons b l ih =>
    simp only [List.eraseRepsBy.loop]
    split
    · exact ih a acc
    · rw [ih b (a :: acc), ih b [a]]
      simp

theorem eraseReps_cons_cons (a b : Nat) (l : List Nat) : (a :: b :: l).eraseReps =
    if a = b then (b :: l).eraseReps else a :: (b :: l).eraseReps := by
  simp only [List.eraseReps, List.eraseRepsBy, List.eraseRepsBy.loop]
  by_cases h : a = b
  · subst h
    simp
  · rw [if_neg h, beq_eq_false_iff_ne.mpr h]
    exact eraseRepsBy_loop_append _ b l [a]

theorem mem_eraseReps {a : Nat} {l : List Nat} : a ∈ l.eraseReps ↔ a ∈ l := by
  induction l with
  | nil => rfl
  | cons b l ih =>
    cases l with
    | nil => rfl
    | cons c l =>
      rw [eraseReps_cons_cons]
      split
      · next heq =>
        subst heq
        simp [ih]
      · rw [List.mem_cons, ih, List.mem_cons (l := c :: l)]

theorem pairwise_eraseReps {l : List Nat} (h : l.Pairwise (· ≤ ·)) :
    l.eraseReps.Pairwise (· < ·) := by
  induction l with
  | nil => exact .nil
  | cons b l ih =>
    cases l with
    | nil => exact List.pairwise_singleton _ _
    | cons c l =>
      obtain ⟨hb, hrest⟩ := List.pairwise_cons.mp h
      rw [eraseReps_cons_cons]
      split
      · exact ih hrest
      · next hne =>
        refine List.pairwise_cons.mpr ⟨fun a ha ↦ ?_, ih hrest⟩
        have hbc : b ≤ c := hb c (by simp)
        have hca : c ≤ a := by
          rcases List.mem_cons.mp (mem_eraseReps.mp ha) with rfl | ha
          · exact Nat.le_refl _
          · exact (List.pairwise_cons.mp hrest).1 a ha
        omega

variable {size : Nat} {ls : List Layer}

theorem mem_cuts_iff {offset : Nat} : offset ∈ cuts size ls ↔
    offset = 0 ∨ offset = size ∨ ∃ l ∈ ls, offset = l.start ∨ offset = l.stop := by
  simp [cuts, mem_eraseReps]

theorem pairwise_cuts (size : Nat) (ls : List Layer) : (cuts size ls).Pairwise (· < ·) :=
  pairwise_eraseReps (pairwise_mergeSort_key id _)

end Cuts

/-! ## The pile -/

/-- Whether no layer in a pile lies over one above it. -/
def IsPiled (ls : List Layer) : Prop := ls.Pairwise fun l m ↦ ¬m.IsOver l

section Pile

variable {l m : Layer} {ls ms : List Layer}

theorem mem_pile : m ∈ l.pile ls ↔ m = l ∨ m ∈ ls := by
  induction ls with
  | nil => simp [Layer.pile]
  | cons n ns ih =>
    rw [Layer.pile]
    split
    · rw [List.mem_cons]
    · rw [List.mem_cons, ih, List.mem_cons]
      exact or_left_comm

theorem IsPiled.pile (h : IsPiled ls) (l : Layer) : IsPiled (l.pile ls) := by
  induction ls with
  | nil => exact List.pairwise_singleton _ _
  | cons m ms ih =>
    obtain ⟨hm, hms⟩ := List.pairwise_cons.mp h
    rw [Layer.pile]
    split
    · next hover =>
      refine List.pairwise_cons.mpr ⟨fun n hn ↦ ?_, h⟩
      rcases List.mem_cons.mp hn with rfl | hn
      · exact hover.asymm
      · exact fun hnl ↦ hm n hn (hnl.trans hover)
    · next hnot =>
      refine List.pairwise_cons.mpr ⟨fun n hn ↦ ?_, ih hms⟩
      rcases mem_pile.mp hn with rfl | hn
      · exact hnot
      · exact hm n hn

theorem mem_foldl_pile : m ∈ ms.foldl (fun ls l ↦ l.pile ls) ls ↔ m ∈ ms ∨ m ∈ ls := by
  induction ms generalizing ls with
  | nil => simp
  | cons n ns ih =>
    rw [List.foldl_cons, ih, mem_pile, List.mem_cons, or_assoc]
    exact or_left_comm

theorem IsPiled.foldl_pile (h : IsPiled ls) (ms : List Layer) :
    IsPiled (ms.foldl (fun ls l ↦ l.pile ls) ls) := by
  induction ms generalizing ls with
  | nil => exact h
  | cons n ns ih => exact ih (h.pile n)

end Pile

/-! ## What a sweep keeps -/

namespace Sweep

variable {ls : List Layer} {offset offset' : Nat} {s : Sweep} {l : Layer}

/-- What holds of a sweep over some layers when it has come to an offset. -/
structure Keeps (ls : List Layer) (offset : Nat) (s : Sweep) : Prop where
  waiting_sorted : s.waiting.Pairwise (·.start ≤ ·.start)
  waiting_subset : s.waiting ⊆ ls
  active_piled : IsPiled s.active
  active_subset : s.active ⊆ ls
  active_start_le : ∀ l ∈ s.active, l.start ≤ offset
  /-- A layer that is missing has stopped. -/
  stop_le : ∀ l ∈ ls, l ∉ s.waiting → l ∉ s.active → l.stop ≤ offset

theorem keeps_ofLayers (ls : List Layer) : Keeps ls 0 (ofLayers ls) where
  waiting_sorted := pairwise_mergeSort_key Layer.start ls
  waiting_subset l hl := List.mem_mergeSort.mp hl
  active_piled := .nil
  active_subset := List.nil_subset ls
  active_start_le := by simp [ofLayers]
  stop_le l hl hnot := absurd (List.mem_mergeSort.mpr hl) hnot

/-- A layer that waits is taken up or goes on waiting. -/
theorem mem_waiting_iff (s : Sweep) (offset : Nat) : l ∈ s.waiting ↔
    l ∈ s.waiting.takeWhile (·.start ≤ offset) ∨ l ∈ (s.takeUp offset).waiting := by
  conv_lhs => rw [← List.takeWhile_append_dropWhile (p := fun l : Layer ↦ l.start ≤ offset)
    (l := s.waiting)]
  exact List.mem_append

theorem mem_active_takeUp : l ∈ (s.takeUp offset).active ↔
    l ∈ s.waiting.takeWhile (·.start ≤ offset) ∨ l ∈ s.active := mem_foldl_pile

theorem Keeps.takeUp (h : Keeps ls offset s) (hle : offset ≤ offset') :
    Keeps ls offset' (s.takeUp offset') where
  waiting_sorted := h.waiting_sorted.sublist (List.dropWhile_sublist _)
  waiting_subset := fun _ hl ↦ h.waiting_subset (List.dropWhile_subset _ hl)
  active_piled := h.active_piled.foldl_pile _
  active_subset := by
    intro l hl
    rcases mem_active_takeUp.mp hl with hl | hl
    · exact h.waiting_subset ((mem_waiting_iff s offset').mpr (.inl hl))
    · exact h.active_subset hl
  active_start_le := by
    intro l hl
    rcases mem_active_takeUp.mp hl with hl | hl
    · simpa using List.mem_takeWhile_imp hl
    · exact Nat.le_trans (h.active_start_le l hl) hle
  stop_le := by
    intro l hl hwait hact
    rw [mem_active_takeUp, not_or] at hact
    have hnot : l ∉ s.waiting := fun hmem ↦
      ((mem_waiting_iff s offset').mp hmem).elim hact.1 hwait
    exact Nat.le_trans (h.stop_le l hl hnot hact.2) hle

/-- What still waits starts further on. -/
theorem Keeps.lt_start_of_mem_takeUp (h : Keeps ls offset s)
    (hl : l ∈ (s.takeUp offset').waiting) : offset' < l.start := by
  change l ∈ s.waiting.dropWhile _ at hl
  generalize hd : s.waiting.dropWhile (fun l ↦ decide (l.start ≤ offset')) = rest at hl
  have hsorted := h.waiting_sorted.sublist
    (List.dropWhile_sublist (fun l : Layer ↦ decide (l.start ≤ offset')))
  rw [hd] at hsorted
  cases rest with
  | nil => simp at hl
  | cons next rest =>
    have hnext : offset' < next.start := by
      have hhead := List.head?_dropWhile_not (fun l : Layer ↦ decide (l.start ≤ offset')) s.waiting
      simpa [hd] using hhead
    rcases List.mem_cons.mp hl with rfl | hl
    · exact hnext
    · exact Nat.lt_of_lt_of_le hnext ((List.pairwise_cons.mp hsorted).1 l hl)

theorem Keeps.takeOff (h : Keeps ls offset s) : Keeps ls offset (s.takeOff offset) where
  waiting_sorted := h.waiting_sorted
  waiting_subset := h.waiting_subset
  active_piled := List.Pairwise.sublist (List.dropWhile_sublist _) h.active_piled
  active_subset := fun _ hl ↦ h.active_subset (List.dropWhile_subset _ hl)
  active_start_le := fun l hl ↦ h.active_start_le l (List.dropWhile_subset _ hl)
  stop_le := by
    intro l hl hwait hact
    -- What is missing now was taken off because it had stopped, or was missing before.
    by_cases hmem : l ∈ s.active
    · rw [← List.takeWhile_append_dropWhile (p := fun l : Layer ↦ l.stop ≤ offset)
        (l := s.active), List.mem_append] at hmem
      rcases hmem with hmem | hmem
      · simpa using List.mem_takeWhile_imp hmem
      · exact absurd hmem hact
    · exact h.stop_le l hl hwait hmem

/-- **The step of the sweep.** What it keeps, it keeps when it moves on. -/
theorem Keeps.moveTo (h : Keeps ls offset s) (hle : offset ≤ offset') :
    Keeps ls offset' (s.moveTo offset') :=
  (h.takeUp hle).takeOff

theorem lt_stop_of_head?_moveTo (hl : l ∈ (s.moveTo offset).active.head?) : offset < l.stop := by
  have hhead := List.head?_dropWhile_not (fun l : Layer ↦ decide (l.stop ≤ offset))
    (s.takeUp offset).active
  change l ∈ (List.dropWhile _ _).head? at hl
  rw [Option.mem_def.mp hl] at hhead
  simpa using hhead

/-- A layer that covers the offset to which a sweep moves is in its pile. -/
theorem Keeps.mem_active_of_covers (h : Keeps ls offset s) (hle : offset ≤ offset') (hl : l ∈ ls)
    (hc : l.Covers offset') : l ∈ (s.moveTo offset').active := by
  by_contra hnot
  have hwait : l ∉ (s.moveTo offset').waiting := fun hmem ↦
    Nat.not_lt_of_le hc.1 (h.lt_start_of_mem_takeUp hmem)
  exact Nat.not_le_of_lt hc.2 ((h.moveTo hle).stop_le l hl hwait hnot)

end Sweep

/-! ## The spans of a sweep -/

section Spans

variable {t : Theme} {policy : SelectorPolicy} {size : Nat} {tokens : List Token}

/-- The top of the pile tells the style of the offset that the sweep has come to. -/
theorem isStyleAt_moveTo {s : Sweep} {offset offset' : Nat}
    (h : s.Keeps (layers t policy size tokens) offset) (hle : offset ≤ offset') :
    IsStyleAt t policy size tokens offset' ((s.moveTo offset').style t) := by
  have hkeeps := h.moveTo hle
  unfold Sweep.style
  cases hact : (s.moveTo offset').active with
  | nil =>
    refine .of_not_covers fun l hl hc ↦ ?_
    have hmem := h.mem_active_of_covers hle hl hc
    simp [hact] at hmem
  | cons top rest =>
    -- Layers further down may have stopped. It is enough that none over the offset is missing.
    have htop : top ∈ (s.moveTo offset').active := by simp [hact]
    refine .of_top (hkeeps.active_subset htop) ⟨hkeeps.active_start_le top htop, ?_⟩ ?_
    · exact Sweep.lt_stop_of_head?_moveTo (s := s) (by simp [hact])
    · intro m hm hc
      have hmem := h.mem_active_of_covers hle hm hc
      have hpiled := hkeeps.active_piled
      rw [hact] at hmem hpiled
      rcases List.mem_cons.mp hmem with rfl | hmem
      · exact fun hover ↦ hover.asymm hover
      · exact (List.pairwise_cons.mp hpiled).1 m hmem

/-- A style holds as long as no layer starts or stops. -/
theorem IsStyleAt.of_between {start stop offset : Nat} {style : Style}
    (h : IsStyleAt t policy size tokens start style)
    (hstart : ∀ l ∈ layers t policy size tokens, l.start ≤ start ∨ stop ≤ l.start)
    (hstop : ∀ l ∈ layers t policy size tokens, l.stop ≤ start ∨ stop ≤ l.stop)
    (hle : start ≤ offset) (hlt : offset < stop) :
    IsStyleAt t policy size tokens offset style := by
  -- A token that covers one offset covers all of them: its layer does not start or stop here.
  have hcovers : ∀ k ∈ tokens, ∀ o o', start ≤ o → o < stop → start ≤ o' → o' < stop →
      k.Covers size o → k.Covers size o' := by
    intro k hk o o' hle hlt hle' hlt' hc
    obtain ⟨place, hplace⟩ := List.getElem?_of_mem hk
    have hl : .ofToken t policy size k place ∈ layers t policy size tokens :=
      ofToken_mem_layers hplace hc
    have h1 : min k.start size ≤ start ∨ stop ≤ min k.start size := hstart _ hl
    have h2 : min k.stop size ≤ start ∨ stop ≤ min k.stop size := hstop _ hl
    unfold Token.Covers at *
    omega
  have hlt' := Nat.lt_of_le_of_lt hle hlt
  have hforth := fun k hk ↦ hcovers k hk start offset (Nat.le_refl _) hlt' hle hlt
  have hback := fun k hk ↦ hcovers k hk offset start hle hlt (Nat.le_refl _) hlt'
  cases h with
  | base h => exact .base fun k hk hc ↦ h k hk (hback k hk hc)
  | token hk hc htop =>
    refine .token hk (hforth _ (List.mem_of_getElem? hk) hc) fun place' k' hk' hc' ↦ ?_
    exact htop place' k' hk' (hback k' (List.mem_of_getElem? hk') hc')

/-- **The run of the sweep.** Whatever spans have been found, those up to the last cut are added to
them. -/
theorem displays_sweepSpans {s : Sweep} {offset cut stop : Nat} {found : List Span}
    {later : List Nat} (hkeeps : s.Keeps (layers t policy size tokens) offset)
    (hle : offset ≤ cut) (hsorted : (cut :: later).Pairwise (· < ·))
    (hlast : (cut :: later).getLast? = some stop)
    (hcuts : ∀ l ∈ layers t policy size tokens, ∀ o, o = l.start ∨ o = l.stop → o ≤ cut ∨ o ∈ later)
    (hfound : Displays (IsStyleAt t policy size tokens) 0 cut found.reverse) :
    Displays (IsStyleAt t policy size tokens) 0 stop (sweepSpans t s found (cut :: later)) := by
  induction later generalizing s offset cut found with
  | nil =>
    obtain rfl : cut = stop := by simpa using hlast
    exact hfound
  | cons next later ih =>
    obtain ⟨hcut, hlater⟩ := List.pairwise_cons.mp hsorted
    have hlt : cut < next := hcut next (by simp)
    -- No layer starts or stops between two neighbouring cuts.
    have hbetween : ∀ l ∈ layers t policy size tokens, ∀ o, o = l.start ∨ o = l.stop →
        o ≤ cut ∨ next ≤ o := by
      intro l hl o ho
      rcases hcuts l hl o ho with h | h
      · exact .inl h
      · rcases List.mem_cons.mp h with rfl | h
        · exact .inr (Nat.le_refl _)
        · exact .inr (Nat.le_of_lt ((List.pairwise_cons.mp hlater).1 o h))
    rw [sweepSpans]
    refine ih (hkeeps.moveTo hle) (Nat.le_of_lt hlt) hlater (by simpa using hlast) ?_ ?_
    · intro l hl o ho
      rcases hcuts l hl o ho with h | h
      · exact .inl (Nat.le_trans h (Nat.le_of_lt hlt))
      · rcases List.mem_cons.mp h with rfl | h
        · exact .inl (Nat.le_refl _)
        · exact .inr h
    · refine hfound.addSpan (s := ⟨cut, next, _⟩) rfl hlt fun o ho ho' ↦ ?_
      exact (isStyleAt_moveTo hkeeps hle).of_between
        (fun l hl ↦ hbetween l hl l.start (.inl rfl))
        (fun l hl ↦ hbetween l hl l.stop (.inr rfl)) ho ho'

theorem displays_spansOf (t : Theme) (policy : SelectorPolicy) (size : Nat) (tokens : List Token) :
    Displays (IsStyleAt t policy size tokens) 0 size (spansOf t policy size tokens) := by
  have hsorted := pairwise_cuts size (layers t policy size tokens)
  have hmem := @mem_cuts_iff size (layers t policy size tokens)
  unfold spansOf
  dsimp only
  -- From here on only what the cuts contain and that they ascend is used.
  generalize cuts size (layers t policy size tokens) = cs at hsorted hmem
  have hzero : 0 ∈ cs := hmem.mpr (.inl rfl)
  have hle : ∀ o ∈ cs, o ≤ size := by
    intro o ho
    rcases hmem.mp ho with rfl | rfl | ⟨l, hl, rfl | rfl⟩
    · exact Nat.zero_le _
    · exact Nat.le_refl _
    · exact Nat.le_trans (Nat.le_of_lt (start_lt_stop_of_mem_layers hl)) (stop_le_of_mem_layers hl)
    · exact stop_le_of_mem_layers hl
  cases cs with
  | nil => simp at hzero
  | cons first later =>
    obtain ⟨hfirst, -⟩ := List.pairwise_cons.mp hsorted
    obtain rfl : 0 = first := by
      rcases List.mem_cons.mp hzero with h | h
      · exact h
      · have := hfirst 0 h
        omega
    have hlast : (0 :: later).getLast? = some size := by
      rw [List.getLast?_eq_some_getLast (List.cons_ne_nil 0 later)]
      refine congrArg some (Nat.le_antisymm (hle _ (List.getLast_mem _)) ?_)
      exact (hsorted.imp Nat.le_of_lt).rel_getLast (hmem.mpr (.inr (.inl rfl)))
    have hnone : Displays (IsStyleAt t policy size tokens) 0 0 ([] : List Span).reverse := .nil _ 0
    refine displays_sweepSpans (Sweep.keeps_ofLayers _) (Nat.le_refl 0) hsorted hlast ?_ hnone
    intro l hl o ho
    rcases List.mem_cons.mp (hmem.mpr (.inr (.inr ⟨l, hl, ho⟩))) with rfl | h
    · exact .inl (Nat.le_refl _)
    · exact .inr h

end Spans

end Highlighter
