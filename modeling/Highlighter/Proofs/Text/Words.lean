import Highlighter.Text.Words

/-!
# White space and pieces

The table of white space, as ranges. The characters of ASCII that can be seen are not in it.
Trimming takes white space from both ends of a text and nothing else, so a text in which nothing is
white space is not changed by it. In the same way, a text is its only piece if nothing in it
separates pieces. Cut at a separator, a text has the pieces before it and those after it.
-/

namespace Highlighter

theorem Unicode.whiteSpace_eq : whiteSpace = ⟨#[(9, 13), (32, 32), (133, 133), (160, 160),
    (5760, 5760), (8192, 8202), (8232, 8233), (8239, 8239), (8287, 8287), (12288, 12288)]⟩ := by
  unfold whiteSpace rangeTable CharSet.ofRanges
  -- The ranges are in order already. Sorting itself does not evaluate.
  rw [List.mergeSort_of_pairwise (by decide)]
  decide +kernel

namespace Words

theorem isBlank_eq : isBlank = CharSet.contains ⟨#[(9, 13), (32, 32), (133, 133), (160, 160),
    (5760, 5760), (8192, 8202), (8232, 8233), (8239, 8239), (8287, 8287), (12288, 12288)]⟩ := by
  funext c
  rw [isBlank, Unicode.whiteSpace_eq]

theorem isBlank_eq_false {c : Char} (h : 32 < c.toNat) (h' : c.toNat < 133) :
    isBlank c = false := by
  have hge : ¬c.toNat < 32 := Nat.not_lt_of_gt h
  have hlt : c.toNat < 8192 := Nat.lt_trans h' (by decide)
  rw [isBlank_eq, CharSet.contains, CharSet.containsCode]
  -- The search halves the ranges until none is left.
  simp [CharSet.search, h, h', hge, hlt]

theorem dropWhile_isBlank {cs : List Char} (h : ∀ c ∈ cs, isBlank c = false) :
    cs.dropWhile isBlank = cs := by
  cases cs with
  | nil => rfl
  | cons c cs => exact List.dropWhile_cons_of_neg (by simp [h c])

theorem trim_eq_self {s : String} (h : ∀ c ∈ s.toList, isBlank c = false) : trim s = s := by
  rw [trim, trimChars, dropWhile_isBlank h,
    dropWhile_isBlank fun c hc ↦ h c (List.mem_reverse.mp hc), List.reverse_reverse,
    String.ofList_toList]

/-- Around what trimming leaves there is only white space. -/
theorem exists_eq_append_trimChars (cs : List Char) :
    ∃ before after, (∀ c ∈ before, isBlank c = true) ∧ (∀ c ∈ after, isBlank c = true) ∧
      cs = before ++ trimChars cs ++ after := by
  have hall (l : List Char) : ∀ c ∈ l.takeWhile isBlank, isBlank c = true :=
    List.all_eq_true.mp List.all_takeWhile
  refine ⟨cs.takeWhile isBlank, ((cs.dropWhile isBlank).reverse.takeWhile isBlank).reverse,
    hall cs, fun c hc ↦ hall _ c (List.mem_reverse.mp hc), ?_⟩
  rw [trimChars, List.append_assoc, ← List.reverse_append, List.takeWhile_append_dropWhile,
    List.reverse_reverse, List.takeWhile_append_dropWhile]

/-- White space around a text is taken away, if the text neither begins nor ends with any. -/
theorem trimChars_append {before cs after : List Char} (hbefore : ∀ c ∈ before, isBlank c = true)
    (hafter : ∀ c ∈ after, isBlank c = true) (hne : cs ≠ [])
    (hhead : ∀ c ∈ cs.head?, isBlank c = false) (hlast : ∀ c ∈ cs.getLast?, isBlank c = false) :
    trimChars (before ++ cs ++ after) = cs := by
  have hdrop {l : List Char} (rest : List Char) (hl : l ≠ [])
      (h : ∀ c ∈ l.head?, isBlank c = false) : (l ++ rest).dropWhile isBlank = l ++ rest := by
    obtain ⟨c, l, rfl⟩ := List.exists_cons_of_ne_nil hl
    exact List.dropWhile_cons_of_neg (by simp [h c rfl])
  have hreverse : (after.reverse ++ cs.reverse).dropWhile isBlank = cs.reverse := by
    rw [List.dropWhile_append_of_pos fun c hc ↦ hafter c (List.mem_reverse.mp hc)]
    have h := hdrop [] (List.reverse_ne_nil_iff.mpr hne) (by rwa [List.head?_reverse])
    rwa [List.append_nil] at h
  rw [trimChars, List.append_assoc, List.dropWhile_append_of_pos hbefore, hdrop after hne hhead,
    List.reverse_append, hreverse, List.reverse_reverse]

theorem mem_of_mem_trimChars {c : Char} {cs : List Char} (h : c ∈ trimChars cs) : c ∈ cs := by
  obtain ⟨before, after, -, -, hcs⟩ := exists_eq_append_trimChars cs
  rw [hcs]
  exact List.mem_append_left _ (List.mem_append_right _ h)

/-! ## Pieces -/

variable {separates : Char → Bool} {c : Char} {cs p : List Char}

theorem piecesChars_eq_splitOnP (separates : Char → Bool) (cs : List Char) :
    piecesChars separates cs = cs.splitOnP separates := by
  induction cs with
  | nil => rfl
  | cons c cs ih =>
    rw [piecesChars, List.splitOnP_cons_eq_if_modifyHead, ih]
    split
    · rfl
    · split
      · next hnil => exact absurd hnil (List.splitOnP_ne_nil separates cs)
      · next hcons => rw [hcons, List.modifyHead_cons]

theorem piecesChars_append_cons (hc : separates c = true) (cs cs' : List Char) :
    piecesChars separates (cs ++ c :: cs') =
      piecesChars separates cs ++ piecesChars separates cs' := by
  simp only [piecesChars_eq_splitOnP]
  exact List.splitOnP_append_cons cs cs' hc

theorem pieces_append_singleton (separator : Char) (s s' : String) :
    pieces separator (s ++ String.singleton separator ++ s') =
      pieces separator s ++ pieces separator s' := by
  simp only [pieces, String.toList_append, String.toList_singleton, List.append_assoc,
    List.singleton_append]
  rw [piecesChars_append_cons (by simp), List.map_append]

theorem piecesChars_eq_singleton (h : ∀ c ∈ cs, separates c = false) :
    piecesChars separates cs = [cs] := by
  induction cs with
  | nil => rfl
  | cons c cs ih =>
    rw [List.forall_mem_cons] at h
    rw [piecesChars, if_neg (by simp [h.1]), ih h.2]

theorem eq_false_of_mem_piecesChars (hp : p ∈ piecesChars separates cs) :
    ∀ c ∈ p, separates c = false := by
  induction cs generalizing p with
  | nil =>
    obtain rfl := List.mem_singleton.mp hp
    exact List.forall_mem_nil _
  | cons c cs ih =>
    rw [piecesChars] at hp
    split at hp
    · rcases List.mem_cons.mp hp with rfl | hp
      · exact List.forall_mem_nil _
      · exact ih hp
    · next hc =>
      rw [Bool.not_eq_true] at hc
      split at hp
      · obtain rfl := List.mem_singleton.mp hp
        exact List.forall_mem_singleton.mpr hc
      · next q qs hpieces =>
        rcases List.mem_cons.mp hp with rfl | hp
        · exact List.forall_mem_cons.mpr ⟨hc, ih (hpieces ▸ List.mem_cons_self)⟩
        · exact ih (hpieces ▸ List.mem_cons_of_mem q hp)

end Words

end Highlighter
