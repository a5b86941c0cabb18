import Highlighter.SortedMap
import Mathlib.Data.List.Perm.Basic
import Mathlib.Order.Defs.LinearOrder

/-!
# Maps by what they contain

Entries in ascending order are told by the values of their keys. An entry that is put in is found
under its key and changes nothing else (`lookup_insertEntry_self`, `lookup_insertEntry_of_ne`), and
entries with different keys can be put in in any order (`foldl_insertEntry_eq_of_perm`). What is
stated on `SortedMap` follows from what is stated on lists of entries.
-/

namespace Highlighter

variable {κ α : Type} [LT κ] {k k' : κ} {a : α}

/-! ## Entries in ascending order -/

section Ascending

variable [Std.Asymm (α := κ) (· < ·)] {l l' : List (κ × α)}

theorem lookup_eq_some_iff_mem [BEq κ] [LawfulBEq κ] (h : l.Pairwise (·.1 < ·.1)) :
    l.lookup k = some a ↔ (k, a) ∈ l := by
  induction l with
  | nil => simp
  | cons e rest ih =>
    obtain ⟨k', a'⟩ := e
    obtain ⟨hfirst, hrest⟩ := List.pairwise_cons.mp h
    by_cases hk : k = k'
    · subst hk
      have hnot : (k, a) ∉ rest := fun hmem ↦ Std.Irrefl.irrefl (r := (· < ·)) k (hfirst _ hmem)
      simp [hnot, eq_comm]
    · rw [List.lookup_cons, beq_false_of_ne hk]
      simp [ih hrest, hk]

theorem eq_of_perm_of_ascending (hperm : l.Perm l') (h : l.Pairwise (·.1 < ·.1))
    (h' : l'.Pairwise (·.1 < ·.1)) : l = l' :=
  hperm.eq_of_pairwise (fun _ _ _ _ hlt hlt' ↦ absurd hlt' (Std.Asymm.asymm _ _ hlt)) h h'

end Ascending

theorem pairwise_foldl_insertEntry [DecidableLT κ]
    [Trans (α := κ) (β := κ) (γ := κ) (· < ·) (· < ·) (· < ·)] {l l' : List (κ × α)}
    (h : l'.Pairwise (·.1 < ·.1)) :
    (l.foldl (fun acc e ↦ insertEntry e.1 e.2 acc) l').Pairwise (·.1 < ·.1) := by
  induction l generalizing l' with
  | nil => exact h
  | cons e rest ih => exact ih (pairwise_insertEntry h)

/-! ## Putting entries in -/

theorem insertEntry_ne_nil [DecidableLT κ] (k : κ) (a : α) (l : List (κ × α)) :
    insertEntry k a l ≠ [] := by
  cases l with
  | nil => exact List.cons_ne_nil _ _
  | cons e rest =>
    rw [insertEntry]
    split
    · exact List.cons_ne_nil _ _
    · split <;> exact List.cons_ne_nil _ _

section Insert

variable [DecidableLT κ] [Std.Trichotomous (α := κ) (· < ·)] {l l' : List (κ × α)}

theorem lookup_insertEntry_self [Std.Asymm (α := κ) (· < ·)] [BEq κ] [LawfulBEq κ] (k : κ) (a : α)
    (l : List (κ × α)) : (insertEntry k a l).lookup k = some a := by
  induction l with
  | nil => exact List.lookup_cons_self
  | cons e rest ih =>
    obtain ⟨k', a'⟩ := e
    rw [insertEntry]
    split
    · exact List.lookup_cons_self
    · next hnot =>
      split
      · next hlt =>
        have hne : k ≠ k' := fun heq ↦ hnot (heq ▸ hlt)
        rw [List.lookup_cons, beq_false_of_ne hne]
        exact ih
      · next hnot' =>
        rw [Std.Trichotomous.trichotomous k k' hnot hnot']
        exact List.lookup_cons_self

theorem lookup_insertEntry_of_ne [BEq κ] [LawfulBEq κ] (hne : k' ≠ k) (a : α)
    (l : List (κ × α)) : (insertEntry k a l).lookup k' = l.lookup k' := by
  induction l with
  | nil => rw [insertEntry, List.lookup_cons, beq_false_of_ne hne]
  | cons e rest ih =>
    obtain ⟨k'', a''⟩ := e
    rw [insertEntry]
    split
    · rw [List.lookup_cons, beq_false_of_ne hne]
    · next hnot =>
      split
      · rw [List.lookup_cons, List.lookup_cons, ih]
      · next hnot' =>
        obtain rfl := Std.Trichotomous.trichotomous k k'' hnot hnot'
        rw [List.lookup_cons, List.lookup_cons, beq_false_of_ne hne]

theorem eq_or_mem_of_mem_insertEntry {e : κ × α} (h : e ∈ insertEntry k a l) :
    e = (k, a) ∨ e ∈ l := by
  induction l with
  | nil => exact .inl (List.mem_singleton.mp h)
  | cons e' rest ih =>
    rw [insertEntry] at h
    split at h
    · exact List.mem_cons.mp h
    · next hnot =>
      split at h
      · rcases List.mem_cons.mp h with rfl | h
        · exact .inr List.mem_cons_self
        · exact (ih h).imp_right (List.mem_cons_of_mem _)
      · next hnot' =>
        rw [Std.Trichotomous.trichotomous k _ hnot hnot']
        exact (List.mem_cons.mp h).imp_right (List.mem_cons_of_mem _)

theorem mem_of_mem_foldl_insertEntry {e : κ × α}
    (h : e ∈ l.foldl (fun acc e ↦ insertEntry e.1 e.2 acc) l') : e ∈ l ∨ e ∈ l' := by
  induction l generalizing l' with
  | nil => exact .inr h
  | cons e' rest ih =>
    rcases ih h with h | h
    · exact .inl (List.mem_cons_of_mem _ h)
    · rcases eq_or_mem_of_mem_insertEntry h with rfl | h
      · exact .inl List.mem_cons_self
      · exact .inr h

theorem perm_insertEntry (h : ∀ e ∈ l, e.1 ≠ k) (a : α) :
    (insertEntry k a l).Perm ((k, a) :: l) := by
  induction l with
  | nil => exact .refl _
  | cons e rest ih =>
    obtain ⟨k', a'⟩ := e
    rw [insertEntry]
    split
    · exact .refl _
    · next hnot =>
      split
      · exact ((ih fun e he ↦ h e (List.mem_cons_of_mem _ he)).cons _).trans (.swap _ _ _)
      · next hnot' =>
        exact absurd (Std.Trichotomous.trichotomous k k' hnot hnot').symm (h _ List.mem_cons_self)

theorem perm_foldl_insertEntry (hl : l.Pairwise (·.1 ≠ ·.1)) (h : ∀ e ∈ l, ∀ e' ∈ l', e'.1 ≠ e.1) :
    (l.foldl (fun acc e ↦ insertEntry e.1 e.2 acc) l').Perm (l ++ l') := by
  induction l generalizing l' with
  | nil => exact .refl _
  | cons e rest ih =>
    obtain ⟨hfirst, hrest⟩ := List.pairwise_cons.mp hl
    have hperm := perm_insertEntry (h e List.mem_cons_self) e.2
    refine (ih hrest fun e' he' e'' he'' ↦ ?_).trans ?_
    · rcases List.mem_cons.mp (hperm.mem_iff.mp he'') with rfl | he''
      · exact hfirst e' he'
      · exact h e' (List.mem_cons_of_mem _ he') e'' he''
    · exact (hperm.append_left rest).trans List.perm_middle

/-- **The order in which entries are put in does not count** if their keys are different. -/
theorem foldl_insertEntry_eq_of_perm [Std.Asymm (α := κ) (· < ·)]
    [Trans (α := κ) (β := κ) (γ := κ) (· < ·) (· < ·) (· < ·)] (hperm : l.Perm l')
    (h : l'.Pairwise (·.1 < ·.1)) : l.foldl (fun acc e ↦ insertEntry e.1 e.2 acc) [] = l' := by
  have hne : l.Pairwise (·.1 ≠ ·.1) := by
    refine hperm.symm.pairwise (h.imp fun hlt heq ↦ ?_) fun hne ↦ hne.symm
    exact Std.Irrefl.irrefl (r := (· < ·)) _ (heq ▸ hlt)
  have hfold : (l.foldl (fun acc e ↦ insertEntry e.1 e.2 acc) []).Perm (l ++ []) :=
    perm_foldl_insertEntry hne fun _ _ _ he ↦ nomatch he
  rw [List.append_nil] at hfold
  exact eq_of_perm_of_ascending (hfold.trans hperm) (pairwise_foldl_insertEntry .nil) h

end Insert

/-! ## Maps -/

namespace SortedMap

theorem pairwise_keys (m : SortedMap κ α) : m.keys.Pairwise (· < ·) :=
  List.pairwise_map.mpr m.ascending

section GetEntry

variable [Std.Asymm (α := κ) (· < ·)] [BEq κ] [LawfulBEq κ] {m : SortedMap κ α}

theorem get?_eq_some_iff_mem : m.get? k = some a ↔ (k, a) ∈ m.entries :=
  lookup_eq_some_iff_mem m.ascending

/-- The keys are those that have a value. -/
theorem mem_keys_iff : k ∈ m.keys ↔ ∃ a, m.get? k = some a := by
  simp [keys, get?_eq_some_iff_mem]

end GetEntry

section InsertEntry

variable [DecidableLT κ] [Trans (α := κ) (β := κ) (γ := κ) (· < ·) (· < ·) (· < ·)]

theorem get?_insert [Std.Trichotomous (α := κ) (· < ·)] [Std.Asymm (α := κ) (· < ·)]
    [DecidableEq κ] (m : SortedMap κ α) (k k' : κ) (a : α) :
    (m.insert k a).get? k' = if k' = k then some a else m.get? k' := by
  split
  · next heq => rw [heq, get?, insert, lookup_insertEntry_self]
  · next hne => exact lookup_insertEntry_of_ne hne a m.entries

theorem entries_foldl_insert (l : List (κ × α)) (m : SortedMap κ α) :
    (l.foldl (fun m e ↦ m.insert e.1 e.2) m).entries =
      l.foldl (fun acc e ↦ insertEntry e.1 e.2 acc) m.entries := by
  induction l generalizing m with
  | nil => rfl
  | cons e rest ih => exact ih (m.insert e.1 e.2)

/-- **The map of a list** that has the entries of a map in any order is this map. -/
theorem ofList_eq_of_perm [Std.Trichotomous (α := κ) (· < ·)] [Std.Asymm (α := κ) (· < ·)]
    {m : SortedMap κ α} {l : List (κ × α)} (h : l.Perm m.entries) : ofList l = m := by
  have hentries : (ofList l).entries = m.entries :=
    (entries_foldl_insert l empty).trans (foldl_insertEntry_eq_of_perm h m.ascending)
  cases hm : ofList l
  rw [hm] at hentries
  cases m
  cases hentries
  rfl

end InsertEntry

end SortedMap

end Highlighter
