/-!
# Maps in ascending order of key

Styles, rule repositories and capture tables are listed in the order of their keys. They are
therefore kept in that order, and two maps with the same contents are the same value.

The operations are stated on plain lists of entries first, because a recursive type cannot mention
the proof that its own entries are in order; `SortedMap` adds that proof where it can be had.
-/

namespace Highlighter

/-! ## Lists of entries -/

/-- Puts an entry into a list of entries in ascending order, in place of one with the same key. -/
def insertEntry {κ α : Type} [LT κ] [DecidableLT κ] (k : κ) (a : α) :
    List (κ × α) → List (κ × α)
  | [] => [(k, a)]
  | (k', a') :: rest =>
    if k < k' then (k, a) :: (k', a') :: rest
    else if k' < k then (k', a') :: insertEntry k a rest
    else (k', a) :: rest

theorem forall_key_insertEntry {κ α : Type} [LT κ] [DecidableLT κ] {P : κ → Prop} {k : κ} {a : α}
    {l : List (κ × α)} (hk : P k) (hl : ∀ e ∈ l, P e.1) : ∀ e ∈ insertEntry k a l, P e.1 := by
  induction l with
  | nil => simpa [insertEntry] using hk
  | cons e rest ih =>
    obtain ⟨k', a'⟩ := e
    have hk' := hl (k', a') (by simp)
    have hrest : ∀ e ∈ rest, P e.1 := fun e he ↦ hl e (List.mem_cons_of_mem _ he)
    simp only [insertEntry]
    split
    · intro e he
      rcases List.mem_cons.1 he with rfl | he
      · exact hk
      · exact hl e he
    · split
      · intro e he
        rcases List.mem_cons.1 he with rfl | he
        · exact hk'
        · exact ih hrest e he
      · intro e he
        rcases List.mem_cons.1 he with rfl | he
        · exact hk'
        · exact hrest e he

theorem pairwise_insertEntry {κ α : Type} [LT κ] [DecidableLT κ]
    [Trans (α := κ) (β := κ) (γ := κ) (· < ·) (· < ·) (· < ·)] {k : κ} {a : α} {l : List (κ × α)}
    (h : l.Pairwise (·.1 < ·.1)) : (insertEntry k a l).Pairwise (·.1 < ·.1) := by
  induction l with
  | nil => simp [insertEntry]
  | cons e rest ih =>
    obtain ⟨k', a'⟩ := e
    obtain ⟨hk', hrest⟩ := List.pairwise_cons.1 h
    simp only [insertEntry]
    split
    · next hlt =>
      refine List.pairwise_cons.2 ⟨fun e he ↦ ?_, h⟩
      rcases List.mem_cons.1 he with rfl | he
      · exact hlt
      · exact Trans.trans hlt (hk' e he)
    · split
      · next hlt =>
        exact List.pairwise_cons.2 ⟨forall_key_insertEntry hlt hk', ih hrest⟩
      · exact List.pairwise_cons.2 ⟨hk', hrest⟩

/-! ## Maps -/

/-- Entries in ascending order of key. -/
structure SortedMap (κ α : Type) [LT κ] where
  entries : List (κ × α)
  ascending : entries.Pairwise (·.1 < ·.1)
deriving DecidableEq

namespace SortedMap

variable {κ α : Type} [LT κ]

/-- The map without entries. -/
def empty : SortedMap κ α := ⟨[], .nil⟩

instance : Inhabited (SortedMap κ α) := ⟨empty⟩

/-- The value of a key. -/
def get? [BEq κ] (m : SortedMap κ α) (k : κ) : Option α :=
  m.entries.lookup k

theorem mem_of_get?_eq_some [BEq κ] [LawfulBEq κ] {m : SortedMap κ α} {k : κ} {a : α}
    (h : m.get? k = some a) : (k, a) ∈ m.entries := by
  obtain ⟨l₁, l₂, hentries, -⟩ := List.lookup_eq_some_iff.1 h
  simp [hentries]

/-- The keys in ascending order. -/
def keys (m : SortedMap κ α) : List κ := m.entries.map (·.1)

/-- Whether there are no entries. -/
def isEmpty (m : SortedMap κ α) : Bool := m.entries.isEmpty

instance : Trans (α := String) (β := String) (γ := String) (· < ·) (· < ·) (· < ·) :=
  ⟨String.lt_trans⟩

variable [DecidableLT κ] [Trans (α := κ) (β := κ) (γ := κ) (· < ·) (· < ·) (· < ·)]

/-- Gives a key a value, in place of the one it has. -/
def insert (m : SortedMap κ α) (k : κ) (a : α) : SortedMap κ α :=
  ⟨insertEntry k a m.entries, pairwise_insertEntry m.ascending⟩

/-- The map of a list of entries, in which a later value of a key replaces an earlier one. -/
def ofList (l : List (κ × α)) : SortedMap κ α :=
  l.foldl (fun m e ↦ m.insert e.1 e.2) empty

end SortedMap

end Highlighter
