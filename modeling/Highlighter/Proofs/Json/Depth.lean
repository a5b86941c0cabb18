import Highlighter.Json.Tree
import Mathlib.Tactic.Common

/-!
# Nesting of documents

Where a document is decoded, the room that is left for arrays and objects goes down with them. Only
whether it is enough counts: within the depth of a document, it does not matter how much room there
is.
-/

namespace Highlighter.JsonTree

mutual

/-- How deeply arrays and objects nest. -/
def depth : JsonTree → Nat
  | .array items => itemsDepth items + 1
  | .object members => membersDepth members + 1
  | _ => 0

/-- How deeply arrays and objects nest in some trees. -/
def itemsDepth : List JsonTree → Nat
  | [] => 0
  | t :: ts => max t.depth (itemsDepth ts)

/-- How deeply arrays and objects nest in the values of some members. -/
def membersDepth : List (List Char × JsonTree) → Nat
  | [] => 0
  | (_, t) :: ms => max t.depth (membersDepth ms)

end

variable {r : Nat}

theorem itemsDepth_cons_le {t : JsonTree} {ts : List JsonTree} :
    itemsDepth (t :: ts) ≤ r ↔ t.depth ≤ r ∧ itemsDepth ts ≤ r := by
  rw [itemsDepth, Nat.max_le]

theorem membersDepth_cons_le {k : List Char} {t : JsonTree} {ms : List (List Char × JsonTree)} :
    membersDepth ((k, t) :: ms) ≤ r ↔ t.depth ≤ r ∧ membersDepth ms ≤ r := by
  rw [membersDepth, Nat.max_le]

theorem itemsDepth_append (ts us : List JsonTree) :
    itemsDepth (ts ++ us) = max (itemsDepth ts) (itemsDepth us) := by
  induction ts with
  | nil => rw [List.nil_append, itemsDepth, Nat.zero_max]
  | cons t ts ih => rw [List.cons_append, itemsDepth, itemsDepth, ih, Nat.max_assoc]

theorem membersDepth_append (ms ns : List (List Char × JsonTree)) :
    membersDepth (ms ++ ns) = max (membersDepth ms) (membersDepth ns) := by
  induction ms with
  | nil => rw [List.nil_append, membersDepth, Nat.zero_max]
  | cons m ms ih => rw [List.cons_append, membersDepth, membersDepth, ih, Nat.max_assoc]

theorem itemsDepth_append_cons_le {t : JsonTree} {before after : List JsonTree} :
    itemsDepth (before ++ t :: after) ≤ r ↔
      itemsDepth before ≤ r ∧ t.depth ≤ r ∧ itemsDepth after ≤ r := by
  rw [itemsDepth_append, Nat.max_le, itemsDepth_cons_le]

theorem membersDepth_append_cons_le {k : List Char} {t : JsonTree}
    {before after : List (List Char × JsonTree)} :
    membersDepth (before ++ (k, t) :: after) ≤ r ↔
      membersDepth before ≤ r ∧ t.depth ≤ r ∧ membersDepth after ≤ r := by
  rw [membersDepth_append, Nat.max_le, membersDepth_cons_le]

theorem depth_le_of_itemsDepth_le {ts : List JsonTree} (h : itemsDepth ts ≤ r) :
    ∀ t ∈ ts, t.depth ≤ r := by
  induction ts with
  | nil => simp
  | cons t ts ih =>
    obtain ⟨ht, hts⟩ := itemsDepth_cons_le.1 h
    exact List.forall_mem_cons.2 ⟨ht, ih hts⟩

theorem depth_le_of_membersDepth_le {ms : List (List Char × JsonTree)}
    (h : membersDepth ms ≤ r) : ∀ m ∈ ms, m.2.depth ≤ r := by
  induction ms with
  | nil => simp
  | cons m ms ih =>
    obtain ⟨ht, hms⟩ := membersDepth_cons_le.1 h
    exact List.forall_mem_cons.2 ⟨ht, ih hms⟩

/-- There is room for an array. -/
theorem exists_eq_add_one_of_depth_array_le {ts : List JsonTree} (h : (array ts).depth ≤ r) :
    ∃ r₀, r = r₀ + 1 ∧ itemsDepth ts ≤ r₀ := by
  rw [depth] at h
  exact ⟨r - 1, by omega, by omega⟩

/-- There is room for an object. -/
theorem exists_eq_add_one_of_depth_object_le {ms : List (List Char × JsonTree)}
    (h : (object ms).depth ≤ r) : ∃ r₀, r = r₀ + 1 ∧ membersDepth ms ≤ r₀ := by
  rw [depth] at h
  exact ⟨r - 1, by omega, by omega⟩

/-! ## Values -/

theorem areValues_iff {ts : List JsonTree} : areValues r ts ↔ ∀ t ∈ ts, t.isValue r := by
  induction ts with
  | nil => simp [areValues]
  | cons t ts ih => simp [areValues, ih]

theorem areMembers_iff {ms : List (List Char × JsonTree)} :
    areMembers r ms ↔ ∀ m ∈ ms, (JsonText.decode? m.1).isSome ∧ m.2.isValue r := by
  induction ms with
  | nil => simp [areMembers]
  | cons m ms ih => simp [areMembers, ih]

mutual

theorem isValue_eq {r r' : Nat} (t : JsonTree) (hr : t.depth ≤ r) (hr' : t.depth ≤ r') :
    t.isValue r = t.isValue r' := by
  match t with
  | .null | .bool _ | .number _ | .string _ => simp only [isValue]
  | .array ts =>
    obtain ⟨r, rfl, hts⟩ := exists_eq_add_one_of_depth_array_le hr
    obtain ⟨r', rfl, hts'⟩ := exists_eq_add_one_of_depth_array_le hr'
    exact areValues_eq ts hts hts'
  | .object ms =>
    obtain ⟨r, rfl, hms⟩ := exists_eq_add_one_of_depth_object_le hr
    obtain ⟨r', rfl, hms'⟩ := exists_eq_add_one_of_depth_object_le hr'
    exact areMembers_eq ms hms hms'

theorem areValues_eq {r r' : Nat} (ts : List JsonTree) (hr : itemsDepth ts ≤ r)
    (hr' : itemsDepth ts ≤ r') : areValues r ts = areValues r' ts := by
  match ts with
  | [] => simp only [areValues]
  | t :: ts =>
    obtain ⟨ht, hts⟩ := itemsDepth_cons_le.1 hr
    obtain ⟨ht', hts'⟩ := itemsDepth_cons_le.1 hr'
    rw [areValues, areValues, isValue_eq t ht ht', areValues_eq ts hts hts']

theorem areMembers_eq {r r' : Nat} (ms : List (List Char × JsonTree)) (hr : membersDepth ms ≤ r)
    (hr' : membersDepth ms ≤ r') : areMembers r ms = areMembers r' ms := by
  match ms with
  | [] => simp only [areMembers]
  | (k, t) :: ms =>
    obtain ⟨ht, hms⟩ := membersDepth_cons_le.1 hr
    obtain ⟨ht', hms'⟩ := membersDepth_cons_le.1 hr'
    rw [areMembers, areMembers, isValue_eq t ht ht', areMembers_eq ms hms hms']

end

end Highlighter.JsonTree
