import Highlighter.Proofs.Json.Depth

/-!
# Places in documents

A place in a document is given by the arrays and objects that it lies in, with what stands before
and after it in each of them. To fill the places is to put the document together again.
-/

namespace Highlighter.JsonTree

/-- A place in an array or an object, with what stands before and after it. -/
inductive Place where
  | item (before after : List JsonTree)
  | member (before : List (List Char × JsonTree)) (key : List Char)
    (after : List (List Char × JsonTree))

namespace Place

/-- The array or object with a tree at the place. -/
def fill : Place → JsonTree → JsonTree
  | item before after, t => .array (before ++ t :: after)
  | member before key after, t => .object (before ++ (key, t) :: after)

/-- The tree with another one at a place some arrays and objects down, from the outermost one. -/
def fillAll (places : List Place) (t : JsonTree) : JsonTree := places.foldr fill t

/-- Whether a place is that of a field, where arrays have fields in a given order, and objects name
them by keys. -/
def IsOf {φ : Type} (order : List φ) (ofKey? : String → Option φ) (f : φ) : Place → Prop
  | item before _ => order[before.length]? = some f
  | member _ key _ => (JsonText.decode? key).bind ofKey? = some f

end Place

variable {r : Nat} {t : JsonTree}

/-- There is room around a place, and less room at the place. -/
theorem Place.exists_room {place : Place} (h : (place.fill t).depth ≤ r) :
    ∃ r₀, r = r₀ + 1 ∧ t.depth ≤ r₀ ∧
      ∀ t', t'.depth ≤ t.depth → (place.fill t').depth ≤ r₀ + 1 := by
  cases place with
  | item before after =>
    obtain ⟨r₀, rfl, hitems⟩ := exists_eq_add_one_of_depth_array_le h
    obtain ⟨hbefore, ht, hafter⟩ := itemsDepth_append_cons_le.1 hitems
    exact ⟨r₀, rfl, ht, fun t' ht' ↦ Nat.succ_le_succ (itemsDepth_append_cons_le.2
      ⟨hbefore, Nat.le_trans ht' ht, hafter⟩)⟩
  | member before key after =>
    obtain ⟨r₀, rfl, hmembers⟩ := exists_eq_add_one_of_depth_object_le h
    obtain ⟨hbefore, ht, hafter⟩ := membersDepth_append_cons_le.1 hmembers
    exact ⟨r₀, rfl, ht, fun t' ht' ↦ Nat.succ_le_succ (membersDepth_append_cons_le.2
      ⟨hbefore, Nat.le_trans ht' ht, hafter⟩)⟩

theorem Place.depth_lt_fill (place : Place) (t : JsonTree) : t.depth < (place.fill t).depth := by
  obtain ⟨r, hr, ht, -⟩ := Place.exists_room (Nat.le_refl (place.fill t).depth)
  omega

theorem Place.length_add_depth_le (places : List Place) (t : JsonTree) :
    places.length + t.depth ≤ (fillAll places t).depth := by
  induction places with
  | nil => exact Nat.le_of_eq (Nat.zero_add _)
  | cons place places ih =>
    have hfill := place.depth_lt_fill (fillAll places t)
    rw [List.length_cons]
    exact Nat.le_trans (by omega) hfill

theorem areMembers_append_cons {before after : List (List Char × JsonTree)} {k : List Char} :
    areMembers r (before ++ (k, t) :: after) =
      (areMembers r (before ++ after) && ((JsonText.decode? k).isSome && t.isValue r)) := by
  rw [Bool.eq_iff_iff]
  simp only [Bool.and_eq_true, areMembers_iff, List.forall_mem_append, List.forall_mem_cons]
  tauto

end Highlighter.JsonTree
