import Highlighter.Proofs.Grammar.Fields
import Highlighter.Proofs.Json.Depth
import Highlighter.Proofs.SortedMap

/-!
# Patterns inside captures

The patterns that are assigned to a capture group are decoded in another way than the other ones.
What the two ways have in common is put as `Restricts`: one gives what the other gives, except that
it fails where the result lacks some property. Decoding below a capture is decoding restricted to
flat patterns (`Pattern.restricts_ofTree?`), as long as there is room.
-/

namespace Highlighter

/-! ## Restrictions -/

/-- `x` is what `y` is, but fails where the result lacks a property. -/
def Restricts {α : Type} (P : α → Prop) (x y : Option α) : Prop :=
  ∀ a, x = some a ↔ y = some a ∧ P a

namespace Restricts

variable {α β : Type} {P : α → Prop} {Q : β → Prop} {x y : Option α}

theorem refl (h : ∀ a, x = some a → P a) : Restricts P x x :=
  fun a ↦ ⟨fun hx ↦ ⟨hx, h a hx⟩, And.left⟩

theorem eq (h : Restricts P x y) (hP : ∀ a, P a) : x = y :=
  Option.ext fun a ↦ (h a).trans (and_iff_left (hP a))

theorem bind (h : Restricts P x y) {g : α → Option β} (hg : ∀ a b, g a = some b → (Q b ↔ P a)) :
    Restricts Q (x.bind g) (y.bind g) := by
  intro b
  simp only [Option.bind_eq_some_iff]
  constructor
  · rintro ⟨a, hx, hb⟩
    obtain ⟨hy, ha⟩ := (h a).1 hx
    exact ⟨⟨a, hy, hb⟩, (hg a b hb).2 ha⟩
  · rintro ⟨⟨a, hy, hb⟩, hQ⟩
    exact ⟨a, (h a).2 ⟨hy, (hg a b hb).1 hQ⟩, hb⟩

theorem map (h : Restricts P x y) {g : α → β} (hg : ∀ a, Q (g a) ↔ P a) :
    Restricts Q (x.map g) (y.map g) := by
  rw [Option.map_eq_bind, Option.map_eq_bind]
  exact h.bind fun a b hb ↦ by rw [← hg a, ← Option.some.inj hb]

theorem cons {xs ys : Option (List α)} (h : Restricts P x y)
    (hs : Restricts (fun as ↦ ∀ a ∈ as, P a) xs ys) :
    Restricts (fun as ↦ ∀ a ∈ as, P a) (do return (← x) :: (← xs)) (do return (← y) :: (← ys)) := by
  rintro (_ | ⟨a, as⟩)
  · simp [Option.bind_eq_some_iff]
  · simp [Option.bind_eq_some_iff, h a, hs as, and_and_and_comm]

end Restricts

/-! ## Decoding below captures -/

/-- A pattern is flat if the fields that make it up are, so restricting these restricts it. -/
theorem Restricts.pattern? {c : Bool} {x y : Option (List AssignedField)}
    (h : Restricts (∀ a ∈ ·, c → a.IsFlat) x y) :
    Restricts (fun p ↦ c → p.IsFlat) (x.bind AssignedField.pattern?)
      (y.bind AssignedField.pattern?) := by
  refine h.bind fun as p hp ↦ ?_
  rw [AssignedField.isFlat_iff_of_pattern?_eq_some hp]
  exact ⟨fun h a ha hc ↦ h hc a ha, fun h hc a ha ↦ h a ha hc⟩

theorem sortCaptures_eq_nil {l : List (Nat × Capture Pattern)} :
    sortCaptures l = [] ↔ l = [] := by
  rcases List.eq_nil_or_concat l with rfl | ⟨l, e, rfl⟩
  · exact iff_of_true rfl rfl
  · rw [sortCaptures, List.concat_eq_append, List.foldl_append]
    exact iff_of_false (insertEntry_ne_nil _ _ _) (by simp)

theorem Pattern.ofTree?_eq_none {c : Bool} {r : Nat} {t : JsonTree} (h : t.depth = 0) :
    Pattern.ofTree? c r t = none := by
  cases r <;> cases t <;> first | rfl | cases h

/-- The fields that assign to capture groups. -/
def PatternField.tables : List PatternField := [.captures, .beginCaptures, .endCaptures]

theorem fieldOfTree?_patterns_eq_none {c : Bool} {r : Nat} {t : JsonTree}
    (h : ∀ ts, t ≠ .array ts) : fieldOfTree? c r .patterns t = none := by
  cases r <;> cases t <;> first | rfl | exact absurd rfl (h _)

theorem fieldOfTree?_table_eq_none {c : Bool} {r : Nat} {f : PatternField} {t : JsonTree}
    (hf : f ∈ PatternField.tables) (h : ∀ ms, t ≠ .object ms) : fieldOfTree? c r f t = none := by
  simp only [PatternField.tables, List.mem_cons, List.not_mem_nil, or_false] at hf
  rcases hf with rfl | rfl | rfl <;> cases r <;> cases t <;> first | rfl | exact absurd rfl (h _)

mutual

/-- Decoding below a capture is decoding elsewhere, restricted to flat patterns. How much room there
is does not matter. -/
theorem Pattern.restricts_ofTree? (c : Bool) {r r' : Nat} (t : JsonTree) (hr : t.depth ≤ r)
    (hr' : t.depth ≤ r') :
    Restricts (fun p ↦ c → p.IsFlat) (Pattern.ofTree? c r t) (Pattern.ofTree? false r' t) := by
  match t with
  | .object ms =>
    obtain ⟨r, rfl, hms⟩ := JsonTree.exists_eq_add_one_of_depth_object_le hr
    obtain ⟨r', rfl, hms'⟩ := JsonTree.exists_eq_add_one_of_depth_object_le hr'
    rw [Pattern.ofTree?, Pattern.ofTree?]
    exact (restricts_memberFields c ms hms hms').pattern?
  | .array ts =>
    obtain ⟨r, rfl, hts⟩ := JsonTree.exists_eq_add_one_of_depth_array_le hr
    obtain ⟨r', rfl, hts'⟩ := JsonTree.exists_eq_add_one_of_depth_array_le hr'
    rw [Pattern.ofTree?, Pattern.ofTree?]
    exact (restricts_itemFields c PatternField.order ts hts hts').pattern?
  | .null | .bool _ | .number _ | .string _ =>
    rw [Pattern.ofTree?_eq_none rfl, Pattern.ofTree?_eq_none rfl]
    exact .refl (by simp)

theorem restricts_patternsOfTrees? (c : Bool) {r r' : Nat} (ts : List JsonTree)
    (hr : JsonTree.itemsDepth ts ≤ r) (hr' : JsonTree.itemsDepth ts ≤ r') :
    Restricts (∀ p ∈ ·, c → p.IsFlat) (patternsOfTrees? c r ts) (patternsOfTrees? false r' ts) := by
  match ts with
  | [] =>
    simp only [patternsOfTrees?]
    exact .refl (by simp)
  | t :: ts =>
    obtain ⟨ht, hts⟩ := JsonTree.itemsDepth_cons_le.1 hr
    obtain ⟨ht', hts'⟩ := JsonTree.itemsDepth_cons_le.1 hr'
    rw [patternsOfTrees?, patternsOfTrees?]
    exact (Pattern.restricts_ofTree? c t ht ht').cons (restricts_patternsOfTrees? c ts hts hts')

theorem restricts_memberFields (c : Bool) {r r' : Nat} (ms : List (List Char × JsonTree))
    (hr : JsonTree.membersDepth ms ≤ r) (hr' : JsonTree.membersDepth ms ≤ r') :
    Restricts (∀ a ∈ ·, c → a.IsFlat) (memberFields c r ms) (memberFields false r' ms) := by
  match ms with
  | [] =>
    simp only [memberFields]
    exact .refl (by simp)
  | (k, t) :: ms =>
    obtain ⟨ht, hms⟩ := JsonTree.membersDepth_cons_le.1 hr
    obtain ⟨ht', hms'⟩ := JsonTree.membersDepth_cons_le.1 hr'
    rw [memberFields, memberFields]
    cases JsonText.decode? k with
    | none => exact .refl (by simp)
    | some key =>
      dsimp only
      cases PatternField.ofKey? key with
      | none => exact restricts_memberFields c ms hms hms'
      | some f =>
        exact (restricts_fieldOfTree? c f t ht ht').cons (restricts_memberFields c ms hms hms')

theorem restricts_itemFields (c : Bool) {r r' : Nat} (fs : List PatternField) (ts : List JsonTree)
    (hr : JsonTree.itemsDepth ts ≤ r) (hr' : JsonTree.itemsDepth ts ≤ r') :
    Restricts (∀ a ∈ ·, c → a.IsFlat) (itemFields c r fs ts) (itemFields false r' fs ts) := by
  match ts, fs with
  | [], _ =>
    simp only [itemFields]
    exact .refl (by simp)
  | _ :: _, [] =>
    simp only [itemFields]
    exact .refl (by simp)
  | t :: ts, f :: fs =>
    obtain ⟨ht, hts⟩ := JsonTree.itemsDepth_cons_le.1 hr
    obtain ⟨ht', hts'⟩ := JsonTree.itemsDepth_cons_le.1 hr'
    rw [itemFields, itemFields]
    exact (restricts_fieldOfTree? c f t ht ht').cons (restricts_itemFields c fs ts hts hts')

theorem restricts_fieldOfTree? (c : Bool) {r r' : Nat} (f : PatternField) (t : JsonTree)
    (hr : t.depth ≤ r) (hr' : t.depth ≤ r') :
    Restricts (fun a ↦ c → a.IsFlat) (fieldOfTree? c r f t) (fieldOfTree? false r' f t) := by
  cases f with
  | patterns =>
    cases t with
    | array ts =>
      obtain ⟨r, rfl, hts⟩ := JsonTree.exists_eq_add_one_of_depth_array_le hr
      obtain ⟨r', rfl, hts'⟩ := JsonTree.exists_eq_add_one_of_depth_array_le hr'
      rw [fieldOfTree?, fieldOfTree?]
      refine (restricts_patternsOfTrees? c ts hts hts').map fun ps ↦ ?_
      exact ⟨fun h a ha hc ↦ h hc a ha, fun h hc a ha ↦ h a ha hc⟩
    | _ =>
      rw [fieldOfTree?_patterns_eq_none (by simp), fieldOfTree?_patterns_eq_none (by simp)]
      exact .refl (by simp)
  | captures | beginCaptures | endCaptures =>
    cases t with
    | object ms =>
      obtain ⟨r, rfl, hms⟩ := JsonTree.exists_eq_add_one_of_depth_object_le hr
      obtain ⟨r', rfl, hms'⟩ := JsonTree.exists_eq_add_one_of_depth_object_le hr'
      rw [fieldOfTree?, fieldOfTree?]
      refine (restricts_captureEntries c ms hms hms').map fun l ↦ ?_
      exact imp_congr_right fun _ ↦ sortCaptures_eq_nil
    | _ =>
      rw [fieldOfTree?_table_eq_none (by decide) (by simp),
        fieldOfTree?_table_eq_none (by decide) (by simp)]
      exact .refl (by simp)
  | _ =>
    simp only [fieldOfTree?]
    refine .refl fun a ha _ ↦ ?_
    obtain ⟨v, -, rfl⟩ := Option.map_eq_some_iff.1 ha
    trivial

theorem restricts_captureEntries (c : Bool) {r r' : Nat} (ms : List (List Char × JsonTree))
    (hr : JsonTree.membersDepth ms ≤ r) (hr' : JsonTree.membersDepth ms ≤ r') :
    Restricts (fun l ↦ c → l = []) (captureEntries c r ms) (captureEntries false r' ms) := by
  match ms with
  | [] =>
    simp only [captureEntries]
    exact .refl (by simp)
  | (k, t) :: ms =>
    obtain ⟨ht, hms⟩ := JsonTree.membersDepth_cons_le.1 hr
    obtain ⟨ht', hms'⟩ := JsonTree.membersDepth_cons_le.1 hr'
    rw [captureEntries, captureEntries]
    cases c with
    | true =>
      intro l
      refine iff_of_false (by simp) ?_
      rintro ⟨hl, hnil⟩
      rw [hnil rfl] at hl
      simp [Option.bind_eq_some_iff] at hl
    | false =>
      have hentries := (restricts_captureEntries false ms hms hms').eq (by simp)
      rw [captureOfTree?_eq t ht ht', hentries]
      exact .refl (by simp)

theorem captureOfTree?_eq {r r' : Nat} (t : JsonTree) (hr : t.depth ≤ r) (hr' : t.depth ≤ r') :
    captureOfTree? r t = captureOfTree? r' t := by
  match t with
  | .object ms =>
    obtain ⟨r, rfl, hms⟩ := JsonTree.exists_eq_add_one_of_depth_object_le hr
    obtain ⟨r', rfl, hms'⟩ := JsonTree.exists_eq_add_one_of_depth_object_le hr'
    rw [captureOfTree?, captureOfTree?, JsonTree.areMembers_eq ms hms hms',
      captureFields_eq ms hms hms']
  | .array _ | .null | .bool _ | .number _ | .string _ => simp only [captureOfTree?]

theorem captureFields_eq {r r' : Nat} (ms : List (List Char × JsonTree))
    (hr : JsonTree.membersDepth ms ≤ r) (hr' : JsonTree.membersDepth ms ≤ r') :
    captureFields r ms = captureFields r' ms := by
  match ms with
  | [] => simp only [captureFields]
  | (k, t) :: ms =>
    obtain ⟨ht, hms⟩ := JsonTree.membersDepth_cons_le.1 hr
    obtain ⟨ht', hms'⟩ := JsonTree.membersDepth_cons_le.1 hr'
    rw [captureFields, captureFields, captureFields_eq ms hms hms', capturePatterns?_eq t ht ht']

theorem capturePatterns?_eq {r r' : Nat} (t : JsonTree) (hr : t.depth ≤ r) (hr' : t.depth ≤ r') :
    capturePatterns? r t = capturePatterns? r' t := by
  match t with
  | .array ts =>
    obtain ⟨r, rfl, hts⟩ := JsonTree.exists_eq_add_one_of_depth_array_le hr
    obtain ⟨r', rfl, hts'⟩ := JsonTree.exists_eq_add_one_of_depth_array_le hr'
    rw [capturePatterns?, capturePatterns?]
    exact Option.ext fun ps ↦ (restricts_patternsOfTrees? true ts hts hts' ps).trans
      (restricts_patternsOfTrees? true ts hts' hts' ps).symm
  | .object _ | .null | .bool _ | .number _ | .string _ => cases r <;> cases r' <;> rfl

end

end Highlighter
