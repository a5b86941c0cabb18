import Highlighter.Proofs.Grammar.Captured
import Highlighter.Proofs.Json.Places

/-!
# Places for patterns in documents

Patterns can be assigned to a capture group in many places of a document: in a pattern at the top,
in the repository or below another pattern, in each of the three tables, and with anything else
around them. A place is given here by the arrays and objects that it lies in, with what stands
before and after it in each of them (`JsonTree.Place`). What is around the place is decoded without
regard to what is in it, so it comes down to a function from the patterns at the place to the
grammar (`Grammar.CapturesAt`). A document is then decoded by decoding what is at the place
(`Grammar.CapturesAt.ofTree?_fillAll`).

Each layer is told by what it is decoded to when nothing is at the place. To put something there
changes one field, and leaves the other ones as they are.
-/

namespace Highlighter

open JsonTree (Place maxNesting)

/-! ## Fields of documents -/

theorem exists_append_of_getElem?_eq_some {α : Type} {l : List α} {i : Nat} {a : α}
    (h : l[i]? = some a) : ∃ l₁ l₂, l = l₁ ++ a :: l₂ ∧ l₁.length = i := by
  obtain ⟨hi, rfl⟩ := List.getElem?_eq_some_iff.1 h
  refine ⟨l.take i, l.drop (i + 1), ?_, List.length_take_of_le (Nat.le_of_lt hi)⟩
  rw [← List.drop_eq_getElem_cons hi, List.take_append_drop]

/-- The fields of a document, of which one is at a place. -/
theorem JsonTree.Place.exists_fields?_eq_some {place : Place} {t : JsonTree} {keys : List String}
    {key : String} {fs : List (String × JsonTree)} (hplace : place.IsOf keys some key)
    (hkeys : keys.Nodup) (hkey : key ∈ keys) (h : (place.fill t).fields? keys id = some fs) :
    ∃ fs₁ fs₂ : List (String × JsonTree), (∀ e ∈ fs₁ ++ fs₂, e.1 ≠ key) ∧
      ∀ t', (place.fill t').fields? keys id = some (fs₁ ++ (key, t') :: fs₂) := by
  cases place with
  | item before after =>
    obtain ⟨ks₁, ks₂, rfl, hlength⟩ := exists_append_of_getElem?_eq_some hplace
    have hnotMem := (List.nodup_cons.1 (List.nodup_middle.1 hkeys)).1
    obtain ⟨hle, -⟩ := Option.ite_none_right_eq_some.1 h
    refine ⟨ks₁.zip before, ks₂.zip after, fun e he heq ↦ hnotMem ?_, fun t' ↦ ?_⟩
    · rw [← heq]
      refine List.mem_append.2 ((List.mem_append.1 he).imp ?_ ?_) <;>
        exact fun he ↦ (List.of_mem_zip he).1
    · rw [fill, fields?, if_pos (by simpa using hle), List.zip_append hlength, List.zip_cons_cons]
  | member before k after =>
    have hk : JsonText.decode? k = some key := by
      simpa [IsOf] using hplace
    -- What is read of the other members does not depend on the one at the place.
    rw [fill, fields?, List.mapM_append, List.mapM_cons] at h
    simp only [hk, Option.bind_eq_bind, Option.bind_some, Option.bind_eq_some_iff, Option.pure_def,
      Option.some_inj, Option.ite_none_right_eq_some, id_eq] at h
    obtain ⟨_, ⟨named₁, hbefore, _, ⟨named₂, hafter, rfl⟩, rfl⟩, hnodup, -⟩ := h
    have hknown (t' : JsonTree) : (named₁ ++ (key, t') :: named₂).filter (keys.contains ·.1) =
        named₁.filter (keys.contains ·.1) ++ (key, t') :: named₂.filter (keys.contains ·.1) := by
      simp [hkey]
    have hnodup (t' : JsonTree) :
        (((named₁ ++ (key, t') :: named₂).filter (keys.contains ·.1)).map (·.1)).Nodup := by
      rw [hknown, List.map_append, List.map_cons] at hnodup ⊢
      exact hnodup
    refine ⟨named₁.filter (keys.contains ·.1), named₂.filter (keys.contains ·.1), ?_, fun t' ↦ ?_⟩
    · have hnotMem := hnodup t
      rw [hknown, List.map_append, List.map_cons, List.nodup_middle, List.nodup_cons,
        ← List.map_append] at hnotMem
      exact fun e he heq ↦ hnotMem.1 (List.mem_map.2 ⟨e, he, heq⟩)
    · rw [fill, fields?, List.mapM_append, List.mapM_cons]
      simp only [hk, Option.bind_eq_bind, Option.bind_some, Option.pure_def, id_eq, hbefore,
        hafter]
      exact (if_pos (hnodup t')).trans (congrArg some (hknown t'))

/-! ## Fields of patterns -/

open AssignedField (apply pattern? field)

namespace AssignedField

variable {a b : AssignedField} {as as₁ as₂ : List AssignedField} {p : Pattern}

theorem apply_apply (h : a.field = b.field) (p : Pattern) : apply (apply p a) b = apply p b := by
  refine Pattern.eq_of_get_eq fun f ↦ ?_
  rcases eq_or_ne f b.field with rfl | hne
  · rw [Pattern.get_apply_self, Pattern.get_apply_self]
  · rw [Pattern.get_apply_of_ne hne, Pattern.get_apply_of_ne hne,
      Pattern.get_apply_of_ne (h ▸ hne)]

theorem apply_comm (h : a.field ≠ b.field) (p : Pattern) :
    apply (apply p a) b = apply (apply p b) a := by
  refine Pattern.eq_of_get_eq fun f ↦ ?_
  rcases eq_or_ne f a.field with rfl | hne
  · rw [Pattern.get_apply_of_ne h, Pattern.get_apply_self, Pattern.get_apply_self]
  · rw [Pattern.get_apply_of_ne (p := apply p b) hne]
    rcases eq_or_ne f b.field with rfl | hne'
    · rw [Pattern.get_apply_self, Pattern.get_apply_self]
    · rw [Pattern.get_apply_of_ne hne', Pattern.get_apply_of_ne hne', Pattern.get_apply_of_ne hne]

theorem foldl_apply_apply (h : a.field ∉ as.map field) (p : Pattern) :
    as.foldl apply (apply p a) = apply (as.foldl apply p) a := by
  induction as generalizing p with
  | nil => rfl
  | cons b as ih =>
    rw [List.map_cons, List.mem_cons, not_or] at h
    rw [List.foldl_cons, List.foldl_cons, apply_comm h.1, ih h.2]

/-- To assign something else to one of the fields of a pattern changes this field. -/
theorem pattern?_middle (h : pattern? (as₁ ++ a :: as₂) = some p) (hfield : b.field = a.field) :
    pattern? (as₁ ++ b :: as₂) = some (apply p b) := by
  have hfields (b : AssignedField) : (as₁ ++ b :: as₂).foldl apply {} =
      as₂.foldl apply (apply (as₁.foldl apply {}) b) := by
    rw [List.foldl_append, List.foldl_cons]
  obtain ⟨hnodup, hp⟩ := Option.ite_none_right_eq_some.1 h
  have hnodup' : ((as₁ ++ b :: as₂).map field).Nodup := by
    simpa [hfield] using hnodup
  have hnotMem : a.field ∉ as₂.map field := by
    rw [List.map_append, List.map_cons, List.nodup_middle, List.nodup_cons] at hnodup
    exact fun h ↦ hnodup.1 (List.mem_append_right _ h)
  have hp : as₂.foldl apply (apply (as₁.foldl apply {}) a) = p :=
    (hfields a).symm.trans (Option.some.inj hp)
  rw [pattern?, if_pos hnodup', hfields, ← hp, foldl_apply_apply hnotMem,
    foldl_apply_apply (hfield ▸ hnotMem), apply_apply hfield.symm]

end AssignedField

theorem memberFields_append (c : Bool) (r : Nat) (ms ns : List (List Char × JsonTree)) :
    memberFields c r (ms ++ ns) =
      (memberFields c r ms).bind fun as ↦ (memberFields c r ns).map (as ++ ·) := by
  induction ms with
  | nil => simp [memberFields]
  | cons m ms ih =>
    obtain ⟨k, t⟩ := m
    rw [List.cons_append, memberFields, memberFields, ih]
    cases JsonText.decode? k with
    | none => rfl
    | some key =>
      dsimp only
      cases PatternField.ofKey? key with
      | none => rfl
      | some f =>
        dsimp only
        cases fieldOfTree? c r f t <;> cases memberFields c r ms <;> cases memberFields c r ns <;>
          rfl

theorem itemFields_append (c : Bool) (r : Nat) {fs gs : List PatternField} {ts us : List JsonTree}
    (h : fs.length = ts.length) :
    itemFields c r (fs ++ gs) (ts ++ us) =
      (itemFields c r fs ts).bind fun as ↦ (itemFields c r gs us).map (as ++ ·) := by
  induction fs generalizing ts with
  | nil =>
    obtain rfl := List.eq_nil_of_length_eq_zero h.symm
    simp [itemFields]
  | cons f fs ih =>
    obtain ⟨t, ts, rfl⟩ := List.exists_cons_of_length_eq_add_one h.symm
    rw [List.cons_append, List.cons_append, itemFields, itemFields, ih (Nat.succ.inj h)]
    cases fieldOfTree? c r f t <;> cases itemFields c r fs ts <;> cases itemFields c r gs us <;> rfl

variable {place : Place} {c : Bool} {r : Nat} {t : JsonTree} {f : PatternField} {a : AssignedField}
  {p : Pattern}

/-- The fields that assign to capture groups, each with what assigns a table to it. -/
def captureTables : List (PatternField × (List (Nat × Capture Pattern) → AssignedField)) :=
  [(.captures, .captures), (.beginCaptures, .beginCaptures), (.endCaptures, .endCaptures)]

theorem field_of_fieldOfTree? (h : fieldOfTree? c r f t = some a) : a.field = f := by
  cases f with
  | patterns =>
    cases t with
    | array ts =>
      cases r with
      | zero => cases h
      | succ r =>
        obtain ⟨ps, -, rfl⟩ := Option.map_eq_some_iff.1 h
        rfl
    | _ =>
      rw [fieldOfTree?_patterns_eq_none (by simp)] at h
      cases h
  | captures | beginCaptures | endCaptures =>
    cases t with
    | object ms =>
      cases r with
      | zero => cases h
      | succ r =>
        obtain ⟨l, -, rfl⟩ := Option.map_eq_some_iff.1 h
        rfl
    | _ =>
      rw [fieldOfTree?_table_eq_none (by decide) (by simp)] at h
      cases h
  | _ =>
    simp only [fieldOfTree?] at h
    obtain ⟨v, -, rfl⟩ := Option.map_eq_some_iff.1 h
    rfl

/-- Where what comes before and after one part is there, the whole depends on this part alone. -/
theorem exists_forall_eq_bind {α β γ δ τ : Type} {F : τ → Option δ} {x : Option α}
    {y : τ → Option β} {z : Option γ} {g : α → β → γ → Option δ}
    (hF : ∀ t, F t = x.bind fun a ↦ (y t).bind fun b ↦ z.bind fun c ↦ g a b c) {t : τ} {d : δ}
    (h : F t = some d) : ∃ a c, ∀ t', F t' = (y t').bind fun b ↦ g a b c := by
  obtain ⟨a, rfl, h⟩ := Option.bind_eq_some_iff.1 ((hF t).symm.trans h)
  obtain ⟨b, -, h⟩ := Option.bind_eq_some_iff.1 h
  obtain ⟨c, rfl, -⟩ := Option.bind_eq_some_iff.1 h
  exact ⟨a, c, fun t' ↦ (hF t').trans rfl⟩

/-- The fields of a pattern, of which one is at a place. -/
theorem Pattern.exists_ofTree?_fill_eq
    (hplace : place.IsOf PatternField.order PatternField.ofKey? f)
    (h : ofTree? c (r + 1) (place.fill t) = some p) :
    ∃ as₁ as₂ : List AssignedField, ∀ t', ofTree? c (r + 1) (place.fill t') =
      (fieldOfTree? c r f t').bind fun a ↦ pattern? (as₁ ++ a :: as₂) := by
  cases place with
  | item before after =>
    obtain ⟨fs₁, fs₂, horder, hlength⟩ := exists_append_of_getElem?_eq_some hplace
    have hfields (t' : JsonTree) : ofTree? c (r + 1) (Place.fill (.item before after) t') =
        (itemFields c r fs₁ before).bind fun as₁ ↦ (fieldOfTree? c r f t').bind fun a ↦
          (itemFields c r fs₂ after).bind fun as₂ ↦ pattern? (as₁ ++ a :: as₂) := by
      rw [Place.fill, ofTree?, horder, itemFields_append c r hlength, itemFields]
      cases itemFields c r fs₁ before <;> cases fieldOfTree? c r f t' <;>
        cases itemFields c r fs₂ after <;> rfl
    exact exists_forall_eq_bind hfields h
  | member before key after =>
    obtain ⟨name, hkey, hf⟩ := Option.bind_eq_some_iff.1 hplace
    have hfields (t' : JsonTree) : ofTree? c (r + 1) (Place.fill (.member before key after) t') =
        (memberFields c r before).bind fun as₁ ↦ (fieldOfTree? c r f t').bind fun a ↦
          (memberFields c r after).bind fun as₂ ↦ pattern? (as₁ ++ a :: as₂) := by
      rw [Place.fill, ofTree?, memberFields_append, memberFields, hkey]
      simp only [hf]
      cases memberFields c r before <;> cases fieldOfTree? c r f t' <;>
        cases memberFields c r after <;> rfl
    exact exists_forall_eq_bind hfields h

/-- **To change what is at the place of a field changes this field.** -/
theorem Pattern.ofTree?_fill (hplace : place.IsOf PatternField.order PatternField.ofKey? f)
    (h : ofTree? c (r + 1) (place.fill t) = some p) (t' : JsonTree) :
    ofTree? c (r + 1) (place.fill t') = (fieldOfTree? c r f t').map (apply p) := by
  obtain ⟨as₁, as₂, hfill⟩ := exists_ofTree?_fill_eq hplace h
  obtain ⟨a, ha, hp⟩ := Option.bind_eq_some_iff.1 ((hfill t).symm.trans h)
  rw [hfill t']
  cases ha' : fieldOfTree? c r f t' with
  | none => rfl
  | some a' =>
    have hfield : a'.field = a.field :=
      (field_of_fieldOfTree? ha').trans (field_of_fieldOfTree? ha).symm
    exact AssignedField.pattern?_middle hp hfield

/-! ## Room -/

variable {r' : Nat}

theorem Pattern.ofTree?_eq (t : JsonTree) (hr : t.depth ≤ r) (hr' : t.depth ≤ r') :
    ofTree? false r t = ofTree? false r' t :=
  (restricts_ofTree? false t hr hr').eq (by simp)

theorem patternsOfTrees?_eq (c : Bool) (ts : List JsonTree) (hr : JsonTree.itemsDepth ts ≤ r)
    (hr' : JsonTree.itemsDepth ts ≤ r') : patternsOfTrees? c r ts = patternsOfTrees? c r' ts :=
  Option.ext fun ps ↦ (restricts_patternsOfTrees? c ts hr hr' ps).trans
    (restricts_patternsOfTrees? c ts hr' hr' ps).symm

theorem captureEntries_eq (ms : List (List Char × JsonTree)) (hr : JsonTree.membersDepth ms ≤ r)
    (hr' : JsonTree.membersDepth ms ≤ r') :
    captureEntries false r ms = captureEntries false r' ms :=
  (restricts_captureEntries false ms hr hr').eq (by simp)

theorem repositoryEntries_eq (ms : List (List Char × JsonTree))
    (hr : JsonTree.membersDepth ms ≤ r) (hr' : JsonTree.membersDepth ms ≤ r') :
    repositoryEntries r ms = repositoryEntries r' ms := by
  induction ms with
  | nil => rfl
  | cons m ms ih =>
    obtain ⟨ht, hms⟩ := JsonTree.membersDepth_cons_le.1 hr
    obtain ⟨ht', hms'⟩ := JsonTree.membersDepth_cons_le.1 hr'
    rw [repositoryEntries, repositoryEntries, Pattern.ofTree?_eq m.2 ht ht', ih hms hms']

/-! ## Lists with a place -/

/-- To change one item of a list changes what this item gives. -/
theorem mapM_middle {α β : Type} {g : α → Option β} {before after : List α} {l₁ l₂ : List β}
    (hbefore : before.mapM g = some l₁) (hafter : after.mapM g = some l₂) (a : α) :
    (before ++ a :: after).mapM g = (g a).map fun b ↦ l₁ ++ b :: l₂ := by
  rw [List.mapM_append, List.mapM_cons, hbefore, hafter]
  cases g a <;> rfl

theorem patternsOfTrees?_eq_mapM (c : Bool) (r : Nat) (ts : List JsonTree) :
    patternsOfTrees? c r ts = ts.mapM (Pattern.ofTree? c r) := by
  induction ts with
  | nil => simp [patternsOfTrees?]
  | cons t ts ih => rw [patternsOfTrees?, List.mapM_cons, ih]

theorem captureEntries_eq_mapM (r : Nat) (ms : List (List Char × JsonTree)) :
    captureEntries false r ms = ms.mapM fun m ↦
      (groupNumber? m.1).bind fun n ↦ (captureOfTree? r m.2).map (n, ·) := by
  induction ms with
  | nil => simp [captureEntries]
  | cons m ms ih =>
    rw [captureEntries, List.mapM_cons, ih]
    cases groupNumber? m.1 <;> cases captureOfTree? r m.2 <;> rfl

theorem repositoryEntries_eq_mapM (r : Nat) (ms : List (List Char × JsonTree)) :
    repositoryEntries r ms = ms.mapM fun m ↦
      (JsonText.decode? m.1).bind fun name ↦ (Pattern.ofTree? false r m.2).map (name, ·) := by
  induction ms with
  | nil => rfl
  | cons m ms ih =>
    rw [repositoryEntries, List.mapM_cons, ih]
    cases JsonText.decode? m.1 <;> cases Pattern.ofTree? false r m.2 <;> rfl

theorem patternsOfTrees?_middle {before after : List JsonTree} {ps₁ ps₂ : List Pattern}
    (hbefore : patternsOfTrees? false maxNesting before = some ps₁)
    (hafter : patternsOfTrees? false maxNesting after = some ps₂) (hr : r ≤ maxNesting)
    (hdepth : JsonTree.itemsDepth (before ++ t :: after) ≤ r) :
    patternsOfTrees? false r (before ++ t :: after) =
      (Pattern.ofTree? false r t).map fun p ↦ ps₁ ++ p :: ps₂ := by
  obtain ⟨hbefore', -, hafter'⟩ := JsonTree.itemsDepth_append_cons_le.1 hdepth
  rw [patternsOfTrees?_eq _ _ (Nat.le_trans hbefore' hr) hbefore'] at hbefore
  rw [patternsOfTrees?_eq _ _ (Nat.le_trans hafter' hr) hafter'] at hafter
  rw [patternsOfTrees?_eq_mapM] at hbefore hafter ⊢
  exact mapM_middle hbefore hafter t

theorem captureEntries_middle {before after : List (List Char × JsonTree)} {group : List Char}
    {n : Nat} {l₁ l₂ : List (Nat × Capture Pattern)}
    (hbefore : captureEntries false maxNesting before = some l₁)
    (hgroup : groupNumber? group = some n)
    (hafter : captureEntries false maxNesting after = some l₂) (hr : r ≤ maxNesting)
    (hdepth : JsonTree.membersDepth (before ++ (group, t) :: after) ≤ r) :
    captureEntries false r (before ++ (group, t) :: after) =
      (captureOfTree? r t).map fun c ↦ l₁ ++ (n, c) :: l₂ := by
  obtain ⟨hbefore', -, hafter'⟩ := JsonTree.membersDepth_append_cons_le.1 hdepth
  rw [captureEntries_eq _ (Nat.le_trans hbefore' hr) hbefore'] at hbefore
  rw [captureEntries_eq _ (Nat.le_trans hafter' hr) hafter'] at hafter
  rw [captureEntries_eq_mapM] at hbefore hafter ⊢
  rw [mapM_middle hbefore hafter, hgroup, Option.bind_some, Option.map_map]
  rfl

theorem repositoryEntries_middle {before after : List (List Char × JsonTree)} {k : List Char}
    {name : String} {l₁ l₂ : List (String × Pattern)}
    (hbefore : repositoryEntries maxNesting before = some l₁)
    (hname : JsonText.decode? k = some name)
    (hafter : repositoryEntries maxNesting after = some l₂) (hr : r ≤ maxNesting)
    (hdepth : JsonTree.membersDepth (before ++ (k, t) :: after) ≤ r) :
    repositoryEntries r (before ++ (k, t) :: after) =
      (Pattern.ofTree? false r t).map fun p ↦ l₁ ++ (name, p) :: l₂ := by
  obtain ⟨hbefore', -, hafter'⟩ := JsonTree.membersDepth_append_cons_le.1 hdepth
  rw [repositoryEntries_eq _ (Nat.le_trans hbefore' hr) hbefore'] at hbefore
  rw [repositoryEntries_eq _ (Nat.le_trans hafter' hr) hafter'] at hafter
  rw [repositoryEntries_eq_mapM] at hbefore hafter ⊢
  rw [mapM_middle hbefore hafter, hname, Option.bind_some, Option.map_map]
  rfl

/-! ## Captures -/

theorem captureFields_append (r : Nat) (ms ns : List (List Char × JsonTree)) :
    captureFields r (ms ++ ns) =
      (captureFields r ms).bind fun as ↦ (captureFields r ns).map (as ++ ·) := by
  induction ms with
  | nil => simp [captureFields]
  | cons m ms ih =>
    obtain ⟨k, t⟩ := m
    rw [List.cons_append, captureFields, captureFields, ih]
    split
    · cases t.textOrNull? <;> cases captureFields r ms <;> cases captureFields r ns <;> rfl
    · cases capturePatterns? r t <;> cases captureFields r ms <;> cases captureFields r ns <;> rfl
    · rfl
    · rfl

/-- To assign other patterns to a capture group leaves its scope as it is. -/
theorem CaptureField.capture?_middle {as₁ as₂ : List CaptureField} {ps : List Pattern}
    {c : Capture Pattern} (h : capture? (as₁ ++ .patterns ps :: as₂) = some c)
    (qs : List Pattern) :
    capture? (as₁ ++ .patterns qs :: as₂) = some { c with patterns := qs } := by
  -- There is room for a name only, before or after the patterns.
  rcases as₁ with _ | ⟨n | _, _ | ⟨_ | _, _⟩⟩ <;> rcases as₂ with _ | ⟨n | _, _ | ⟨_ | _, _⟩⟩ <;>
    simp [capture?] at h ⊢ <;> rw [← h]

/-- **To change the patterns that are assigned to a capture group.** -/
theorem captureOfTree?_fill {place : Place} (hplace : place.IsOf [] some "patterns")
    {ts : List JsonTree} {c : Capture Pattern}
    (h : captureOfTree? (r + 2) (place.fill (.array ts)) = some c) (us : List JsonTree) :
    captureOfTree? (r + 2) (place.fill (.array us)) =
      if JsonTree.areValues r us then
        (patternsOfTrees? true r us).map fun ps ↦ { c with patterns := ps }
      else none := by
  cases place with
  | item before after => cases hplace
  | member before key after =>
    have hkey : JsonText.decode? key = some "patterns" := by
      simpa [Place.IsOf] using hplace
    have hcapture (us : List JsonTree) :
        captureOfTree? (r + 2) (Place.fill (.member before key after) (.array us)) =
          if JsonTree.areMembers (r + 1) (before ++ after) && JsonTree.areValues r us then
            (captureFields (r + 1) before).bind fun as₁ ↦ (patternsOfTrees? true r us).bind fun ps ↦
              (captureFields (r + 1) after).bind fun as₂ ↦
                CaptureField.capture? (as₁ ++ .patterns ps :: as₂)
          else none := by
      have hvalue : (JsonTree.array us).isValue (r + 1) = JsonTree.areValues r us := rfl
      rw [Place.fill, captureOfTree?, JsonTree.areMembers_append_cons, hkey, hvalue,
        captureFields_append, captureFields, hkey, capturePatterns?]
      cases captureFields (r + 1) before <;> cases patternsOfTrees? true r us <;>
        cases captureFields (r + 1) after <;> rfl
    rw [hcapture, Option.ite_none_right_eq_some, Bool.and_eq_true] at h
    obtain ⟨⟨hmembers, -⟩, h⟩ := h
    obtain ⟨as₁, hbefore, h⟩ := Option.bind_eq_some_iff.1 h
    obtain ⟨ps, -, h⟩ := Option.bind_eq_some_iff.1 h
    obtain ⟨as₂, hafter, h⟩ := Option.bind_eq_some_iff.1 h
    rw [hcapture, hmembers, hbefore, hafter, Bool.true_and]
    cases patternsOfTrees? true r us with
    | none => rfl
    | some qs =>
      have hfields := CaptureField.capture?_middle h qs
      simp only [Option.bind_some, hfields, Option.map_some]

/-! ## Fields of grammars -/

namespace Grammar

variable {φ : Type} {key : String} {value : JsonTree → Option φ} {set : φ → Grammar → Grammar}
  {g : Grammar}

/-- How a field of a grammar is read and set. To set it leaves what other keys set as it is. -/
structure IsSetBy (r : Nat) (key : String) (value : JsonTree → Option φ)
    (set : φ → Grammar → Grammar) : Prop where
  assign?_eq : ∀ g t, assign? r g (key, t) = (value t).map fun v ↦ set v g
  assign?_set : ∀ v g (e : String × JsonTree), e.1 ≠ key →
    assign? r (set v g) e = (assign? r g e).map (set v)
  set_set : ∀ v w g, set v (set w g) = set v g

theorem IsSetBy.foldlM_set (h : IsSetBy r key value set) {fs : List (String × JsonTree)}
    (hfs : ∀ e ∈ fs, e.1 ≠ key) (v : φ) (g : Grammar) :
    fs.foldlM (assign? r) (set v g) = (fs.foldlM (assign? r) g).map (set v) := by
  induction fs generalizing g with
  | nil => rfl
  | cons e fs ih =>
    obtain ⟨he, hfs⟩ := List.forall_mem_cons.1 hfs
    rw [List.foldlM_cons, List.foldlM_cons, h.assign?_set v g e he]
    cases assign? r g e with
    | none => rfl
    | some g' => exact ih hfs g'

/-- **To change what is at the place of a field changes this field.** -/
theorem IsSetBy.ofTree?_fill (hset : IsSetBy (maxNesting - 1) key value set)
    (hkey : key ∈ fieldKeys) {place : Place} (hplace : place.IsOf fieldKeys some key)
    (h : ofTree? (place.fill t) = some g) (t' : JsonTree) :
    ofTree? (place.fill t') = (value t').map fun v ↦ set v g := by
  obtain ⟨fs, hfs, -⟩ := Option.bind_eq_some_iff.1 h
  obtain ⟨fs₁, fs₂, hne, hfields⟩ := place.exists_fields?_eq_some hplace (by decide) hkey hfs
  have hfill (t' : JsonTree) : ofTree? (place.fill t') =
      (fs₁.foldlM (assign? (maxNesting - 1)) {}).bind fun g₁ ↦ (value t').bind fun v ↦
        (fs₂.foldlM (assign? (maxNesting - 1)) g₁).map (set v) := by
    rw [ofTree?, hfields t', Option.bind_eq_bind, Option.bind_some, List.foldlM_append]
    refine congrArg _ (funext fun g₁ ↦ ?_)
    rw [List.foldlM_cons, hset.assign?_eq]
    cases value t' with
    | none => rfl
    | some v => exact hset.foldlM_set (fun e he ↦ hne e (List.mem_append_right _ he)) v g₁
  obtain ⟨g₁, hfirst, h⟩ := Option.bind_eq_some_iff.1 ((hfill t).symm.trans h)
  obtain ⟨v, -, h⟩ := Option.bind_eq_some_iff.1 h
  obtain ⟨g₂, hrest, rfl⟩ := Option.map_eq_some_iff.1 h
  rw [hfill t', hfirst, Option.bind_some]
  cases value t' with
  | none => rfl
  | some v' => simp only [Option.bind_some, hrest, Option.map_some, hset.set_set]

/-- The patterns at the top of a document. -/
def patternsOfTree? (r : Nat) : JsonTree → Option (List Pattern)
  | .array ts => patternsOfTrees? false r ts
  | _ => none

/-- The repository of a document. -/
def repositoryOfTree? (r : Nat) : JsonTree → Option (SortedMap String Pattern)
  | .object ms => (repositoryEntries r ms).map .ofList
  | _ => none

theorem isSetBy_patterns :
    IsSetBy (maxNesting - 1) "patterns" (patternsOfTree? (maxNesting - 2))
      fun ps g ↦ { g with patterns := ps } where
  assign?_eq g t := by
    cases t <;> rfl
  assign?_set v g e he := by
    unfold assign?
    split
    · rw [Option.map_map]
      rfl
    · rw [Option.map_map]
      rfl
    · rw [Option.map_map]
      rfl
    · exact absurd rfl he
    · rw [if_neg (by decide), if_neg (by decide), Option.map_map]
      rfl
    · rfl
  set_set _ _ _ := rfl

theorem isSetBy_repository :
    IsSetBy (maxNesting - 1) "repository" (repositoryOfTree? (maxNesting - 2))
      fun m g ↦ { g with repository := m } where
  assign?_eq g t := by
    cases t with
    | object ms =>
      rw [repositoryOfTree?, Option.map_map]
      rfl
    | _ => rfl
  assign?_set v g e he := by
    unfold assign?
    split
    · rw [Option.map_map]
      rfl
    · rw [Option.map_map]
      rfl
    · rw [Option.map_map]
      rfl
    · rw [if_neg (by decide), if_neg (by decide), Option.map_map]
      rfl
    · exact absurd rfl he
    · rfl
  set_set _ _ _ := rfl

end Grammar

/-! ## The patterns of a capture group -/

/-- What is decoded from trees that are to be patterns of a capture group. They must stand for
values with all that is skipped in them. -/
def capturedPatterns? (ts : List JsonTree) : Option (List Pattern) :=
  if JsonTree.areValues maxNesting ts then patternsOfTrees? true maxNesting ts else none

/-- Where places lead from a pattern to the patterns that it, or one below it, assigns to a capture
group, and what pattern it is with given patterns there. -/
inductive Pattern.CapturesAt : List Place → (List Pattern → Pattern) → Prop
  /-- From an entry of a table. The capture is told by what it is without patterns, and the pattern
  by what it is with an empty table. -/
  | table {fields capture : Place} {f : PatternField}
      {assign : List (Nat × Capture Pattern) → AssignedField} {p : Pattern}
      {before after : List (List Char × JsonTree)} {group : List Char} {n : Nat}
      {l₁ l₂ : List (Nat × Capture Pattern)} {c : Capture Pattern}
      (htable : (f, assign) ∈ captureTables)
      (hfields : fields.IsOf PatternField.order PatternField.ofKey? f)
      (hp : ofTree? false maxNesting (fields.fill (.object [])) = some p)
      (hbefore : captureEntries false maxNesting before = some l₁)
      (hgroup : groupNumber? group = some n)
      (hafter : captureEntries false maxNesting after = some l₂)
      (hcapture : capture.IsOf [] some "patterns")
      (hc : captureOfTree? maxNesting (capture.fill (.array [])) = some c) :
      CapturesAt [fields, .member before group after, capture] fun ps ↦
        apply p (assign (sortCaptures (l₁ ++ (n, { c with patterns := ps }) :: l₂)))
  /-- From a pattern right below, and on from there. -/
  | nested {fields : Place} {p : Pattern} {before after : List JsonTree} {ps₁ ps₂ : List Pattern}
      {places : List Place} {fill : List Pattern → Pattern}
      (hfields : fields.IsOf PatternField.order PatternField.ofKey? .patterns)
      (hp : ofTree? false maxNesting (fields.fill (.array [])) = some p)
      (hbefore : patternsOfTrees? false maxNesting before = some ps₁)
      (hafter : patternsOfTrees? false maxNesting after = some ps₂) (h : CapturesAt places fill) :
      CapturesAt (fields :: .item before after :: places) fun ps ↦
        { p with patterns := ps₁ ++ fill ps :: ps₂ }

/-- Where places lead from a grammar to the patterns that one of its patterns assigns to a capture
group, and what grammar it is with given patterns there. -/
inductive Grammar.CapturesAt : List Place → (List Pattern → Grammar) → Prop
  /-- From a pattern at the top. -/
  | patterns {fields : Place} {g : Grammar} {before after : List JsonTree}
      {ps₁ ps₂ : List Pattern} {places : List Place} {fill : List Pattern → Pattern}
      (hfields : fields.IsOf fieldKeys some "patterns")
      (hg : ofTree? (fields.fill (.array [])) = some g)
      (hbefore : patternsOfTrees? false maxNesting before = some ps₁)
      (hafter : patternsOfTrees? false maxNesting after = some ps₂)
      (h : Pattern.CapturesAt places fill) :
      CapturesAt (fields :: .item before after :: places) fun ps ↦
        { g with patterns := ps₁ ++ fill ps :: ps₂ }
  /-- From an entry of the repository. -/
  | repository {fields : Place} {g : Grammar} {before after : List (List Char × JsonTree)}
      {key : List Char} {name : String} {l₁ l₂ : List (String × Pattern)} {places : List Place}
      {fill : List Pattern → Pattern} (hfields : fields.IsOf fieldKeys some "repository")
      (hg : ofTree? (fields.fill (.object [])) = some g)
      (hbefore : repositoryEntries maxNesting before = some l₁)
      (hkey : JsonText.decode? key = some name)
      (hafter : repositoryEntries maxNesting after = some l₂)
      (h : Pattern.CapturesAt places fill) :
      CapturesAt (fields :: .member before key after :: places) fun ps ↦
        { g with repository := .ofList (l₁ ++ (name, fill ps) :: l₂) }

variable {places : List Place} {ts : List JsonTree}

theorem fieldOfTree?_object {assign : List (Nat × Capture Pattern) → AssignedField}
    (htable : (f, assign) ∈ captureTables) (c : Bool) (r : Nat)
    (ms : List (List Char × JsonTree)) :
    fieldOfTree? c (r + 1) f (.object ms) =
      (captureEntries c r ms).map fun l ↦ assign (sortCaptures l) := by
  simp only [captureTables, List.mem_cons, List.not_mem_nil, or_false, Prod.mk.injEq] at htable
  rcases htable with ⟨rfl, rfl⟩ | ⟨rfl, rfl⟩ | ⟨rfl, rfl⟩ <;> rw [fieldOfTree?]

/-- The patterns of a capture group, however much room there is. -/
theorem captureOfTree?_fill_eq {capture : Place} {c : Capture Pattern}
    (hcapture : capture.IsOf [] some "patterns")
    (hc : captureOfTree? maxNesting (capture.fill (.array [])) = some c) (hr : r ≤ maxNesting)
    (hdepth : (capture.fill (.array ts)).depth ≤ r) :
    captureOfTree? r (capture.fill (.array ts)) =
      (capturedPatterns? ts).map fun ps ↦ { c with patterns := ps } := by
  have hempty : (JsonTree.array []).depth ≤ (JsonTree.array ts).depth := by
    simp [JsonTree.depth, JsonTree.itemsDepth]
  obtain ⟨r, rfl, hts, hroom⟩ := Place.exists_room hdepth
  obtain ⟨r, rfl, hitems⟩ := JsonTree.exists_eq_add_one_of_depth_array_le hts
  have hitems' : JsonTree.itemsDepth ts ≤ maxNesting := by omega
  rw [captureOfTree?_eq _ (Nat.le_trans (hroom _ hempty) hr) (hroom _ hempty)] at hc
  rw [captureOfTree?_fill hcapture hc, JsonTree.areValues_eq ts hitems hitems',
    patternsOfTrees?_eq true ts hitems hitems', capturedPatterns?]
  split <;> rfl

/-- The fields of a pattern, of which one is at a place, with enough room for them. -/
theorem Pattern.exists_ofTree?_fill_eq_map {fields : Place} {t₀ : JsonTree}
    (hfields : fields.IsOf PatternField.order PatternField.ofKey? f)
    (hp : ofTree? false maxNesting (fields.fill t₀) = some p) (ht : t₀.depth ≤ t.depth)
    (hr : r ≤ maxNesting) (hdepth : (fields.fill t).depth ≤ r) :
    ∃ r₀, r = r₀ + 1 ∧ t.depth ≤ r₀ ∧
      ofTree? false r (fields.fill t) = (fieldOfTree? false r₀ f t).map (apply p) := by
  obtain ⟨r₀, rfl, hdepth, hroom⟩ := Place.exists_room hdepth
  rw [ofTree?_eq _ (Nat.le_trans (hroom _ ht) hr) (hroom _ ht)] at hp
  exact ⟨r₀, rfl, hdepth, ofTree?_fill hfields hp t⟩

/-- **What a pattern is decoded to** with patterns at a place that is for those of a capture
group. -/
theorem Pattern.CapturesAt.ofTree?_fillAll {fill : List Pattern → Pattern}
    (h : CapturesAt places fill) (hr : r ≤ maxNesting)
    (hdepth : (Place.fillAll places (.array ts)).depth ≤ r) :
    Pattern.ofTree? false r (Place.fillAll places (.array ts)) =
      (capturedPatterns? ts).map fill := by
  induction h generalizing r with
  | @table fields capture f assign p before after group n l₁ l₂ c htable hfields hp hbefore hgroup
      hafter hcapture hc =>
    change (fields.fill (.object (before ++ (group, capture.fill (.array ts)) :: after))).depth ≤ r
      at hdepth
    obtain ⟨r, rfl, hentries, hfill⟩ :=
      exists_ofTree?_fill_eq_map hfields hp (by simp [JsonTree.depth, JsonTree.membersDepth]) hr
        hdepth
    obtain ⟨r, rfl, hmembers⟩ := JsonTree.exists_eq_add_one_of_depth_object_le hentries
    obtain ⟨-, hgroups, -⟩ := JsonTree.membersDepth_append_cons_le.1 hmembers
    have hcaptured := captureOfTree?_fill_eq hcapture hc (by omega) hgroups
    refine hfill.trans ?_
    rw [fieldOfTree?_object htable,
      captureEntries_middle hbefore hgroup hafter (by omega) hmembers, hcaptured,
      Option.map_map, Option.map_map, Option.map_map]
    rfl
  | @nested fields p before after ps₁ ps₂ places fill hfields hp hbefore hafter h ih =>
    change (fields.fill (.array (before ++ Place.fillAll places (.array ts) :: after))).depth ≤ r
      at hdepth
    obtain ⟨r, rfl, hlist, hfill⟩ :=
      exists_ofTree?_fill_eq_map hfields hp (by simp [JsonTree.depth, JsonTree.itemsDepth]) hr
        hdepth
    obtain ⟨r, rfl, hitems⟩ := JsonTree.exists_eq_add_one_of_depth_array_le hlist
    obtain ⟨-, hpattern, -⟩ := JsonTree.itemsDepth_append_cons_le.1 hitems
    refine hfill.trans ?_
    rw [fieldOfTree?, patternsOfTrees?_middle hbefore hafter (by omega) hitems,
      ih (by omega) hpattern,
      Option.map_map, Option.map_map, Option.map_map]
    rfl

/-- **What a document is decoded to** with patterns at a place that is for those of a capture
group. -/
theorem Grammar.CapturesAt.ofTree?_fillAll {fill : List Pattern → Grammar}
    (h : CapturesAt places fill)
    (hdepth : (Place.fillAll places (.array ts)).depth ≤ maxNesting) :
    Grammar.ofTree? (Place.fillAll places (.array ts)) = (capturedPatterns? ts).map fill := by
  cases h with
  | @patterns fields g before after ps₁ ps₂ places fill hfields hg hbefore hafter h =>
    have hlist := Nat.lt_of_lt_of_le (fields.depth_lt_fill _) hdepth
    have hitems : JsonTree.itemsDepth (before ++ Place.fillAll places (.array ts) :: after) ≤
        maxNesting - 2 := Nat.le_sub_of_add_le hlist
    obtain ⟨-, hpattern, -⟩ := JsonTree.itemsDepth_append_cons_le.1 hitems
    refine (isSetBy_patterns.ofTree?_fill (by decide) hfields hg
      (.array (before ++ Place.fillAll places (.array ts) :: after))).trans ?_
    rw [patternsOfTree?, patternsOfTrees?_middle hbefore hafter (by decide) hitems,
      h.ofTree?_fillAll (by decide) hpattern, Option.map_map, Option.map_map]
    rfl
  | @repository fields g before after key name l₁ l₂ places fill hfields hg hbefore hkey hafter h =>
    have hrules := Nat.lt_of_lt_of_le (fields.depth_lt_fill _) hdepth
    have hmembers : JsonTree.membersDepth (before ++ (key, Place.fillAll places (.array ts)) ::
        after) ≤ maxNesting - 2 := Nat.le_sub_of_add_le hrules
    obtain ⟨-, hpattern, -⟩ := JsonTree.membersDepth_append_cons_le.1 hmembers
    refine (isSetBy_repository.ofTree?_fill (by decide) hfields hg
      (.object (before ++ (key, Place.fillAll places (.array ts)) :: after))).trans ?_
    rw [repositoryOfTree?, repositoryEntries_middle hbefore hkey hafter (by decide) hmembers,
      h.ofTree?_fillAll (by decide) hpattern, Option.map_map, Option.map_map, Option.map_map]
    rfl

end Highlighter
