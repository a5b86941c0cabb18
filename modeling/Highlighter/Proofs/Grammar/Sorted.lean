import Highlighter.Proofs.Grammar.Document
import Highlighter.Proofs.Grammar.Nodes

/-!
# Capture tables are in order

A pattern keeps its capture tables as lists, and its type does not say that they are in ascending
order of group. Nevertheless they always are: patterns are either built or read from a document, and
both ways put one entry after the other where it belongs (`Grammar.IsBuilt.isSorted`,
`Grammar.isSorted_of_ofJson?`). So what is assumed of grammars when their addresses are put in order
holds of every grammar that there is.
-/

namespace Highlighter

/-! ## Sorted tables -/

/-- A capture table in ascending order of group, with sorted patterns only. -/
structure IsSortedTable (captures : List (Nat × Capture Pattern)) : Prop where
  ascending : captures.Pairwise (·.1 < ·.1)
  isSorted : ∀ c ∈ captures, ∀ q ∈ c.2.patterns, q.IsSorted

namespace IsSortedTable

variable {l : List (Nat × Capture Pattern)}

theorem nil : IsSortedTable [] := ⟨.nil, List.forall_mem_nil _⟩

theorem insertEntry {c : Capture Pattern} (h : IsSortedTable l) (n : Nat)
    (hc : ∀ q ∈ c.patterns, q.IsSorted) : IsSortedTable (insertEntry n c l) where
  ascending := pairwise_insertEntry h.ascending
  isSorted := by
    intro c' hc'
    rcases eq_or_mem_of_mem_insertEntry hc' with rfl | hc'
    · exact hc
    · exact h.isSorted c' hc'

theorem sortCaptures (h : ∀ c ∈ l, ∀ q ∈ c.2.patterns, q.IsSorted) :
    IsSortedTable (sortCaptures l) where
  ascending := pairwise_foldl_insertEntry .nil
  isSorted := by
    intro c hc
    exact h c ((mem_of_mem_foldl_insertEntry hc).resolve_right List.not_mem_nil)

end IsSortedTable

theorem Pattern.isSorted_iff {p : Pattern} : p.IsSorted ↔ (∀ q ∈ p.patterns, q.IsSorted) ∧
    IsSortedTable p.captures ∧ IsSortedTable p.beginCaptures ∧ IsSortedTable p.endCaptures := by
  have hchildren : (∀ q ∈ p.children, q.IsSorted) ↔ (∀ q ∈ p.patterns, q.IsSorted) ∧
      ∀ c ∈ p.captures ++ p.beginCaptures ++ p.endCaptures, ∀ q ∈ c.2.patterns, q.IsSorted := by
    simp only [children, List.forall_mem_append, List.forall_mem_flatMap]
  constructor
  · rintro ⟨hcaptures, hbegin, hend, h⟩
    obtain ⟨hpatterns, h⟩ := hchildren.mp h
    simp only [List.forall_mem_append] at h
    exact ⟨hpatterns, ⟨hcaptures, h.1.1⟩, ⟨hbegin, h.1.2⟩, ⟨hend, h.2⟩⟩
  · rintro ⟨hpatterns, hcaptures, hbegin, hend⟩
    refine ⟨hcaptures.ascending, hbegin.ascending, hend.ascending, hchildren.mpr ⟨hpatterns, ?_⟩⟩
    simp only [List.forall_mem_append]
    exact ⟨⟨hcaptures.isSorted, hbegin.isSorted⟩, hend.isSorted⟩

/-! ## What is built -/

/-- **What is built is sorted.** -/
theorem Pattern.IsBuilt.isSorted {p : Pattern} (h : p.IsBuilt) : p.IsSorted := by
  induction h with
  | single | block | including => exact isSorted_iff.mpr ⟨List.forall_mem_nil _, .nil, .nil, .nil⟩
  | group _ ih => exact isSorted_iff.mpr ⟨ih, .nil, .nil, .nil⟩
  | named _ _ ih | withContentName _ _ ih | disabled _ ih =>
    obtain ⟨hpatterns, hcaptures, hbegin, hend⟩ := isSorted_iff.mp ih
    exact isSorted_iff.mpr ⟨hpatterns, hcaptures, hbegin, hend⟩
  | withPatterns _ _ ih ihs => exact isSorted_iff.mpr ⟨ihs, (isSorted_iff.mp ih).2⟩
  | withCapture _ _ _ ih ihs =>
    obtain ⟨hpatterns, hcaptures, hedges⟩ := isSorted_iff.mp ih
    exact isSorted_iff.mpr ⟨hpatterns, hcaptures.insertEntry _ ihs, hedges⟩
  | withBeginCapture _ _ _ ih ihs =>
    obtain ⟨hpatterns, hcaptures, hbegin, hend⟩ := isSorted_iff.mp ih
    exact isSorted_iff.mpr ⟨hpatterns, hcaptures, hbegin.insertEntry _ ihs, hend⟩
  | withEndCapture _ _ _ ih ihs =>
    obtain ⟨hpatterns, hcaptures, hbegin, hend⟩ := isSorted_iff.mp ih
    exact isSorted_iff.mpr ⟨hpatterns, hcaptures, hbegin, hend.insertEntry _ ihs⟩

theorem Grammar.IsBuilt.isSorted {g : Grammar} (h : g.IsBuilt) : g.IsSorted :=
  fun p hp ↦ (h.isBuilt_of_mem p hp).isSorted

/-! ## What is read -/

/-- What is assigned to a field is sorted. -/
def AssignedField.IsSorted : AssignedField → Prop
  | patterns ps => ∀ p ∈ ps, p.IsSorted
  | captures l | beginCaptures l | endCaptures l => IsSortedTable l
  | _ => True

theorem Pattern.isSorted_iff_get {p : Pattern} : p.IsSorted ↔ ∀ f, (p.get f).IsSorted := by
  rw [isSorted_iff]
  constructor
  · rintro ⟨hpatterns, hcaptures, hbegin, hend⟩ f
    cases f <;> trivial
  · intro h
    exact ⟨h .patterns, h .captures, h .beginCaptures, h .endCaptures⟩

/-- A pattern is sorted if the fields that make it up are. -/
theorem AssignedField.isSorted_of_pattern?_eq_some {as : List AssignedField} {p : Pattern}
    (h : pattern? as = some p) (has : ∀ a ∈ as, a.IsSorted) : p.IsSorted := by
  obtain ⟨fs, -, hdefault, rfl⟩ := pattern?_eq_some_iff.mp h
  rw [Pattern.isSorted_iff_get]
  intro f
  by_cases hf : f ∈ fs
  · exact has _ (List.mem_map_of_mem hf)
  · rw [hdefault f hf]
    cases f <;> first | trivial | exact .nil | exact List.forall_mem_nil _

theorem forall_mem_of_nil_eq_some {α : Type} {P : α → Prop} {l : List α} (h : some [] = some l) :
    ∀ a ∈ l, P a :=
  Option.some.inj h ▸ List.forall_mem_nil P

theorem forall_mem_of_cons_eq_some {α β : Type} {P : β → Prop} {x : Option α} {g : α → β}
    {xs : Option (List β)} {l : List β} (h : (do return g (← x) :: (← xs)) = some l)
    (hx : ∀ a, x = some a → P (g a)) (hxs : ∀ bs, xs = some bs → ∀ b ∈ bs, P b) :
    ∀ b ∈ l, P b := by
  obtain ⟨a, ha, h⟩ := Option.bind_eq_some_iff.mp h
  obtain ⟨bs, hbs, h⟩ := Option.bind_eq_some_iff.mp h
  obtain rfl := Option.some.inj h
  exact List.forall_mem_cons.mpr ⟨hx a ha, hxs bs hbs⟩

/-- The patterns among what is assigned to a capture group are sorted. -/
def CaptureField.IsSorted : CaptureField → Prop
  | name _ => True
  | patterns ps => ∀ p ∈ ps, p.IsSorted

theorem CaptureField.isSorted_of_capture?_eq_some {fields : List CaptureField}
    {c : Capture Pattern} (h : capture? fields = some c) (hfields : ∀ f ∈ fields, f.IsSorted) :
    ∀ q ∈ c.patterns, q.IsSorted := by
  unfold capture? at h
  split at h
  · obtain rfl := Option.some.inj h
    exact List.forall_mem_nil _
  · obtain rfl := Option.some.inj h
    exact List.forall_mem_nil _
  · next ps =>
    obtain rfl := Option.some.inj h
    exact hfields (.patterns ps) (by simp)
  · next n ps =>
    obtain rfl := Option.some.inj h
    exact hfields (.patterns ps) (by simp)
  · next ps n =>
    obtain rfl := Option.some.inj h
    exact hfields (.patterns ps) (by simp)
  · cases h

mutual

/-- **What is read is sorted.** -/
theorem Pattern.isSorted_of_ofTree? {c : Bool} {r : Nat} {t : JsonTree} {p : Pattern}
    (h : Pattern.ofTree? c r t = some p) : p.IsSorted := by
  match r, t with
  | r + 1, .object ms =>
    rw [Pattern.ofTree?] at h
    obtain ⟨as, has, hp⟩ := Option.bind_eq_some_iff.mp h
    exact AssignedField.isSorted_of_pattern?_eq_some hp (isSorted_of_memberFields ms has)
  | r + 1, .array ts =>
    rw [Pattern.ofTree?] at h
    obtain ⟨as, has, hp⟩ := Option.bind_eq_some_iff.mp h
    exact AssignedField.isSorted_of_pattern?_eq_some hp (isSorted_of_itemFields _ ts has)
  | 0, _ => simp [Pattern.ofTree?] at h
  | r + 1, .null | r + 1, .bool _ | r + 1, .number _ | r + 1, .string _ =>
    simp [Pattern.ofTree?] at h

theorem isSorted_of_patternsOfTrees? {c : Bool} {r : Nat} (ts : List JsonTree) {ps : List Pattern}
    (h : patternsOfTrees? c r ts = some ps) : ∀ p ∈ ps, p.IsSorted := by
  match ts with
  | [] =>
    rw [patternsOfTrees?] at h
    exact forall_mem_of_nil_eq_some h
  | t :: ts =>
    rw [patternsOfTrees?] at h
    exact forall_mem_of_cons_eq_some h (fun _ hp ↦ Pattern.isSorted_of_ofTree? hp)
      fun _ hps ↦ isSorted_of_patternsOfTrees? ts hps

theorem isSorted_of_memberFields {c : Bool} {r : Nat} (ms : List (List Char × JsonTree))
    {as : List AssignedField} (h : memberFields c r ms = some as) : ∀ a ∈ as, a.IsSorted := by
  match ms with
  | [] =>
    rw [memberFields] at h
    exact forall_mem_of_nil_eq_some h
  | (k, t) :: ms =>
    rw [memberFields] at h
    split at h
    · cases h
    · split at h
      · exact isSorted_of_memberFields ms h
      · exact forall_mem_of_cons_eq_some h (fun _ ha ↦ isSorted_of_fieldOfTree? ha)
          fun _ has ↦ isSorted_of_memberFields ms has

theorem isSorted_of_itemFields {c : Bool} {r : Nat} (fs : List PatternField) (ts : List JsonTree)
    {as : List AssignedField} (h : itemFields c r fs ts = some as) : ∀ a ∈ as, a.IsSorted := by
  match ts, fs with
  | [], _ =>
    rw [itemFields] at h
    exact forall_mem_of_nil_eq_some h
  | _ :: _, [] => simp [itemFields] at h
  | t :: ts, f :: fs =>
    rw [itemFields] at h
    exact forall_mem_of_cons_eq_some h (fun _ ha ↦ isSorted_of_fieldOfTree? ha)
      fun _ has ↦ isSorted_of_itemFields fs ts has

theorem isSorted_of_fieldOfTree? {c : Bool} {r : Nat} {f : PatternField} {t : JsonTree}
    {a : AssignedField} (h : fieldOfTree? c r f t = some a) : a.IsSorted := by
  cases f with
  | patterns =>
    cases t with
    | array ts =>
      cases r with
      | zero => simp [fieldOfTree?] at h
      | succ r =>
        rw [fieldOfTree?] at h
        obtain ⟨ps, hps, rfl⟩ := Option.map_eq_some_iff.mp h
        exact isSorted_of_patternsOfTrees? ts hps
    | _ =>
      rw [fieldOfTree?_patterns_eq_none (by simp)] at h
      cases h
  | captures | beginCaptures | endCaptures =>
    cases t with
    | object ms =>
      cases r with
      | zero => simp [fieldOfTree?] at h
      | succ r =>
        rw [fieldOfTree?] at h
        obtain ⟨l, hl, rfl⟩ := Option.map_eq_some_iff.mp h
        exact .sortCaptures (isSorted_of_captureEntries ms hl)
    | _ =>
      rw [fieldOfTree?_table_eq_none (by decide) (by simp)] at h
      cases h
  | _ =>
    simp only [fieldOfTree?] at h
    obtain ⟨v, -, rfl⟩ := Option.map_eq_some_iff.mp h
    trivial

theorem isSorted_of_captureEntries {c : Bool} {r : Nat} (ms : List (List Char × JsonTree))
    {l : List (Nat × Capture Pattern)} (h : captureEntries c r ms = some l) :
    ∀ e ∈ l, ∀ q ∈ e.2.patterns, q.IsSorted := by
  match ms with
  | [] =>
    rw [captureEntries] at h
    exact forall_mem_of_nil_eq_some h
  | (k, t) :: ms =>
    rw [captureEntries] at h
    split at h
    · cases h
    · obtain ⟨group, -, h⟩ := Option.bind_eq_some_iff.mp h
      exact forall_mem_of_cons_eq_some h (fun _ hc ↦ isSorted_of_captureOfTree? hc)
        fun _ hl ↦ isSorted_of_captureEntries ms hl

theorem isSorted_of_captureOfTree? {r : Nat} {t : JsonTree} {c : Capture Pattern}
    (h : captureOfTree? r t = some c) : ∀ q ∈ c.patterns, q.IsSorted := by
  match r, t with
  | _, .string written =>
    rw [captureOfTree?] at h
    obtain ⟨name, -, rfl⟩ := Option.map_eq_some_iff.mp h
    exact List.forall_mem_nil _
  | r + 1, .object ms =>
    rw [captureOfTree?] at h
    split at h
    · obtain ⟨fields, hfields, hc⟩ := Option.bind_eq_some_iff.mp h
      exact CaptureField.isSorted_of_capture?_eq_some hc (isSorted_of_captureFields ms hfields)
    · cases h
  | 0, .object _ | _, .array _ | _, .null | _, .bool _ | _, .number _ =>
    simp [captureOfTree?] at h

theorem isSorted_of_captureFields {r : Nat} (ms : List (List Char × JsonTree))
    {fields : List CaptureField} (h : captureFields r ms = some fields) :
    ∀ f ∈ fields, f.IsSorted := by
  match ms with
  | [] =>
    rw [captureFields] at h
    exact forall_mem_of_nil_eq_some h
  | (k, t) :: ms =>
    rw [captureFields] at h
    split at h
    · exact forall_mem_of_cons_eq_some h (fun _ _ ↦ trivial)
        fun _ hfields ↦ isSorted_of_captureFields ms hfields
    · exact forall_mem_of_cons_eq_some h (fun _ hps ↦ isSorted_of_capturePatterns? hps)
        fun _ hfields ↦ isSorted_of_captureFields ms hfields
    · exact isSorted_of_captureFields ms h
    · cases h

theorem isSorted_of_capturePatterns? {r : Nat} {t : JsonTree} {ps : List Pattern}
    (h : capturePatterns? r t = some ps) : ∀ p ∈ ps, p.IsSorted := by
  match r, t with
  | r + 1, .array ts =>
    rw [capturePatterns?] at h
    exact isSorted_of_patternsOfTrees? ts h
  | 0, _ => simp [capturePatterns?] at h
  | r + 1, .object _ | r + 1, .null | r + 1, .bool _ | r + 1, .number _ | r + 1, .string _ =>
    simp [capturePatterns?] at h

end

theorem isSorted_of_repositoryEntries {r : Nat} (ms : List (List Char × JsonTree))
    {l : List (String × Pattern)} (h : repositoryEntries r ms = some l) :
    ∀ e ∈ l, e.2.IsSorted := by
  induction ms generalizing l with
  | nil => exact forall_mem_of_nil_eq_some h
  | cons m ms ih =>
    obtain ⟨name, -, h⟩ := Option.bind_eq_some_iff.mp h
    exact forall_mem_of_cons_eq_some h (fun _ hp ↦ Pattern.isSorted_of_ofTree? hp) fun _ hl ↦ ih hl

namespace Grammar

variable {g g' : Grammar}

theorem isSorted_iff : g.IsSorted ↔
    (∀ p ∈ g.patterns, p.IsSorted) ∧ ∀ e ∈ g.repository.entries, e.2.IsSorted := by
  simp only [IsSorted, List.forall_mem_append, List.forall_mem_map]

/-- Setting a field of a grammar keeps it sorted. -/
theorem IsSorted.of_assign? {r : Nat} {field : String × JsonTree} (hg : g.IsSorted)
    (h : g.assign? r field = some g') : g'.IsSorted := by
  obtain ⟨hpatterns, hrules⟩ := isSorted_iff.mp hg
  unfold assign? at h
  split at h
  · obtain ⟨v, -, rfl⟩ := Option.map_eq_some_iff.mp h
    exact hg
  · obtain ⟨v, -, rfl⟩ := Option.map_eq_some_iff.mp h
    exact hg
  · obtain ⟨v, -, rfl⟩ := Option.map_eq_some_iff.mp h
    exact hg
  · split at h
    · cases h
    · obtain ⟨ps, hps, rfl⟩ := Option.map_eq_some_iff.mp h
      exact isSorted_iff.mpr ⟨isSorted_of_patternsOfTrees? _ hps, hrules⟩
  · split at h
    · cases h
    · obtain ⟨l, hl, rfl⟩ := Option.map_eq_some_iff.mp h
      refine isSorted_iff.mpr ⟨hpatterns, fun e he ↦ isSorted_of_repositoryEntries _ hl e ?_⟩
      rw [SortedMap.ofList, SortedMap.entries_foldl_insert] at he
      exact (mem_of_mem_foldl_insertEntry he).resolve_right List.not_mem_nil
  · cases h

/-- **A grammar that is read is sorted.** -/
theorem isSorted_of_ofJson? {text : String} (h : ofJson? text = some g) : g.IsSorted := by
  obtain ⟨t, -, h⟩ := Option.bind_eq_some_iff.mp h
  obtain ⟨fields, -, h⟩ := Option.bind_eq_some_iff.mp h
  have hassign (fields : List (String × JsonTree)) (g₀ : Grammar) (hg₀ : g₀.IsSorted)
      (h : fields.foldlM (assign? (JsonTree.maxNesting - 1)) g₀ = some g) : g.IsSorted := by
    induction fields generalizing g₀ with
    | nil => exact Option.some.inj h ▸ hg₀
    | cons field fields ih =>
      obtain ⟨g₁, hg₁, h⟩ := Option.bind_eq_some_iff.mp h
      exact ih g₁ (hg₀.of_assign? hg₁) h
  exact hassign fields {} (isSorted_iff.mpr ⟨List.forall_mem_nil _, List.forall_mem_nil _⟩) h

end Grammar

end Highlighter
