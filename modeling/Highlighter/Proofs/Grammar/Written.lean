import Highlighter.Proofs.Grammar.Captured
import Highlighter.Proofs.Json.Plain
import Mathlib.Data.List.Forall2

/-!
# Written patterns

A pattern can be written in several ways: its fields may come in any order, those that have their
default may be left out, and so may the entries of its capture tables come in any order. What is
assigned to a capture group may be written as a text if it is a scope alone. `WritesPattern` and its
companions tell all these ways.

Whatever the way, the pattern is decoded again, if its tables are in order and what it assigns to
capture groups is flat (`Pattern.IsReadable`).
-/

namespace Highlighter

open JsonTree (ArePlain)

/-- The key that names a field. -/
def PatternField.key (f : PatternField) : String := (keys.lookup f).getD ""

theorem PatternField.ofKey?_key (f : PatternField) : ofKey? f.key = some f := by
  cases f <;> decide

theorem PatternField.mem_order (f : PatternField) : f ∈ order := by
  cases f <;> decide

namespace AssignedField

/-- The text that is assigned, if that is what the field is for. -/
def text? : AssignedField → Option (Option String)
  | name v | contentName v | regex v | beginRegex v | endRegex v | target v | comment v => some v
  | _ => none

/-- The capture table that is assigned, if that is what the field is for. -/
def table? : AssignedField → Option (List (Nat × Capture Pattern))
  | captures l | beginCaptures l | endCaptures l => some l
  | _ => none

end AssignedField

/-! ## The ways to write a pattern -/

/-- The ways to write a text. -/
inductive WritesText : String → JsonTree → Prop
  | mk {s : String} {w : List Char} (h : JsonText.Writes s.toList w) : WritesText s (.string w)

/-- The ways to write a text that may be missing. -/
inductive WritesTextOrNull : Option String → JsonTree → Prop
  | null : WritesTextOrNull none .null
  | text {s : String} {t : JsonTree} (h : WritesText s t) : WritesTextOrNull (some s) t

mutual

/-- The ways to write a pattern. Fields that have their default may be left out. -/
inductive WritesPattern : Pattern → JsonTree → Prop
  | mk {p : Pattern} {fs : List PatternField} {ms : List (List Char × JsonTree)} (hnodup : fs.Nodup)
      (hdefault : ∀ f ∉ fs, p.get f = Pattern.get {} f)
      (hmembers : List.Forall₂ WritesMember (fs.map p.get) ms) : WritesPattern p (.object ms)

/-- The ways to write a field with its key. -/
inductive WritesMember : AssignedField → List Char × JsonTree → Prop
  | mk {a : AssignedField} {k : List Char} {t : JsonTree}
      (hkey : JsonText.Writes a.field.key.toList k) (hvalue : WritesField a t) :
      WritesMember a (k, t)

/-- The ways to write a field. -/
inductive WritesField : AssignedField → JsonTree → Prop
  | text {a : AssignedField} {v : Option String} {t : JsonTree} (ha : a.text? = some v)
      (h : WritesTextOrNull v t) : WritesField a t
  | patterns {ps : List Pattern} {ts : List JsonTree} (h : List.Forall₂ WritesPattern ps ts) :
      WritesField (.patterns ps) (.array ts)
  | table {a : AssignedField} {l : List (Nat × Capture Pattern)} {t : JsonTree}
      (ha : a.table? = some l) (h : WritesTable l t) : WritesField a t
  | disabled (b : UInt8) : WritesField (.disabled b) (.number (.natural b.toNat))

/-- The ways to write a capture table. -/
inductive WritesTable : List (Nat × Capture Pattern) → JsonTree → Prop
  | mk {l l' : List (Nat × Capture Pattern)} {ms : List (List Char × JsonTree)} (hperm : l'.Perm l)
      (hentries : List.Forall₂ WritesEntry l' ms) : WritesTable l (.object ms)

/-- The ways to write an entry of a capture table. -/
inductive WritesEntry : Nat × Capture Pattern → List Char × JsonTree → Prop
  | mk {group : Nat} {c : Capture Pattern} {t : JsonTree} (h : WritesCapture c t) :
      WritesEntry (group, c) (Nat.toDigits 10 group, t)

/-- The ways to write what is assigned to a capture group. Fields that have their default may be
left out. -/
inductive WritesCapture : Capture Pattern → JsonTree → Prop
  | scope {s : String} {t : JsonTree} (h : WritesText s t) : WritesCapture (.scope s) t
  | object {c : Capture Pattern} {cs : List CaptureField} {ms : List (List Char × JsonTree)}
      (hnodup : cs.Nodup) (hfields : ∀ x ∈ cs, x = .name c.name ∨ x = .patterns c.patterns)
      (hname : .name c.name ∈ cs ∨ c.name = none)
      (hpatterns : .patterns c.patterns ∈ cs ∨ c.patterns = [])
      (hmembers : List.Forall₂ WritesCaptureMember cs ms) : WritesCapture c (.object ms)

/-- The ways to write a field of what is assigned to a capture group, with its key. -/
inductive WritesCaptureMember : CaptureField → List Char × JsonTree → Prop
  | name {v : Option String} {k : List Char} {t : JsonTree}
      (hkey : JsonText.Writes "name".toList k) (h : WritesTextOrNull v t) :
      WritesCaptureMember (.name v) (k, t)
  | patterns {ps : List Pattern} {k : List Char} {ts : List JsonTree}
      (hkey : JsonText.Writes "patterns".toList k) (h : List.Forall₂ WritesPattern ps ts) :
      WritesCaptureMember (.patterns ps) (k, .array ts)

end

/-! ## All patterns can be written -/

theorem exists_forall₂ {α β : Type} {R : α → β → Prop} {l : List α} (h : ∀ a ∈ l, ∃ b, R a b) :
    ∃ l', List.Forall₂ R l l' := by
  induction l with
  | nil => exact ⟨[], .nil⟩
  | cons a l ih =>
    obtain ⟨⟨b, hb⟩, hl⟩ := List.forall_mem_cons.1 h
    obtain ⟨l', hl'⟩ := ih hl
    exact ⟨b :: l', .cons hb hl'⟩

theorem exists_writesText (s : String) : ∃ t, WritesText s t := by
  obtain ⟨w, hw⟩ := JsonText.exists_writes s.toList
  exact ⟨_, .mk hw⟩

theorem exists_writesTextOrNull (v : Option String) : ∃ t, WritesTextOrNull v t := by
  cases v with
  | none => exact ⟨_, .null⟩
  | some s =>
    obtain ⟨t, ht⟩ := exists_writesText s
    exact ⟨t, .text ht⟩

theorem exists_writesCapture {c : Capture Pattern}
    (h : ∀ p ∈ c.patterns, ∃ t, WritesPattern p t) : ∃ t, WritesCapture c t := by
  obtain ⟨t, ht⟩ := exists_writesTextOrNull c.name
  obtain ⟨ts, hts⟩ := exists_forall₂ h
  obtain ⟨k, hk⟩ := JsonText.exists_writes "name".toList
  obtain ⟨k', hk'⟩ := JsonText.exists_writes "patterns".toList
  exact ⟨_, .object (by simp) (by simp) (.inl List.mem_cons_self) (.inl (by simp))
    (.cons (.name hk ht) (.cons (.patterns hk' hts) .nil))⟩

theorem exists_writesTable {l : List (Nat × Capture Pattern)}
    (h : ∀ e ∈ l, ∀ p ∈ e.2.patterns, ∃ t, WritesPattern p t) : ∃ t, WritesTable l t := by
  have hentries : ∀ e ∈ l, ∃ m, WritesEntry e m := fun e he ↦
    (exists_writesCapture (h e he)).elim fun t ht ↦ ⟨_, .mk ht⟩
  obtain ⟨ms, hms⟩ := exists_forall₂ hentries
  exact ⟨_, .mk (.refl l) hms⟩

theorem Pattern.exists_writesField {p : Pattern} (h : ∀ q ∈ p.children, ∃ t, WritesPattern q t)
    (f : PatternField) : ∃ t, WritesField (p.get f) t := by
  have htext {a : AssignedField} {v : Option String} (ha : a.text? = some v) :
      ∃ t, WritesField a t := (exists_writesTextOrNull v).elim fun t ht ↦ ⟨t, .text ha ht⟩
  have htable {a : AssignedField} {l : List (Nat × Capture Pattern)} (ha : a.table? = some l)
      (hl : ∀ e ∈ l, e ∈ p.captures ++ p.beginCaptures ++ p.endCaptures) :
      ∃ t, WritesField a t := by
    obtain ⟨t, ht⟩ := exists_writesTable fun e he q hq ↦
      h q (List.mem_append_right _ (List.mem_flatMap.2 ⟨e, hl e he, hq⟩))
    exact ⟨t, .table ha ht⟩
  cases f with
  | patterns =>
    obtain ⟨ts, hts⟩ := exists_forall₂ fun q hq ↦ h q (List.mem_append_left _ hq)
    exact ⟨_, .patterns hts⟩
  | captures => exact htable rfl fun e he ↦ by simp [he]
  | beginCaptures => exact htable rfl fun e he ↦ by simp [he]
  | endCaptures => exact htable rfl fun e he ↦ by simp [he]
  | disabled => exact ⟨_, .disabled _⟩
  | _ => exact htext rfl

/-- Every pattern can be written, with all of its fields. -/
theorem Pattern.exists_writes (p : Pattern) : ∃ t, WritesPattern p t := by
  have hchildren : ∀ q ∈ p.children, ∃ t, WritesPattern q t := fun q hq ↦
    have := sizeOf_lt_of_mem_children hq
    q.exists_writes
  have hmembers : ∀ a ∈ PatternField.order.map p.get, ∃ m, WritesMember a m := by
    refine List.forall_mem_map.2 fun f _ ↦ ?_
    obtain ⟨k, hk⟩ := JsonText.exists_writes (p.get f).field.key.toList
    obtain ⟨t, ht⟩ := exists_writesField hchildren f
    exact ⟨_, .mk hk ht⟩
  obtain ⟨ms, hms⟩ := exists_forall₂ hmembers
  exact ⟨_, .mk (by decide) (fun f hf ↦ absurd (f.mem_order) hf) hms⟩
termination_by sizeOf p

/-! ## Written patterns are plain -/

theorem WritesText.isPlain {s : String} {t : JsonTree} (h : WritesText s t) : t.IsPlain := by
  obtain ⟨h⟩ := h
  exact .string h

theorem WritesTextOrNull.isPlain {v : Option String} {t : JsonTree} (h : WritesTextOrNull v t) :
    t.IsPlain := by
  cases h with
  | null => exact .null
  | text h => exact h.isPlain

theorem writes_toDigits (n : Nat) : JsonText.Writes (Nat.toDigits 10 n) (Nat.toDigits 10 n) := by
  refine JsonText.writes_self (List.all_eq_true.2 fun c hc ↦ ?_)
  have hdigit := Nat.isDigit_of_mem_toDigits (by decide) (by decide) hc
  have hquote : c ≠ '"' := by
    rintro rfl
    exact absurd hdigit (by decide)
  have hslash : c ≠ '\\' := by
    rintro rfl
    exact absurd hdigit (by decide)
  have hc : 32 ≤ c.toNat := by
    simp only [Char.isDigit, Bool.and_eq_true, decide_eq_true_eq] at hdigit
    exact Nat.le_trans (by decide) (UInt32.le_iff_toNat_le.1 hdigit.1)
  simp [JsonText.isUnescaped, hquote, hslash, hc]

mutual

theorem WritesPattern.isPlain (t : JsonTree) {p : Pattern} (h : WritesPattern p t) :
    t.IsPlain := by
  match t, h with
  | .object ms, .mk _ _ hmembers => exact (arePlain_members ms hmembers).isPlain_object

theorem isPlain_patterns (ts : List JsonTree) {ps : List Pattern}
    (h : List.Forall₂ WritesPattern ps ts) : ∀ t ∈ ts, t.IsPlain := by
  match ts, h with
  | [], _ => simp
  | t :: ts, .cons h hs =>
    exact List.forall_mem_cons.2 ⟨WritesPattern.isPlain t h, isPlain_patterns ts hs⟩

theorem arePlain_members (ms : List (List Char × JsonTree)) {as : List AssignedField}
    (h : List.Forall₂ WritesMember as ms) : ArePlain ms := by
  match ms, h with
  | [], _ => exact .nil
  | (k, t) :: ms, .cons (.mk hkey h) hs =>
    exact .cons hkey (WritesField.isPlain t h) (arePlain_members ms hs)

theorem WritesField.isPlain (t : JsonTree) {a : AssignedField} (h : WritesField a t) :
    t.IsPlain := by
  match t, h with
  | _, .text _ h => exact h.isPlain
  | .array ts, .patterns h => exact .array (isPlain_patterns ts h)
  | .object ms, .table _ (.mk _ hentries) => exact (arePlain_entries ms hentries).isPlain_object
  | _, .disabled b => exact .natural (Nat.lt_trans b.toNat_lt (by decide))

theorem arePlain_entries (ms : List (List Char × JsonTree)) {l : List (Nat × Capture Pattern)}
    (h : List.Forall₂ WritesEntry l ms) : ArePlain ms := by
  match ms, h with
  | [], _ => exact .nil
  | (_, t) :: ms, .cons (.mk h) hs =>
    exact .cons (writes_toDigits _) (WritesCapture.isPlain t h) (arePlain_entries ms hs)

theorem WritesCapture.isPlain (t : JsonTree) {c : Capture Pattern} (h : WritesCapture c t) :
    t.IsPlain := by
  match t, h with
  | _, .scope h => exact h.isPlain
  | .object ms, .object _ _ _ _ hmembers =>
    exact (arePlain_captureMembers ms hmembers).isPlain_object

theorem arePlain_captureMembers (ms : List (List Char × JsonTree)) {cs : List CaptureField}
    (h : List.Forall₂ WritesCaptureMember cs ms) : ArePlain ms := by
  match ms, h with
  | [], _ => exact .nil
  | _ :: ms, .cons (.name hkey h) hs =>
    exact .cons hkey h.isPlain (arePlain_captureMembers ms hs)
  | (_, .array ts) :: ms, .cons (.patterns hkey h) hs =>
    exact .cons hkey (.array (isPlain_patterns ts h)) (arePlain_captureMembers ms hs)

end

/-! ## Readable patterns -/

/-- A capture table in ascending order of groups, which are numbers of 64 bits. -/
structure IsOrderedTable (l : List (Nat × Capture Pattern)) : Prop where
  ascending : l.Pairwise (·.1 < ·.1)
  group_lt : ∀ e ∈ l, e.1 < Nat.pow 2 64

theorem IsOrderedTable.nil : IsOrderedTable [] := ⟨.nil, by simp⟩

/-- A capture table in order, with flat patterns only. -/
structure IsReadableTable (l : List (Nat × Capture Pattern)) : Prop extends IsOrderedTable l where
  isFlat : ∀ e ∈ l, ∀ p ∈ e.2.patterns, p.IsFlat

theorem IsReadableTable.nil : IsReadableTable [] := ⟨.nil, by simp⟩

/-- The capture tables here and below can be read. -/
inductive Pattern.IsReadable : Pattern → Prop
  | mk {p : Pattern} (hcaptures : IsReadableTable p.captures)
      (hbegin : IsReadableTable p.beginCaptures) (hend : IsReadableTable p.endCaptures)
      (hpatterns : ∀ q ∈ p.patterns, q.IsReadable) : IsReadable p

theorem Pattern.IsFlat.isReadable {p : Pattern} (h : p.IsFlat) : p.IsReadable := by
  induction h with
  | mk hcaptures hbegin hend _ ih =>
    exact ⟨hcaptures ▸ .nil, hbegin ▸ .nil, hend ▸ .nil, ih⟩

/-- What is assigned can be read. -/
structure AssignedField.IsReadable (a : AssignedField) : Prop where
  table : ∀ l, a.table? = some l → IsReadableTable l
  patterns : ∀ ps, a = .patterns ps → ∀ p ∈ ps, p.IsReadable

theorem Pattern.IsReadable.get {p : Pattern} (h : p.IsReadable) (f : PatternField) :
    (p.get f).IsReadable := by
  obtain ⟨hcaptures, hbegin, hend, hpatterns⟩ := h
  constructor
  · intro l hl
    cases f <;> cases hl <;> assumption
  · intro ps hps
    cases f <;> cases hps
    exact hpatterns

/-! ## Reading what was written -/

theorem WritesText.text?_eq {s : String} {t : JsonTree} (h : WritesText s t) :
    t.text? = some s := by
  obtain ⟨h⟩ := h
  exact h.decode?_eq_some

theorem WritesTextOrNull.textOrNull?_eq {v : Option String} {t : JsonTree}
    (h : WritesTextOrNull v t) : t.textOrNull? = some v := by
  cases h with
  | null => rfl
  | text h =>
    rw [JsonTree.textOrNull?, h.text?_eq, Option.map_some]
    rintro rfl
    cases h

theorem groupNumber?_toDigits {n : Nat} (h : n < Nat.pow 2 64) :
    groupNumber? (Nat.toDigits 10 n) = some n := by
  have hwhole := JsonToken.wholePart_toDigits n (by simp : ∀ c ∈ ([] : List Char).head?, ¬c.isDigit)
  rw [List.append_nil] at hwhole
  obtain ⟨_, hwhole⟩ := hwhole
  rw [groupNumber?, hwhole]
  exact (if_pos (by rwa [JsonNumber.ofDigits_naturalDigits])).trans
    (by rw [JsonNumber.ofDigits_naturalDigits])

/-- What is assigned to a capture group is read from its fields in any order. -/
theorem CaptureField.capture?_eq_some {c : Capture Pattern} {cs : List CaptureField}
    (hnodup : cs.Nodup) (hfields : ∀ x ∈ cs, x = .name c.name ∨ x = .patterns c.patterns)
    (hname : .name c.name ∈ cs ∨ c.name = none)
    (hpatterns : .patterns c.patterns ∈ cs ∨ c.patterns = []) : capture? cs = some c := by
  obtain ⟨name, patterns⟩ := c
  match cs with
  | [] =>
    obtain rfl : name = none := hname.resolve_left List.not_mem_nil
    obtain rfl : patterns = [] := hpatterns.resolve_left List.not_mem_nil
    rfl
  | [x] =>
    rcases hfields x List.mem_cons_self with rfl | rfl
    · obtain rfl : patterns = [] := hpatterns.resolve_left (by simp)
      rfl
    · obtain rfl : name = none := hname.resolve_left (by simp)
      rfl
  | [x, y] =>
    rcases hfields x (by simp) with rfl | rfl <;> rcases hfields y (by simp) with rfl | rfl <;>
      first | rfl | exact absurd hnodup (by simp)
  | x :: y :: z :: _ =>
    refine absurd hnodup ?_
    rcases hfields x (by simp) with rfl | rfl <;> rcases hfields y (by simp) with rfl | rfl <;>
      rcases hfields z (by simp) with rfl | rfl <;> simp

/-- A text field is read from a text. -/
theorem AssignedField.fieldOfTree?_of_text {a : AssignedField} {v : Option String}
    (ha : a.text? = some v) {t : JsonTree} (ht : t.textOrNull? = some v) (c : Bool) (r : Nat) :
    fieldOfTree? c r a.field t = some a := by
  cases a <;> cases ha <;> simp [field, fieldOfTree?, ht]

theorem fieldOfTree?_disabled (b : UInt8) (r : Nat) :
    fieldOfTree? false r .disabled (.number (.natural b.toNat)) = some (.disabled b) := by
  have hb : b.toNat < 256 := b.toNat_lt
  have hbyte : (JsonTree.number (.natural b.toNat)).byte? = some b := by
    simp [JsonTree.byte?, JsonNumber.value?_natural (Nat.lt_trans hb (by decide)), hb]
  rw [fieldOfTree?, hbyte, Option.map_some]

/-- A capture table is read from entries in any order. -/
theorem AssignedField.fieldOfTree?_of_table {a : AssignedField}
    {l l' : List (Nat × Capture Pattern)} (ha : a.table? = some l) (hl : l.Pairwise (·.1 < ·.1))
    (hperm : l'.Perm l) {c : Bool} {r : Nat} {ms : List (List Char × JsonTree)}
    (hentries : captureEntries c r ms = some l') :
    fieldOfTree? c (r + 1) a.field (.object ms) = some a := by
  have hsort : sortCaptures l' = l := foldl_insertEntry_eq_of_perm hperm hl
  cases a <;> cases ha <;> simp [field, fieldOfTree?, hentries, hsort]

mutual

theorem WritesPattern.ofTree?_eq_some (t : JsonTree) {p : Pattern} (h : WritesPattern p t)
    (hp : p.IsReadable) {r : Nat} (hr : t.depth ≤ r) : Pattern.ofTree? false r t = some p := by
  match t, h with
  | .object ms, .mk hnodup hdefault hmembers =>
    obtain ⟨r, rfl, hms⟩ := JsonTree.exists_eq_add_one_of_depth_object_le hr
    rw [Pattern.ofTree?, memberFields_eq_some ms hmembers
      (List.forall_mem_map.2 fun f _ ↦ hp.get f) hms, Option.bind_some]
    exact AssignedField.pattern?_eq_some_iff.2 ⟨_, hnodup, hdefault, rfl⟩

theorem patternsOfTrees?_eq_some (ts : List JsonTree) {ps : List Pattern}
    (h : List.Forall₂ WritesPattern ps ts) (hps : ∀ p ∈ ps, p.IsReadable) {r : Nat}
    (hr : JsonTree.itemsDepth ts ≤ r) : patternsOfTrees? false r ts = some ps := by
  match ts, h with
  | [], .nil => rfl
  | t :: ts, .cons h hs =>
    rw [List.forall_mem_cons] at hps
    obtain ⟨ht, hts⟩ := JsonTree.itemsDepth_cons_le.1 hr
    rw [patternsOfTrees?, WritesPattern.ofTree?_eq_some t h hps.1 ht,
      patternsOfTrees?_eq_some ts hs hps.2 hts]
    rfl

theorem memberFields_eq_some (ms : List (List Char × JsonTree)) {as : List AssignedField}
    (h : List.Forall₂ WritesMember as ms) (has : ∀ a ∈ as, a.IsReadable) {r : Nat}
    (hr : JsonTree.membersDepth ms ≤ r) : memberFields false r ms = some as := by
  match ms, h with
  | [], .nil => rfl
  | (k, t) :: ms, .cons (.mk hkey hfield) hs =>
    rw [List.forall_mem_cons] at has
    obtain ⟨ht, hms⟩ := JsonTree.membersDepth_cons_le.1 hr
    have hfirst := WritesField.fieldOfTree?_eq_some t hfield has.1 ht
    have hrest := memberFields_eq_some ms hs has.2 hms
    rw [memberFields, hkey.decode?_eq_some]
    simp only [PatternField.ofKey?_key, hfirst, hrest]
    rfl

theorem WritesField.fieldOfTree?_eq_some (t : JsonTree) {a : AssignedField} (h : WritesField a t)
    (ha : a.IsReadable) {r : Nat} (hr : t.depth ≤ r) :
    fieldOfTree? false r a.field t = some a := by
  match t, h with
  | _, .text htext h => exact AssignedField.fieldOfTree?_of_text htext h.textOrNull?_eq false r
  | .array ts, .patterns h =>
    obtain ⟨r, rfl, hts⟩ := JsonTree.exists_eq_add_one_of_depth_array_le hr
    rw [AssignedField.field, fieldOfTree?,
      patternsOfTrees?_eq_some ts h (ha.patterns _ rfl) hts]
    rfl
  | .object ms, .table htable (.mk hperm hentries) =>
    obtain ⟨r, rfl, hms⟩ := JsonTree.exists_eq_add_one_of_depth_object_le hr
    obtain ⟨⟨hascending, hgroup⟩, hflat⟩ := ha.table _ htable
    have hread := captureEntries_eq_some ms hentries (fun e he ↦ hgroup e (hperm.mem_iff.1 he))
      (fun e he ↦ hflat e (hperm.mem_iff.1 he)) hms
    exact AssignedField.fieldOfTree?_of_table htable hascending hperm hread
  | _, .disabled b => exact fieldOfTree?_disabled b r

theorem captureEntries_eq_some (ms : List (List Char × JsonTree))
    {l : List (Nat × Capture Pattern)} (h : List.Forall₂ WritesEntry l ms)
    (hgroup : ∀ e ∈ l, e.1 < Nat.pow 2 64) (hflat : ∀ e ∈ l, ∀ p ∈ e.2.patterns, p.IsFlat) {r : Nat}
    (hr : JsonTree.membersDepth ms ≤ r) : captureEntries false r ms = some l := by
  match ms, h with
  | [], .nil => rfl
  | (_, t) :: ms, .cons (.mk h) hs =>
    rw [List.forall_mem_cons] at hgroup hflat
    obtain ⟨ht, hms⟩ := JsonTree.membersDepth_cons_le.1 hr
    rw [captureEntries, groupNumber?_toDigits hgroup.1,
      WritesCapture.captureOfTree?_eq_some t h hflat.1 ht,
      captureEntries_eq_some ms hs hgroup.2 hflat.2 hms]
    rfl

theorem WritesCapture.captureOfTree?_eq_some (t : JsonTree) {c : Capture Pattern}
    (h : WritesCapture c t) (hc : ∀ p ∈ c.patterns, p.IsFlat) {r : Nat} (hr : t.depth ≤ r) :
    captureOfTree? r t = some c := by
  have hplain := WritesCapture.isPlain t h
  match t, h with
  | .string w, .scope (.mk h) =>
    rw [captureOfTree?, h.decode?_eq_some]
    rfl
  | .object ms, @WritesCapture.object _ cs _ hnodup hfields hname hpatterns hmembers =>
    obtain ⟨r, rfl, hms⟩ := JsonTree.exists_eq_add_one_of_depth_object_le hr
    have hvalues : JsonTree.areMembers r ms := hplain.isValue hr
    have hflat : ∀ ps, .patterns ps ∈ cs → ∀ p ∈ ps, p.IsFlat := by
      intro ps hps
      rcases hfields _ hps with heq | heq <;> cases heq
      exact hc
    rw [captureOfTree?, if_pos hvalues, captureFields_eq_some ms hmembers hflat hms,
      Option.bind_some]
    exact CaptureField.capture?_eq_some hnodup hfields hname hpatterns

theorem captureFields_eq_some (ms : List (List Char × JsonTree)) {cs : List CaptureField}
    (h : List.Forall₂ WritesCaptureMember cs ms)
    (hcs : ∀ ps, .patterns ps ∈ cs → ∀ p ∈ ps, p.IsFlat) {r : Nat}
    (hr : JsonTree.membersDepth ms ≤ r) : captureFields r ms = some cs := by
  match ms, h with
  | [], .nil => rfl
  | (_, t) :: ms, .cons (.name hkey h) hs =>
    obtain ⟨-, hms⟩ := JsonTree.membersDepth_cons_le.1 hr
    have hrest := captureFields_eq_some ms hs (fun ps hps ↦ hcs ps (List.mem_cons_of_mem _ hps)) hms
    rw [captureFields, hkey.decode?_eq_some]
    simp only [h.textOrNull?_eq, hrest]
    rfl
  | (_, .array ts) :: ms, .cons (.patterns hkey h) hs =>
    obtain ⟨ht, hms⟩ := JsonTree.membersDepth_cons_le.1 hr
    obtain ⟨r, rfl, hts⟩ := JsonTree.exists_eq_add_one_of_depth_array_le ht
    have hflat := hcs _ List.mem_cons_self
    have hread := patternsOfTrees?_eq_some ts h (fun p hp ↦ (hflat p hp).isReadable) hts
    have hcaptured := (restricts_patternsOfTrees? true ts hts hts _).2
      ⟨hread, fun p hp _ ↦ hflat p hp⟩
    have hrest := captureFields_eq_some ms hs (fun ps hps ↦ hcs ps (List.mem_cons_of_mem _ hps)) hms
    rw [captureFields, hkey.decode?_eq_some]
    simp only [capturePatterns?, hcaptured, hrest]
    rfl

end

end Highlighter
