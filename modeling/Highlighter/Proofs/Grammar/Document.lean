import Highlighter.Proofs.Grammar.Written

/-!
# Written grammars

What is built can be written and read again. Of the patterns that are built, only those are read
again that assign nothing but flat patterns to capture groups; then every way to write a grammar
gives back the grammar, as long as the document does not nest too deeply. All of a grammar can be
written (`Grammar.exists_isWritten`).
-/

namespace Highlighter

open JsonTree (ArePlain)

/-! ## What is built -/

namespace Pattern

/-- The patterns that can be built. -/
inductive IsBuilt : Pattern → Prop
  | single (source : String) : IsBuilt (single source)
  | block (begins ends : String) : IsBuilt (block begins ends)
  | including (target : String) : IsBuilt (including target)
  | group {ps : List Pattern} (hps : ∀ q ∈ ps, q.IsBuilt) : IsBuilt (group ps)
  | named {p : Pattern} (h : p.IsBuilt) (name : String) : IsBuilt (p.named name)
  | withContentName {p : Pattern} (h : p.IsBuilt) (name : String) : IsBuilt (p.withContentName name)
  | withPatterns {p : Pattern} (h : p.IsBuilt) {ps : List Pattern} (hps : ∀ q ∈ ps, q.IsBuilt) :
      IsBuilt (p.withPatterns ps)
  | withCapture {p : Pattern} (h : p.IsBuilt) {n : Nat} (hn : n < Nat.pow 2 64)
      {c : Capture Pattern} (hc : ∀ q ∈ c.patterns, q.IsBuilt) : IsBuilt (p.withCapture n c)
  | withBeginCapture {p : Pattern} (h : p.IsBuilt) {n : Nat} (hn : n < Nat.pow 2 64)
      {c : Capture Pattern} (hc : ∀ q ∈ c.patterns, q.IsBuilt) : IsBuilt (p.withBeginCapture n c)
  | withEndCapture {p : Pattern} (h : p.IsBuilt) {n : Nat} (hn : n < Nat.pow 2 64)
      {c : Capture Pattern} (hc : ∀ q ∈ c.patterns, q.IsBuilt) : IsBuilt (p.withEndCapture n c)
  | disabled {p : Pattern} (h : p.IsBuilt) : IsBuilt p.disabled

/-- The capture tables here and of the patterns below are in order. -/
inductive IsOrdered : Pattern → Prop
  | mk {p : Pattern} (hcaptures : IsOrderedTable p.captures)
      (hbegin : IsOrderedTable p.beginCaptures) (hend : IsOrderedTable p.endCaptures)
      (hpatterns : ∀ q ∈ p.patterns, q.IsOrdered) : IsOrdered p

/-- The patterns that are assigned to capture groups, here and below, are flat. -/
inductive HasFlatCaptures : Pattern → Prop
  | mk {p : Pattern}
      (hcaptures : ∀ e ∈ p.captures ++ p.beginCaptures ++ p.endCaptures,
        ∀ q ∈ e.2.patterns, q.IsFlat)
      (hpatterns : ∀ q ∈ p.patterns, q.HasFlatCaptures) : HasFlatCaptures p

end Pattern

theorem IsOrderedTable.insertEntry {l : List (Nat × Capture Pattern)} (h : IsOrderedTable l)
    {n : Nat} (hn : n < Nat.pow 2 64) (c : Capture Pattern) : IsOrderedTable (insertEntry n c l) :=
  ⟨pairwise_insertEntry h.ascending, forall_key_insertEntry (P := (· < Nat.pow 2 64)) hn h.group_lt⟩

namespace Pattern

/-- Building keeps capture tables in order. -/
theorem IsBuilt.isOrdered {p : Pattern} (h : p.IsBuilt) : p.IsOrdered := by
  induction h with
  | single | block | including => exact ⟨.nil, .nil, .nil, List.forall_mem_nil _⟩
  | group _ ih => exact ⟨.nil, .nil, .nil, ih⟩
  | named _ _ ih | withContentName _ _ ih | disabled _ ih =>
    obtain ⟨hcaptures, hbegin, hend, hpatterns⟩ := ih
    exact ⟨hcaptures, hbegin, hend, hpatterns⟩
  | withPatterns _ _ ih ihs =>
    obtain ⟨hcaptures, hbegin, hend, -⟩ := ih
    exact ⟨hcaptures, hbegin, hend, ihs⟩
  | withCapture _ hn _ ih =>
    obtain ⟨hcaptures, hbegin, hend, hpatterns⟩ := ih
    exact ⟨hcaptures.insertEntry hn _, hbegin, hend, hpatterns⟩
  | withBeginCapture _ hn _ ih =>
    obtain ⟨hcaptures, hbegin, hend, hpatterns⟩ := ih
    exact ⟨hcaptures, hbegin.insertEntry hn _, hend, hpatterns⟩
  | withEndCapture _ hn _ ih =>
    obtain ⟨hcaptures, hbegin, hend, hpatterns⟩ := ih
    exact ⟨hcaptures, hbegin, hend.insertEntry hn _, hpatterns⟩

theorem IsOrdered.isReadable {p : Pattern} (h : p.IsOrdered) (hflat : p.HasFlatCaptures) :
    p.IsReadable := by
  induction h with
  | mk hcaptures hbegin hend _ ih =>
    obtain ⟨hflat, hpatterns⟩ := hflat
    simp only [List.mem_append, or_imp, forall_and] at hflat
    exact ⟨⟨hcaptures, hflat.1.1⟩, ⟨hbegin, hflat.1.2⟩, ⟨hend, hflat.2⟩,
      fun q hq ↦ ih q hq (hpatterns q hq)⟩

end Pattern

namespace Grammar

/-- The grammars that can be built. -/
inductive IsBuilt : Grammar → Prop
  | new (scopeName : String) : IsBuilt (new scopeName)
  | named {g : Grammar} (h : g.IsBuilt) (name : String) : IsBuilt (g.named name)
  | withFileType {g : Grammar} (h : g.IsBuilt) (extension : String) :
      IsBuilt (g.withFileType extension)
  | withPattern {g : Grammar} (h : g.IsBuilt) {p : Pattern} (hp : p.IsBuilt) :
      IsBuilt (g.withPattern p)
  | withRule {g : Grammar} (h : g.IsBuilt) (name : String) {p : Pattern} (hp : p.IsBuilt) :
      IsBuilt (g.withRule name p)

/-- The patterns at the top and in the repository. -/
def allPatterns (g : Grammar) : List Pattern := g.patterns ++ g.repository.entries.map (·.2)

theorem IsBuilt.isBuilt_of_mem {g : Grammar} (h : g.IsBuilt) : ∀ p ∈ g.allPatterns, p.IsBuilt := by
  induction h with
  | new => exact List.forall_mem_nil _
  | named _ _ ih | withFileType _ _ ih => exact ih
  | withPattern _ hp ih =>
    intro q hq
    simp only [allPatterns, Grammar.withPattern, List.mem_append, List.mem_singleton,
      or_assoc] at hq
    rcases hq with hq | rfl | hq
    · exact ih q (List.mem_append_left _ hq)
    · exact hp
    · exact ih q (List.mem_append_right _ hq)
  | withRule _ name hp ih =>
    intro q hq
    rcases List.mem_append.1 hq with hq | hq
    · exact ih q (List.mem_append_left _ hq)
    · obtain ⟨e, he, rfl⟩ := List.mem_map.1 hq
      rcases eq_or_mem_of_mem_insertEntry he with rfl | he
      · exact hp
      · exact ih e.2 (List.mem_append_right _ (List.mem_map_of_mem he))

/-! ## The ways to write a grammar -/

/-- Two grammars have the same in the field of a key. -/
def AgreesOn (g g' : Grammar) : String → Prop
  | "scopeName" => g.scopeName = g'.scopeName
  | "name" => g.displayName = g'.displayName
  | "fileTypes" => g.fileTypes = g'.fileTypes
  | "patterns" => g.patterns = g'.patterns
  | "repository" => g.repository = g'.repository
  | _ => True

/-- A grammar with the field of a key as another grammar has it. -/
def withFieldOf (g g' : Grammar) : String → Grammar
  | "scopeName" => { g with scopeName := g'.scopeName }
  | "name" => { g with displayName := g'.displayName }
  | "fileTypes" => { g with fileTypes := g'.fileTypes }
  | "patterns" => { g with patterns := g'.patterns }
  | "repository" => { g with repository := g'.repository }
  | _ => g

theorem eq_of_agreesOn {g g' : Grammar} (h : ∀ key, g.AgreesOn g' key) : g = g' := by
  obtain ⟨_, _, _, _, _⟩ := g
  obtain ⟨_, _, _, _, _⟩ := g'
  obtain rfl := h "scopeName"
  obtain rfl := h "name"
  obtain rfl := h "fileTypes"
  obtain rfl := h "patterns"
  obtain rfl := h "repository"
  rfl

theorem agreesOn_withFieldOf_self (g g' : Grammar) (key : String) :
    (g.withFieldOf g' key).AgreesOn g' key := by
  unfold AgreesOn
  split <;> trivial

theorem agreesOn_withFieldOf_of_ne {g g' : Grammar} {key key' : String} (hne : key' ≠ key)
    (h : g.AgreesOn g' key') : (g.withFieldOf g' key).AgreesOn g' key' := by
  unfold withFieldOf
  split <;> revert h <;> unfold AgreesOn <;> split <;> first | exact id | exact absurd rfl hne

/-- The ways to write an entry of the repository. -/
inductive WritesRule : String × Pattern → List Char × JsonTree → Prop
  | mk {name : String} {p : Pattern} {k : List Char} {t : JsonTree}
      (hkey : JsonText.Writes name.toList k) (h : WritesPattern p t) : WritesRule (name, p) (k, t)

/-- The ways to write a field of a grammar. -/
inductive WritesField (g : Grammar) : String → JsonTree → Prop
  | scopeName {t : JsonTree} (h : WritesText g.scopeName t) : WritesField g "scopeName" t
  | name {t : JsonTree} (h : WritesTextOrNull g.displayName t) : WritesField g "name" t
  | fileTypes {ts : List JsonTree} (h : List.Forall₂ WritesText g.fileTypes ts) :
      WritesField g "fileTypes" (.array ts)
  | patterns {ts : List JsonTree} (h : List.Forall₂ WritesPattern g.patterns ts) :
      WritesField g "patterns" (.array ts)
  | repository {l : List (String × Pattern)} {ms : List (List Char × JsonTree)}
      (hperm : l.Perm g.repository.entries) (h : List.Forall₂ WritesRule l ms) :
      WritesField g "repository" (.object ms)

/-- The ways to write a field of a grammar with its key. -/
inductive WritesMember (g : Grammar) : String → List Char × JsonTree → Prop
  | mk {key : String} {k : List Char} {t : JsonTree} (hkey : JsonText.Writes key.toList k)
      (h : g.WritesField key t) : WritesMember g key (k, t)

/-- The ways to write a grammar. Fields that have their default may be left out. -/
inductive IsWritten (g : Grammar) : JsonTree → Prop
  | mk {keys : List String} {ms : List (List Char × JsonTree)} (hnodup : keys.Nodup)
      (hdefault : ∀ key ∉ keys, AgreesOn {} g key)
      (hmembers : List.Forall₂ g.WritesMember keys ms) : IsWritten g (.object ms)

theorem exists_writesField (g : Grammar) {key : String} (hkey : key ∈ fieldKeys) :
    ∃ t, g.WritesField key t := by
  simp only [fieldKeys, List.mem_cons, List.not_mem_nil, or_false] at hkey
  rcases hkey with rfl | rfl | rfl | rfl | rfl
  · exact (exists_writesText g.scopeName).elim fun t ht ↦ ⟨t, .scopeName ht⟩
  · exact (exists_writesTextOrNull g.displayName).elim fun t ht ↦ ⟨t, .name ht⟩
  · obtain ⟨ts, hts⟩ := exists_forall₂ fun s (_ : s ∈ g.fileTypes) ↦ exists_writesText s
    exact ⟨_, .fileTypes hts⟩
  · obtain ⟨ts, hts⟩ := exists_forall₂ fun p (_ : p ∈ g.patterns) ↦ p.exists_writes
    exact ⟨_, .patterns hts⟩
  · have hrules : ∀ e ∈ g.repository.entries, ∃ m, WritesRule e m := fun e _ ↦ by
      obtain ⟨k, hk⟩ := JsonText.exists_writes e.1.toList
      obtain ⟨t, ht⟩ := e.2.exists_writes
      exact ⟨_, .mk hk ht⟩
    obtain ⟨ms, hms⟩ := exists_forall₂ hrules
    exact ⟨_, .repository (.refl _) hms⟩

theorem agreesOn_of_notMem_fieldKeys {g g' : Grammar} {key : String} (h : key ∉ fieldKeys) :
    g.AgreesOn g' key := by
  unfold AgreesOn
  split <;> trivial

/-- Every grammar can be written, with all of its fields. -/
theorem exists_isWritten (g : Grammar) : ∃ t, g.IsWritten t := by
  have hmembers : ∀ key ∈ fieldKeys, ∃ m, g.WritesMember key m := fun key hkey ↦ by
    obtain ⟨k, hk⟩ := JsonText.exists_writes key.toList
    obtain ⟨t, ht⟩ := g.exists_writesField hkey
    exact ⟨_, .mk hk ht⟩
  obtain ⟨ms, hms⟩ := exists_forall₂ hmembers
  exact ⟨_, .mk (by decide) (fun _ ↦ agreesOn_of_notMem_fieldKeys) hms⟩

/-! ## Written grammars are plain -/

theorem arePlain_rules {l : List (String × Pattern)} {ms : List (List Char × JsonTree)}
    (h : List.Forall₂ WritesRule l ms) : ArePlain ms := by
  induction h with
  | nil => exact .nil
  | cons h _ ih =>
    obtain ⟨hkey, h⟩ := h
    exact .cons hkey h.isPlain ih

theorem isPlain_texts {ss : List String} {ts : List JsonTree} (h : List.Forall₂ WritesText ss ts) :
    ∀ t ∈ ts, t.IsPlain := by
  induction h with
  | nil => simp
  | cons h _ ih => exact List.forall_mem_cons.2 ⟨h.isPlain, ih⟩

theorem WritesField.isPlain {g : Grammar} {key : String} {t : JsonTree}
    (h : g.WritesField key t) : t.IsPlain := by
  cases h with
  | scopeName h => exact h.isPlain
  | name h => exact h.isPlain
  | fileTypes h => exact .array (isPlain_texts h)
  | patterns h => exact .array (isPlain_patterns _ h)
  | repository _ h => exact (arePlain_rules h).isPlain_object

theorem IsWritten.isPlain {g : Grammar} {t : JsonTree} (h : g.IsWritten t) : t.IsPlain := by
  obtain ⟨-, -, hmembers⟩ := h
  refine ArePlain.isPlain_object ?_
  induction hmembers with
  | nil => exact .nil
  | cons h _ ih =>
    obtain ⟨hkey, h⟩ := h
    exact .cons hkey h.isPlain ih

/-! ## Reading what was written -/

theorem read_texts {ss : List String} {ts : List JsonTree} (h : List.Forall₂ WritesText ss ts) :
    ts.mapM JsonTree.text? = some ss := by
  induction h with
  | nil => rfl
  | cons h _ ih => rw [List.mapM_cons, h.text?_eq, ih]; rfl

theorem read_rules {l : List (String × Pattern)} {ms : List (List Char × JsonTree)}
    (h : List.Forall₂ WritesRule l ms) (hl : ∀ e ∈ l, e.2.IsReadable) {r : Nat}
    (hr : JsonTree.membersDepth ms ≤ r) : repositoryEntries r ms = some l := by
  induction h with
  | nil => rfl
  | @cons e m l ms h _ ih =>
    obtain ⟨hkey, h⟩ := h
    rw [List.forall_mem_cons] at hl
    obtain ⟨ht, hms⟩ := JsonTree.membersDepth_cons_le.1 hr
    rw [repositoryEntries, hkey.decode?_eq_some, h.ofTree?_eq_some _ hl.1 ht, ih hl.2 hms]
    rfl

theorem WritesField.assign?_eq_some {g : Grammar} (hg : ∀ p ∈ g.allPatterns, p.IsReadable)
    {key : String} {t : JsonTree} (h : g.WritesField key t) {r : Nat} (hr : t.depth ≤ r)
    (g₁ : Grammar) : assign? r g₁ (key, t) = some (g₁.withFieldOf g key) := by
  have hpatterns : ∀ p ∈ g.patterns, p.IsReadable := fun p hp ↦
    hg p (List.mem_append_left _ hp)
  have hrules : ∀ e ∈ g.repository.entries, e.2.IsReadable := fun e he ↦
    hg e.2 (List.mem_append_right _ (List.mem_map_of_mem he))
  cases h with
  | scopeName h =>
    rw [assign?, h.text?_eq]
    rfl
  | name h =>
    rw [assign?, h.textOrNull?_eq]
    rfl
  | @fileTypes ts h =>
    obtain ⟨r, rfl, -⟩ := JsonTree.exists_eq_add_one_of_depth_array_le hr
    rw [assign?, JsonTree.texts?, if_neg (Nat.succ_ne_zero r), read_texts h]
    rfl
  | @patterns ts h =>
    obtain ⟨r, rfl, hts⟩ := JsonTree.exists_eq_add_one_of_depth_array_le hr
    rw [assign?, if_neg (Nat.succ_ne_zero r), Nat.add_sub_cancel,
      patternsOfTrees?_eq_some ts h hpatterns hts]
    rfl
  | @repository l ms hperm h =>
    obtain ⟨r, rfl, hms⟩ := JsonTree.exists_eq_add_one_of_depth_object_le hr
    have hread := read_rules h (fun e he ↦ hrules e (hperm.mem_iff.1 he)) hms
    rw [assign?, if_neg (Nat.succ_ne_zero r), Nat.add_sub_cancel, hread, Option.map_some,
      SortedMap.ofList_eq_of_perm hperm]
    rfl

/-- Assigning the fields that are written one after the other makes the grammar. -/
theorem foldlM_assign?_eq_some {g : Grammar} (hg : ∀ p ∈ g.allPatterns, p.IsReadable) {r : Nat}
    {fields : List (String × JsonTree)}
    (hfields : ∀ e ∈ fields, g.WritesField e.1 e.2 ∧ e.2.depth ≤ r) {g₁ : Grammar}
    (hrest : ∀ key ∉ fields.map (·.1), g₁.AgreesOn g key) :
    fields.foldlM (assign? r) g₁ = some g := by
  induction fields generalizing g₁ with
  | nil => exact congrArg some (eq_of_agreesOn fun key ↦ hrest key List.not_mem_nil)
  | cons e fields ih =>
    obtain ⟨⟨hwrites, hdepth⟩, hfields⟩ := List.forall_mem_cons.1 hfields
    rw [List.foldlM_cons, hwrites.assign?_eq_some hg hdepth g₁]
    refine ih hfields fun key hkey ↦ ?_
    rcases eq_or_ne key e.1 with rfl | hne
    · exact agreesOn_withFieldOf_self g₁ g e.1
    · exact agreesOn_withFieldOf_of_ne hne (hrest key (by simp [hne, hkey]))

theorem WritesField.mem_fieldKeys {g : Grammar} {key : String} {t : JsonTree}
    (h : g.WritesField key t) : key ∈ fieldKeys := by
  cases h <;> decide

theorem exists_mapM_eq_some {g : Grammar} {keys : List String} {ms : List (List Char × JsonTree)}
    (h : List.Forall₂ g.WritesMember keys ms) {r : Nat} (hr : JsonTree.membersDepth ms ≤ r) :
    ∃ fields : List (String × JsonTree),
      ms.mapM (fun (k, t) ↦ return (id (← JsonText.decode? k), t)) = some fields ∧
        fields.map (·.1) = keys ∧ ∀ e ∈ fields, g.WritesField e.1 e.2 ∧ e.2.depth ≤ r := by
  induction h with
  | nil => exact ⟨[], rfl, rfl, by simp⟩
  | @cons key _ _ _ h _ ih =>
    cases h with
    | @mk k t hkey h =>
      obtain ⟨ht, hms⟩ := JsonTree.membersDepth_cons_le.1 hr
      obtain ⟨fields, hfields, hkeys, hwrites⟩ := ih hms
      refine ⟨(key, t) :: fields, ?_, by rw [List.map_cons, hkeys],
        List.forall_mem_cons.2 ⟨⟨h, ht⟩, hwrites⟩⟩
      simp only [List.mapM_cons, hfields, hkey.decode?_eq_some]
      rfl

/-- The members of a written grammar are its fields. -/
theorem exists_fields?_eq_some {g : Grammar} {keys : List String}
    {ms : List (List Char × JsonTree)} (h : List.Forall₂ g.WritesMember keys ms)
    (hnodup : keys.Nodup) {r : Nat} (hr : JsonTree.membersDepth ms ≤ r) :
    ∃ fields, (JsonTree.object ms).fields? fieldKeys id = some fields ∧
      fields.map (·.1) = keys ∧ ∀ e ∈ fields, g.WritesField e.1 e.2 ∧ e.2.depth ≤ r := by
  obtain ⟨fields, hfields, hkeys, hwrites⟩ := exists_mapM_eq_some h hr
  have hknown : fields.filter (fun e ↦ fieldKeys.contains e.1) = fields :=
    List.filter_eq_self.2 fun e he ↦ List.contains_iff_mem.2 (hwrites e he).1.mem_fieldKeys
  have hunique : ((fields.filter fun e ↦ fieldKeys.contains e.1).map (·.1)).Nodup := by
    rwa [hknown, hkeys]
  refine ⟨fields, ?_, hkeys, hwrites⟩
  rw [JsonTree.fields?, hfields]
  exact (if_pos hunique).trans (congrArg some hknown)

theorem IsWritten.ofTree?_eq_some {g : Grammar} (hg : ∀ p ∈ g.allPatterns, p.IsReadable)
    {t : JsonTree} (h : g.IsWritten t) (hdepth : t.depth ≤ JsonTree.maxNesting) :
    Grammar.ofTree? t = some g := by
  obtain ⟨hnodup, hdefault, hmembers⟩ := h
  have hms := Nat.le_sub_one_of_lt (Nat.lt_of_succ_le hdepth)
  obtain ⟨fields, hfields, rfl, hwrites⟩ := exists_fields?_eq_some hmembers hnodup hms
  rw [Grammar.ofTree?, hfields]
  exact foldlM_assign?_eq_some hg hwrites hdefault

/-- **What is written is read again.** Any way to write a grammar that was built, as a document that
does not nest too deeply, is read as that grammar, if only flat patterns are assigned to capture
groups. -/
theorem ofJson?_of_isWritten {g : Grammar} (hbuilt : g.IsBuilt)
    (hflat : ∀ p ∈ g.allPatterns, p.HasFlatCaptures) {t : JsonTree} (hwritten : g.IsWritten t)
    (hdepth : t.depth ≤ JsonTree.maxNesting) {text : String} (htext : t.IsText text) :
    Grammar.ofJson? text = some g := by
  have hreadable : ∀ p ∈ g.allPatterns, p.IsReadable := fun p hp ↦
    (hbuilt.isBuilt_of_mem p hp).isOrdered.isReadable (hflat p hp)
  rw [ofJson?, htext.ofString?_eq_some, Option.bind_some, hwritten.ofTree?_eq_some hreadable hdepth]

end Grammar

/-! ## A grammar and a way to write it -/

/-- A block in which groups are assigned to in two ways. -/
def bracketBlock : Pattern :=
  (((Pattern.block "\\[" "]").named "meta").withBeginCapture 0 (.scope "open")).withCapture 1
    { patterns := [.single "x"] }

/-- A rule that is off. -/
def bracketInclude : Pattern := (Pattern.including "#on").disabled

/-- A grammar with the block and the rule. -/
def brackets : Grammar :=
  (((Grammar.new "source.brackets").withFileType "br").withPattern bracketBlock).withRule "off"
    bracketInclude

/-- The patterns of a way to write it, with fields out of order and left out. -/
def bracketsPatterns : JsonTree :=
  .array [.object [
    ("end".toList, .string "]".toList),
    ("begin".toList, .string "\\\\[".toList),
    ("contentName".toList, .null),
    ("captures".toList, .object [("1".toList, .object [
      ("patterns".toList, .array [.object [("match".toList, .string "x".toList)]])])]),
    ("beginCaptures".toList, .object [("0".toList, .string "open".toList)]),
    ("name".toList, .string "meta".toList)]]

/-- The repository of that way to write it. -/
def bracketsRepository : JsonTree :=
  .object [("off".toList, .object [
    ("disabled".toList, .number (.natural 1)), ("include".toList, .string "#on".toList)])]

/-- A way to write it. -/
def bracketsDocument : JsonTree :=
  .object [("repository".toList, bracketsRepository), ("patterns".toList, bracketsPatterns),
    ("fileTypes".toList, .array [.string "br".toList]),
    ("scopeName".toList, .string "source.brackets".toList)]

theorem writesText_self {s : String} (h : s.toList.all JsonText.isUnescaped := by decide) :
    WritesText s (.string s.toList) :=
  .mk (JsonText.writes_self h)

theorem writesMember_self {a : AssignedField} {t : JsonTree} (h : WritesField a t)
    (hkey : a.field.key.toList.all JsonText.isUnescaped := by decide) :
    WritesMember a (a.field.key.toList, t) :=
  .mk (JsonText.writes_self hkey) h

theorem writesField_bracketsRepository : brackets.WritesField "repository" bracketsRepository := by
  have hmembers : List.Forall₂ WritesMember
      ([.disabled, .target].map bracketInclude.get) _ :=
    .cons (writesMember_self (.disabled 1))
      (.cons (writesMember_self (.text rfl (.text writesText_self))) .nil)
  have hoff : WritesPattern bracketInclude _ :=
    .mk (by decide) (fun f hf ↦ by cases f <;> first | rfl | exact absurd (by decide) hf) hmembers
  exact .repository (.refl _) (.cons (.mk (JsonText.writes_self (by decide)) hoff) .nil)

theorem writesField_bracketsPatterns : brackets.WritesField "patterns" bracketsPatterns := by
  have hx : List.Forall₂ WritesMember ([.regex].map (Pattern.single "x").get) _ :=
    .cons (writesMember_self (.text rfl (.text writesText_self))) .nil
  have hsingle : WritesPattern (.single "x") _ :=
    .mk (by decide) (fun f hf ↦ by cases f <;> first | rfl | exact absurd (by decide) hf) hx
  have hfirst : List.Forall₂ WritesCaptureMember [.patterns [.single "x"]] _ :=
    .cons (.patterns (JsonText.writes_self (by decide)) (.cons hsingle .nil)) .nil
  have hcapture : WritesCapture { patterns := [.single "x"] } _ :=
    .object (by simp) (by simp) (.inr rfl) (.inl (by simp)) hfirst
  have hbegin : JsonText.Writes "\\[".toList "\\\\[".toList :=
    .escape rfl (JsonText.writes_self (by decide))
  have hmembers : List.Forall₂ WritesMember
      ([.endRegex, .beginRegex, .contentName, .captures, .beginCaptures, .name].map
        bracketBlock.get) _ :=
    .cons (writesMember_self (.text rfl (.text writesText_self)))
    (.cons (writesMember_self (.text rfl (.text (.mk hbegin))))
    (.cons (writesMember_self (.text rfl .null))
    (.cons (writesMember_self (.table rfl (.mk (.refl _) (.cons (.mk hcapture) .nil))))
    (.cons (writesMember_self
      (.table rfl (.mk (.refl _) (.cons (.mk (.scope writesText_self)) .nil))))
    (.cons (writesMember_self (.text rfl (.text writesText_self))) .nil)))))
  have hblock : WritesPattern bracketBlock _ :=
    .mk (by decide) (fun f hf ↦ by cases f <;> first | rfl | exact absurd (by decide) hf) hmembers
  exact .patterns (.cons hblock .nil)

theorem isWritten_brackets : brackets.IsWritten bracketsDocument := by
  have hmembers : List.Forall₂ brackets.WritesMember
      ["repository", "patterns", "fileTypes", "scopeName"] _ :=
    .cons (.mk (JsonText.writes_self (by decide)) writesField_bracketsRepository)
    (.cons (.mk (JsonText.writes_self (by decide)) writesField_bracketsPatterns)
    (.cons (.mk (JsonText.writes_self (by decide)) (.fileTypes (.cons writesText_self .nil)))
    (.cons (.mk (JsonText.writes_self (by decide)) (.scopeName writesText_self)) .nil)))
  refine .mk (by decide) (fun key hkey ↦ ?_) hmembers
  unfold Grammar.AgreesOn
  split <;> first | rfl | trivial

theorem isBuilt_brackets : brackets.IsBuilt := by
  refine .withRule (.withPattern (.withFileType (.new _) _) ?_) _ (.disabled (.including _))
  refine .withCapture (.withBeginCapture (.named (.block _ _) _) (by decide) ?_) (by decide) ?_
  · exact List.forall_mem_nil _
  · exact List.forall_mem_singleton.2 (.single _)

theorem hasFlatCaptures_brackets : ∀ p ∈ brackets.allPatterns, p.HasFlatCaptures := by
  have hsingle : (Pattern.single "x").IsFlat := ⟨rfl, rfl, rfl, List.forall_mem_nil _⟩
  have hblock : bracketBlock.HasFlatCaptures :=
    .mk (by simp [bracketBlock, Pattern.withCapture, Pattern.withBeginCapture, Pattern.named,
      Pattern.block, insertEntry, Capture.scope, hsingle]) (List.forall_mem_nil _)
  have hinclude : bracketInclude.HasFlatCaptures :=
    .mk (List.forall_mem_nil _) (List.forall_mem_nil _)
  exact List.forall_mem_cons.2 ⟨hblock, List.forall_mem_singleton.2 hinclude⟩

theorem Grammar.ofJson?_brackets : brackets.IsBuilt ∧
    (∀ p ∈ brackets.allPatterns, p.HasFlatCaptures) ∧ brackets.IsWritten bracketsDocument ∧
    bracketsDocument.depth ≤ JsonTree.maxNesting ∧ bracketsDocument.IsText bracketsDocument.text ∧
    Grammar.ofJson? bracketsDocument.text = some brackets :=
  have hdepth : bracketsDocument.depth ≤ JsonTree.maxNesting := by decide
  have htext := isWritten_brackets.isPlain.isText_text
  ⟨isBuilt_brackets, hasFlatCaptures_brackets, isWritten_brackets, hdepth, htext,
    Grammar.ofJson?_of_isWritten isBuilt_brackets hasFlatCaptures_brackets isWritten_brackets
      hdepth htext⟩

end Highlighter
