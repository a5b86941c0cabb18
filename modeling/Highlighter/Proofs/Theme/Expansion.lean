import Highlighter.Proofs.Json.Plain
import Highlighter.Proofs.Text.Words
import Highlighter.Theme.Document
import Mathlib.Data.List.Forall2

/-!
# Expanded theme documents

The scopes of an entry are lists of selectors, and a document can be written without such lists: an
entry becomes as many entries as it has selectors, each with one of them as its scope and with the
rest as it was. Selectors with white space inside are left out, and so are all entries without a
selector but the first. `ThemeDocument.expandTree` rewrites the tree of a document in this way,
without reading it as a theme document: the selectors are taken from what is written as the scope
(`SettingEntry.writtenSelectors`).

The theme stays the same (`Theme.ofJson?_expandTree`). A document is changed field by field
(`JsonTree.mapFields`), so it is read in the same steps before and after. Where a step sets a field,
the same step afterwards sets the expanded one (`ThemeDocument.exists_assign?_expandField_eq_some`).
Hence what is read is the expanded document, and the entries of that give the same rules and the
same base style (`ThemeDocument.theme_expand`).
-/

namespace Highlighter

/-! ## Lists and steps -/

theorem map_fst_zip_sublist {α β : Type} (as : List α) (bs : List β) :
    ((as.zip bs).map (·.1)).Sublist as := by
  induction as generalizing bs with
  | nil => exact List.Sublist.refl []
  | cons a as ih =>
    cases bs with
    | nil => exact List.nil_sublist _
    | cons b bs => exact (ih bs).cons_cons a

theorem zip_zipWith_self {α β γ : Type} (f : α → β → γ) (as : List α) (bs : List β) :
    as.zip (List.zipWith f as bs) = (as.zip bs).map fun p ↦ (p.1, f p.1 p.2) := by
  induction as generalizing bs with
  | nil => rfl
  | cons a as ih =>
    cases bs with
    | nil => rfl
    | cons b bs => rw [List.zipWith_cons_cons, List.zip_cons_cons, ih, List.zip_cons_cons,
        List.map_cons]

section Steps

variable {α β σ τ : Type} {R : σ → τ → Prop} {f : σ → α → Option σ} {g : τ → β → Option τ}
  {φ : α → β}

theorem mapM_eq_some_iff {f : α → Option β} {as : List α} {bs : List β} :
    as.mapM f = some bs ↔ List.Forall₂ (fun a b ↦ f a = some b) as bs := by
  induction as generalizing bs with
  | nil =>
    rw [List.mapM_nil, List.forall₂_nil_left_iff]
    exact Option.some_inj.trans eq_comm
  | cons a as ih =>
    simp only [List.mapM_cons, Option.bind_eq_bind, Option.bind_eq_some_iff, ih,
      List.forall₂_cons_left_iff]
    constructor
    · rintro ⟨b, hb, bs, hbs, h⟩
      exact ⟨b, bs, hb, hbs, (Option.some.inj h).symm⟩
    · rintro ⟨b, bs, hb, hbs, rfl⟩
      exact ⟨b, hb, bs, hbs, rfl⟩

/-- If each step is followed from related states to related states, then so are all of them. -/
theorem exists_foldlM_map_eq_some
    (hstep : ∀ {s t a s'}, R s t → f s a = some s' → ∃ t', g t (φ a) = some t' ∧ R s' t')
    {s s' : σ} {t : τ} {as : List α} (hst : R s t) (h : as.foldlM f s = some s') :
    ∃ t', (as.map φ).foldlM g t = some t' ∧ R s' t' := by
  induction as generalizing s t with
  | nil =>
    obtain rfl := Option.some.inj h
    exact ⟨t, rfl, hst⟩
  | cons a as ih =>
    rw [List.foldlM_cons] at h
    obtain ⟨s₁, hs₁, h⟩ := Option.bind_eq_some_iff.mp h
    obtain ⟨t₁, ht₁, hst₁⟩ := hstep hst hs₁
    obtain ⟨t', ht', hst'⟩ := ih hst₁ h
    refine ⟨t', ?_, hst'⟩
    rw [List.map_cons, List.foldlM_cons, ht₁]
    exact ht'

end Steps

/-! ## Changing the fields of a document -/

namespace JsonTree

variable {keys : List String} {canonical : String → String} {fs : List (String × JsonTree)}

/-- Changes the value of each field, given its key. -/
def mapFields (keys : List String) (canonical : String → String)
    (change : String → JsonTree → JsonTree) : JsonTree → JsonTree
  | .object ms => .object (ms.map fun (k, t) ↦
      (k, (JsonText.decode? k).elim t fun key ↦ change (canonical key) t))
  | .array ts => .array (List.zipWith change keys ts)
  | t => t

theorem fields?_object_eq_some_iff {ms : List (List Char × JsonTree)} :
    (object ms).fields? keys canonical = some fs ↔
      ∃ named, List.Forall₂ (fun m field ↦ (JsonText.decode? m.1).map canonical = some field.1 ∧
        field.2 = m.2) ms named ∧
          named.filter (fun field ↦ keys.contains field.1) = fs ∧ (fs.map (·.1)).Nodup := by
  have hnamed (m : List Char × JsonTree) (field : String × JsonTree) :
      (JsonText.decode? m.1).bind (fun key ↦ some (canonical key, m.2)) = some field ↔
        (JsonText.decode? m.1).map canonical = some field.1 ∧ field.2 = m.2 := by
    cases JsonText.decode? m.1 <;> simp [Prod.ext_iff, eq_comm]
  rw [fields?, Option.bind_eq_bind, Option.bind_eq_some_iff]
  refine exists_congr fun named ↦ and_congr ?_ ?_
  · rw [mapM_eq_some_iff]
    simp only [← hnamed]
    rfl
  · exact Option.ite_none_right_eq_some.trans (by grind)

theorem fields?_array_eq_some_iff {ts : List JsonTree} :
    (array ts).fields? keys canonical = some fs ↔
      ts.length ≤ keys.length ∧ keys.zip ts = fs := by
  rw [fields?, Option.ite_none_right_eq_some, Option.some_inj]

/-- No field comes twice. -/
theorem nodup_of_fields?_eq_some {t : JsonTree} (hkeys : keys.Nodup)
    (h : t.fields? keys canonical = some fs) : (fs.map (·.1)).Nodup := by
  cases t with
  | object ms =>
    obtain ⟨_, -, -, hnodup⟩ := fields?_object_eq_some_iff.mp h
    exact hnodup
  | array ts =>
    obtain ⟨-, rfl⟩ := fields?_array_eq_some_iff.mp h
    exact hkeys.sublist (map_fst_zip_sublist keys ts)
  | _ => cases h

/-- The fields of the changed document are the changed fields. -/
theorem fields?_mapFields {change : String → JsonTree → JsonTree} {t : JsonTree}
    (h : t.fields? keys canonical = some fs) :
    (t.mapFields keys canonical change).fields? keys canonical =
      some (fs.map fun field ↦ (field.1, change field.1 field.2)) := by
  cases t with
  | object ms =>
    obtain ⟨named, hnamed, rfl, hnodup⟩ := fields?_object_eq_some_iff.mp h
    refine fields?_object_eq_some_iff.mpr
      ⟨named.map fun field ↦ (field.1, change field.1 field.2), ?_, ?_, ?_⟩
    · rw [List.forall₂_map_left_iff, List.forall₂_map_right_iff]
      refine hnamed.imp fun m field ⟨hkey, hvalue⟩ ↦ ⟨hkey, ?_⟩
      obtain ⟨key, hdecode, hkey⟩ := Option.map_eq_some_iff.mp hkey
      simp only [hdecode, ← hkey, hvalue, Option.elim_some]
    · rw [List.filter_map]
      rfl
    · rwa [List.map_map]
  | array ts =>
    obtain ⟨hlength, rfl⟩ := fields?_array_eq_some_iff.mp h
    refine fields?_array_eq_some_iff.mpr ⟨?_, zip_zipWith_self change keys ts⟩
    rw [List.length_zipWith]
    exact Nat.min_le_left ..
  | _ => cases h

end JsonTree

/-! ## Written selectors -/

namespace SettingEntry

variable {e e' : SettingEntry} {s : String} {room : Nat} {t : JsonTree}

/-- The lists of selectors that are written as a scope: a text, or each item of an array. -/
def listsOf : JsonTree → List String
  | .array ts => ts.filterMap JsonTree.text?
  | t => t.text?.toList

/-- What is written as the scope of an entry. -/
def scopeOf (t : JsonTree) : JsonTree :=
  ((t.fields? ["scope", "settings"] id).bind (·.lookup "scope")).getD .null

/-- The selectors that are written in an entry: what is between commas, without white space around
it, unless it is nothing. -/
def writtenSelectors (t : JsonTree) : List String :=
  ((listsOf (scopeOf t)).flatMap fun list ↦ (Words.pieces ',' list).map Words.trim).filter (· ≠ "")

theorem listsOf_eq {scopes : List String} (h : scopesOfTree? room t = some scopes) :
    listsOf t = scopes := by
  cases t with
  | null =>
    cases h
    rfl
  | string written =>
    obtain ⟨s, hs, rfl⟩ := Option.map_eq_some_iff.mp h
    have htext : (JsonTree.string written).text? = some s := hs
    rw [listsOf, htext]
    · rfl
    · simp
  | array ts =>
    rw [scopesOfTree?, JsonTree.texts?, Option.ite_none_left_eq_some, mapM_eq_some_iff] at h
    obtain ⟨-, h⟩ := h
    rw [listsOf]
    induction h with
    | nil => rfl
    | cons ht _ ih => rw [List.filterMap_cons_some ht, ih]
  | bool b | number n | object ms => cases h

/-- The scope of an entry sets its lists of selectors, and no other field does. -/
theorem scopes_of_foldlM_assign? {fs : List (String × JsonTree)} (hnodup : (fs.map (·.1)).Nodup)
    (h : fs.foldlM (assign? room) e = some e') :
    e'.scopes = (fs.lookup "scope").elim e.scopes listsOf := by
  induction fs generalizing e with
  | nil =>
    cases h
    rfl
  | cons field fs ih =>
    rw [List.foldlM_cons] at h
    obtain ⟨e₁, hassign, h⟩ := Option.bind_eq_some_iff.mp h
    rw [List.map_cons, List.nodup_cons] at hnodup
    rw [ih hnodup.2 h]
    rw [assign?.eq_def] at hassign
    split at hassign
    · next t =>
      obtain ⟨scopes, hscopes, rfl⟩ := Option.map_eq_some_iff.mp hassign
      have hrest : fs.lookup "scope" = none := List.lookup_eq_none_iff.mpr fun field hfield ↦
        bne_iff_ne.mpr fun hkey ↦ hnodup.1 (List.mem_map.mpr ⟨field, hfield, hkey.symm⟩)
      rw [hrest, List.lookup_cons_self, Option.elim_none, Option.elim_some, listsOf_eq hscopes]
    · obtain ⟨style, -, rfl⟩ := Option.map_eq_some_iff.mp hassign
      rfl
    · cases hassign

theorem scopes_eq (h : ofTree? room t = some e) : e.scopes = listsOf (scopeOf t) := by
  obtain ⟨fs, hfs, h⟩ := Option.bind_eq_some_iff.mp h
  have hnodup := JsonTree.nodup_of_fields?_eq_some (by decide) hfs
  rw [scopes_of_foldlM_assign? hnodup h, scopeOf, hfs, Option.bind_some]
  cases fs.lookup "scope" <;> rfl

/-- The selectors of an entry are those that are written in it. -/
theorem selectors_eq (h : ofTree? room t = some e) : e.selectors = writtenSelectors t := by
  rw [selectors, writtenSelectors, ← scopes_eq h, List.map_flatMap]
  refine List.filter_congr fun s _ ↦ ?_
  rw [Bool.eq_iff_iff]
  simp

/-! ## Entries with one selector -/

/-- The selectors of an entry without white space inside. -/
def simpleSelectors (e : SettingEntry) : List String := e.selectors.filter (!Words.hasBlank ·)

theorem rules_eq (e : SettingEntry) :
    e.rules = e.simpleSelectors.map fun s ↦ ⟨.ofString s, e.style⟩ := rfl

/-- A simple selector, as a list of selectors, is the only one in it. -/
theorem selectors_of_mem_simpleSelectors (hs : s ∈ e.simpleSelectors) (style : Style) :
    selectors ⟨[s], style⟩ = [s] := by
  obtain ⟨hs, hblank⟩ := List.mem_filter.mp hs
  obtain ⟨hs, hne⟩ := List.mem_filter.mp hs
  obtain ⟨piece, hpiece, rfl⟩ := List.mem_map.mp hs
  obtain ⟨list, -, hpiece⟩ := List.mem_flatMap.mp hpiece
  obtain ⟨cs, hcs, rfl⟩ := List.mem_map.mp hpiece
  have hcomma : ∀ c ∈ (Words.trim (.ofList cs)).toList, (c == ',') = false := by
    intro c hc
    rw [Words.trim, String.toList_ofList, String.toList_ofList] at hc
    exact Words.eq_false_of_mem_piecesChars hcs c (Words.mem_of_mem_trimChars hc)
  have htrim : Words.trim (Words.trim (.ofList cs)) = Words.trim (.ofList cs) := by
    refine Words.trim_eq_self fun c hc ↦ ?_
    simp only [Words.hasBlank, Bool.not_eq_true', List.any_eq_false] at hblank
    simpa using hblank c hc
  rw [selectors, List.flatMap_singleton, Words.pieces, Words.piecesChars_eq_singleton hcomma,
    List.map_singleton, String.ofList_toList, List.map_singleton, htrim]
  exact List.filter_cons_of_pos hne

theorem rules_of_mem_simpleSelectors (hs : s ∈ e.simpleSelectors) (style : Style) :
    rules ⟨[s], style⟩ = [⟨.ofString s, style⟩] := by
  have hsimple : [s].filter (!Words.hasBlank ·) = [s] :=
    List.filter_cons_of_pos (List.mem_filter.mp hs).2
  rw [rules, selectors_of_mem_simpleSelectors hs, hsimple]
  rfl

/-! ## Expanded entries -/

/-- Entries with one selector each. Of the entries without a selector only the first is kept, if
`hasBase` does not tell that there was one before. -/
def expand : Bool → List SettingEntry → List SettingEntry
  | _, [] => []
  | hasBase, e :: es =>
    if e.selectors.isEmpty then (if hasBase then [] else [e]) ++ expand true es
    else e.simpleSelectors.map (fun s ↦ ⟨[s], e.style⟩) ++ expand hasBase es

theorem flatMap_rules_expand (hasBase : Bool) (es : List SettingEntry) :
    (expand hasBase es).flatMap rules = es.flatMap rules := by
  induction es generalizing hasBase with
  | nil => rfl
  | cons e es ih =>
    rw [expand, List.flatMap_cons]
    split
    · next hempty =>
      have hrules : e.rules = [] := by
        rw [rules, List.isEmpty_iff.mp hempty]
        rfl
      rw [List.flatMap_append, ih, hrules]
      cases hasBase
      · rw [if_neg Bool.false_ne_true, List.flatMap_singleton, hrules]
      · rw [if_pos rfl]
        rfl
    · rw [List.flatMap_append, ih, rules_eq e, List.flatMap_map, List.map_eq_flatMap]
      congr 1
      exact List.flatMap_congr fun s hs ↦ rules_of_mem_simpleSelectors hs e.style

theorem find?_expand (es : List SettingEntry) :
    (expand false es).find? (·.selectors.isEmpty) = es.find? (·.selectors.isEmpty) := by
  induction es with
  | nil => rfl
  | cons e es ih =>
    rw [expand]
    split
    · next hempty =>
      rw [if_neg Bool.false_ne_true, List.singleton_append, List.find?_cons, List.find?_cons,
        hempty]
    · next hempty =>
      rw [List.find?_append, ih, List.find?_cons, Bool.eq_false_iff.mpr hempty,
        List.find?_eq_none.mpr, Option.none_or]
      intro e' he
      obtain ⟨s, hs, rfl⟩ := List.mem_map.mp he
      rw [selectors_of_mem_simpleSelectors hs]
      exact Bool.false_ne_true

/-! ## Expanded trees -/

/-- The tree of an entry, with another scope. -/
def withScope (scope : JsonTree) : JsonTree → JsonTree :=
  JsonTree.mapFields ["scope", "settings"] id fun key t ↦ if key = "scope" then scope else t

/-- Two entries with the same style, of which the second one has one selector if the first one has
any. -/
structure IsRescoped (s : String) (e e' : SettingEntry) : Prop where
  style_eq : e'.style = e.style
  scopes_eq : e.scopes ≠ [] → e'.scopes = [s]

theorem IsRescoped.exists_assign?_eq_some {room : Nat} {scope : JsonTree} {e e' e₁ : SettingEntry}
    {field : String × JsonTree} (hscope : scopesOfTree? room scope = some [s])
    (he : IsRescoped s e e') (h : assign? room e field = some e₁) :
    ∃ e₁', assign? room e' (field.1, if field.1 = "scope" then scope else field.2) = some e₁' ∧
      IsRescoped s e₁ e₁' := by
  rw [assign?.eq_def] at h
  split at h
  · obtain ⟨scopes, -, rfl⟩ := Option.map_eq_some_iff.mp h
    refine ⟨{ e' with scopes := [s] }, ?_, he.style_eq, fun _ ↦ rfl⟩
    rw [if_pos rfl, assign?, hscope]
    rfl
  · obtain ⟨style, hstyle, rfl⟩ := Option.map_eq_some_iff.mp h
    have hkey : "settings" ≠ "scope" := by decide
    refine ⟨{ e' with style := style }, ?_, rfl, he.scopes_eq⟩
    rw [if_neg hkey, assign?, hstyle]
    rfl
  · cases h

/-- With another scope, an entry that has one is the same apart from it. -/
theorem ofTree?_withScope {room : Nat} {t scope : JsonTree} (hscope : scope.text? = some s)
    (h : ofTree? room t = some e) (he : e.scopes ≠ []) :
    ofTree? room (withScope scope t) = some ⟨[s], e.style⟩ := by
  have hscopes : scopesOfTree? (room - 1) scope = some [s] := by
    cases scope with
    | string written =>
      rw [JsonTree.text?] at hscope
      rw [scopesOfTree?, hscope]
      rfl
    | _ => cases hscope
  obtain ⟨fs, hfs, h⟩ := Option.bind_eq_some_iff.mp h
  have hinitial : IsRescoped s {} {} := ⟨rfl, absurd rfl⟩
  obtain ⟨e', hread, hstyle, hscope'⟩ := exists_foldlM_map_eq_some
    (IsRescoped.exists_assign?_eq_some hscopes) hinitial h
  rw [ofTree?, withScope, JsonTree.fields?_mapFields hfs, Option.bind_eq_bind, Option.bind_some,
    hread, ← hstyle, ← hscope' he]

/-- The trees of entries with one selector each, whose texts are written by `write`. Of the entries
without a selector only the first is kept, if there was none before. -/
def expandTrees (write : String → JsonTree) : Bool → List JsonTree → List JsonTree
  | _, [] => []
  | hasBase, t :: ts =>
    if (writtenSelectors t).isEmpty then (if hasBase then [] else [t]) ++ expandTrees write true ts
    else ((writtenSelectors t).filter (!Words.hasBlank ·)).map (fun s ↦ withScope (write s) t) ++
      expandTrees write hasBase ts

/-- The expanded trees are read as the expanded entries. -/
theorem mapM_ofTree?_expandTrees {write : String → JsonTree}
    (hwrite : ∀ s, (write s).text? = some s) {ts : List JsonTree} {es : List SettingEntry}
    (h : ts.mapM (ofTree? room) = some es) (hasBase : Bool) :
    (expandTrees write hasBase ts).mapM (ofTree? room) = some (expand hasBase es) := by
  rw [mapM_eq_some_iff] at h ⊢
  induction h generalizing hasBase with
  | nil => exact .nil
  | @cons t e ts es ht _ ih =>
    rw [expandTrees, expand, simpleSelectors, selectors_eq ht]
    split
    · refine List.rel_append ?_ (ih true)
      cases hasBase
      · exact .cons ht .nil
      · exact .nil
    · next hempty =>
      refine List.rel_append ?_ (ih hasBase)
      rw [List.forall₂_map_left_iff, List.forall₂_map_right_iff, List.forall₂_same]
      refine fun s _ ↦ ofTree?_withScope (hwrite s) ht ?_
      intro hscopes
      exact hempty (by rw [writtenSelectors, ← scopes_eq ht, hscopes]; rfl)

end SettingEntry

/-! ## Expanded documents -/

namespace ThemeDocument

variable {room : Nat} {write : String → JsonTree} {t : JsonTree} {d d' d₁ : ThemeDocument}

/-- The document with one selector in each entry, and with only the first entry without one. -/
def expand (d : ThemeDocument) : ThemeDocument :=
  { d with entries := SettingEntry.expand false d.entries }

theorem theme_expand (d : ThemeDocument) : d.expand.theme = d.theme := by
  rw [theme, theme, expand, SettingEntry.find?_expand, SettingEntry.flatMap_rules_expand]

/-- A field of a document, with one selector in each entry. -/
def expandField (write : String → JsonTree) : String → JsonTree → JsonTree
  | "settings", .array ts => .array (SettingEntry.expandTrees write false ts)
  | _, t => t

/-- The tree of a document, with one selector in each entry, which is written by `write`, and with
only the first entry without one. -/
def expandTree (write : String → JsonTree) : JsonTree → JsonTree :=
  JsonTree.mapFields ["name", "settings"] canonicalKey (expandField write)

/-- Setting an expanded field expands the document in which the field is set. -/
theorem exists_assign?_expandField_eq_some (hwrite : ∀ s, (write s).text? = some s)
    {field : String × JsonTree} (hd : d' = d.expand) (h : assign? room d field = some d₁) :
    ∃ d₁', assign? room d' (field.1, expandField write field.1 field.2) = some d₁' ∧
      d₁' = d₁.expand := by
  subst hd
  refine ⟨_, ?_, rfl⟩
  rw [assign?.eq_def] at h
  split at h
  · obtain ⟨name, hname, rfl⟩ := Option.map_eq_some_iff.mp h
    rw [expandField, assign?, hname]
    · rfl
    · simp
  · obtain ⟨es, hes, rfl⟩ := Option.map_eq_some_iff.mp h
    rw [expandField, assign?, SettingEntry.mapM_ofTree?_expandTrees hwrite hes]
    rfl
  · cases h

/-- The expanded tree is read as the expanded document. -/
theorem ofTree?_expandTree (hwrite : ∀ s, (write s).text? = some s) (h : ofTree? t = some d) :
    ofTree? (expandTree write t) = some d.expand := by
  obtain ⟨fs, hfs, h⟩ := Option.bind_eq_some_iff.mp h
  obtain ⟨d', hread, rfl⟩ := exists_foldlM_map_eq_some (R := fun d d' ↦ d' = d.expand)
    (exists_assign?_expandField_eq_some hwrite) (t := {}) rfl h
  rw [ofTree?, expandTree, JsonTree.fields?_mapFields hfs]
  exact hread

end ThemeDocument

/-- **The theme of an expanded document** is that of the document: where a document is accepted, the
document with one selector in each entry is accepted too, however it is written, and gives the same
theme. -/
theorem Theme.ofJson?_expandTree {write : String → JsonTree}
    (hwrite : ∀ s, (write s).text? = some s) {text : String} {t : JsonTree} {theme : Theme}
    (htext : JsonTree.ofString? text = some t) (h : Theme.ofJson? text = some theme) :
    (ThemeDocument.ofTree? (ThemeDocument.expandTree write t)).map ThemeDocument.theme =
        some theme ∧
      ∀ text', JsonTree.ofString? text' = some (ThemeDocument.expandTree write t) →
        Theme.ofJson? text' = some theme := by
  rw [ofJson?, ThemeDocument.ofJson?, htext] at h
  obtain ⟨d, hd, rfl⟩ := Option.map_eq_some_iff.mp h
  have htheme : (ThemeDocument.ofTree? (ThemeDocument.expandTree write t)).map
      ThemeDocument.theme = some d.theme := by
    rw [ThemeDocument.ofTree?_expandTree hwrite hd, Option.map_some, ThemeDocument.theme_expand]
  refine ⟨htheme, fun text' htext' ↦ ?_⟩
  rw [ofJson?, ThemeDocument.ofJson?, htext']
  exact htheme

/-! ## An expanded theme -/

/-- A text, with escapes where they are needed. -/
def writeText (s : String) : JsonTree := .string (JsonText.write s.toList)

theorem text?_writeText (s : String) : (writeText s).text? = some s :=
  (JsonText.writes_write s.toList).decode?_eq_some

theorem isPlain_writeText (s : String) : (writeText s).IsPlain := .string (JsonText.writes_write _)

/-- A style that has a colour only. -/
def colored (color : String) : Style := .ofList [("foreground", color)]

/-- The tree of an entry with a colour. -/
def coloredEntry (scopes color : String) : JsonTree :=
  .object [("scope".toList, writeText scopes),
    ("settings".toList, .object [("foreground".toList, writeText color)])]

theorem isPlain_coloredEntry (scopes color : String) : (coloredEntry scopes color).IsPlain :=
  JsonTree.ArePlain.isPlain_object <|
    .cons (JsonText.writes_self (by decide)) (isPlain_writeText scopes) <|
    .cons (JsonText.writes_self (by decide))
      (JsonTree.isPlain_singleton (JsonText.writes_self (by decide)) (isPlain_writeText color)) .nil

/-- A theme document with some entries. -/
def themeTree (entries : List JsonTree) : JsonTree := .object [("settings".toList, .array entries)]

theorem ofString?_themeTree {entries : List JsonTree} (h : ∀ t ∈ entries, t.IsPlain) :
    JsonTree.ofString? (themeTree entries).text = some (themeTree entries) :=
  (JsonTree.isPlain_singleton (JsonText.writes_self (by decide))
    (.array h)).isText_text.ofString?_eq_some

/-- Entries with two selectors, with white space inside a selector, and twice without a selector. -/
def listedEntries : List JsonTree := [coloredEntry "comment, string" "#888",
  coloredEntry "source comment" "#00f", coloredEntry " " "#000", coloredEntry "," "#fff"]

/-- The same entries with one selector each. -/
def singleEntries : List JsonTree := [coloredEntry "comment" "#888",
  coloredEntry "string" "#888", coloredEntry " " "#000"]

/-- The theme of the entries. -/
def listedEntriesTheme : Theme where
  base := colored "#000"
  rules := [⟨⟨["comment"]⟩, colored "#888"⟩, ⟨⟨["string"]⟩, colored "#888"⟩]

theorem expandTree_listedEntries :
    ThemeDocument.expandTree writeText (themeTree listedEntries) = themeTree singleEntries := by
  have hselectors : listedEntries.map SettingEntry.writtenSelectors =
      [["comment", "string"], ["source comment"], [], []] := by
    unfold SettingEntry.writtenSelectors Words.trim Words.trimChars
    rw [Words.isBlank_eq]
    decide +kernel
  have hblank : ["comment", "string", "source comment"].map Words.hasBlank =
      [false, false, true] := by
    unfold Words.hasBlank
    rw [Words.isBlank_eq]
    decide +kernel
  simp only [listedEntries, List.map_cons, List.cons.injEq] at hselectors hblank
  change themeTree (SettingEntry.expandTrees writeText false _) = _
  simp only [listedEntries, SettingEntry.expandTrees, hselectors, List.filter_cons, hblank]
  rfl

/-- Both ways to write the entries give the same theme. -/
theorem Theme.ofJson?_singleEntries :
    Theme.ofJson? (themeTree listedEntries).text = some listedEntriesTheme ∧
      Theme.ofJson? (themeTree singleEntries).text = some listedEntriesTheme := by
  have htext : JsonTree.ofString? (themeTree listedEntries).text =
      some (themeTree listedEntries) := ofString?_themeTree <| by
    simp [listedEntries, isPlain_coloredEntry]
  have htext' : JsonTree.ofString? (themeTree singleEntries).text =
      some (ThemeDocument.expandTree writeText (themeTree listedEntries)) := by
    rw [expandTree_listedEntries]
    exact ofString?_themeTree (by simp [singleEntries, isPlain_coloredEntry])
  have htheme : Theme.ofJson? (themeTree listedEntries).text = some listedEntriesTheme := by
    rw [ofJson?, ThemeDocument.ofJson?, htext, Option.bind_some]
    unfold ThemeDocument.theme SettingEntry.rules SettingEntry.selectors Selector.ofString
      Words.hasBlank Words.trim Words.trimChars
    rw [Words.isBlank_eq]
    decide +kernel
  exact ⟨htheme, (Theme.ofJson?_expandTree text?_writeText htext htheme).2 _ htext'⟩

end Highlighter
