import Highlighter.Builtin.Registry
import Highlighter.Proofs.SortedMap
import Highlighter.Registry.Change

/-!
# What every registry keeps

A registry has three maps, and two of them hang together: grammars are stored under their own scope
names, and extensions are assigned to scope names that are there (`Registry.IsSound`). Every change
keeps this, whether it succeeds or fails. So a grammar that is found, by whatever key or file name,
is found again by its scope name.

The order in which a table goes through its entries is left open. A listing does not depend on it,
since keys are sorted (`sortedKeys_eq_keys`). A search by display name does, and `MayFind` is what
is found in one order or another (`mayFind_iff`).
-/

namespace Highlighter.Registry

variable {r : Registry} {g : Grammar} {t : Theme} {key path : String}

/-! ## Changes -/

theorem loadGrammar_cases (r : Registry) (contents : Except FileError ByteArray) :
    (∃ g, r.loadGrammar contents = .ok (r.addGrammar g, g.scopeName)) ∨
      ∃ e, r.loadGrammar contents = .error e := by
  unfold loadGrammar
  cases decodeFile contents with
  | error e => exact .inr ⟨e, rfl⟩
  | ok text =>
    simp only [bind, Except.bind]
    cases Grammar.ofJson? text with
    | none => exact .inr ⟨.document, rfl⟩
    | some g => exact .inl ⟨g, rfl⟩

theorem loadTheme_cases (r : Registry) (path : String) (contents : Except FileError ByteArray) :
    (∃ key t, r.loadTheme path contents = .ok (r.insertTheme key t, key)) ∨
      ∃ e, r.loadTheme path contents = .error e := by
  unfold loadTheme
  cases decodeFile contents with
  | error e => exact .inr ⟨e, rfl⟩
  | ok text =>
    simp only [bind, Except.bind]
    cases Theme.ofJson? text with
    | none => exact .inr ⟨.document, rfl⟩
    | some t => exact .inl ⟨_, t, rfl⟩

/-- What a change does: it adds a grammar or a theme, or it fails and does nothing. -/
theorem change_cases (r : Registry) (c : Change) :
    (∃ g, r.change c = (.ok g.scopeName, r.addGrammar g)) ∨
      (∃ key t, r.change c = (.ok key, r.insertTheme key t)) ∨
      ∃ e, r.change c = (.error e, r) := by
  rw [change_eq]
  cases c with
  | addGrammar g => exact .inl ⟨g, rfl⟩
  | addTheme t => exact .inr (.inl ⟨_, t, rfl⟩)
  | loadGrammar contents =>
    dsimp only
    rcases loadGrammar_cases r contents with ⟨g, h⟩ | ⟨e, h⟩ <;> rw [h]
    · exact .inl ⟨g, rfl⟩
    · exact .inr (.inr ⟨e, rfl⟩)
  | loadTheme path contents =>
    dsimp only
    rcases loadTheme_cases r path contents with ⟨key, t, h⟩ | ⟨e, h⟩ <;> rw [h]
    · exact .inr (.inl ⟨key, t, rfl⟩)
    · exact .inr (.inr ⟨e, rfl⟩)

theorem eq_of_change_eq_error {c : Change} {e : Error} (h : (r.change c).1 = .error e) :
    (r.change c).2 = r := by
  rcases change_cases r c with ⟨g, hc⟩ | ⟨key, t, hc⟩ | ⟨e', hc⟩
  · rw [hc] at h
    cases h
  · rw [hc] at h
    cases h
  · rw [hc]

/-! ## The invariant -/

/-- What holds of every registry. -/
structure IsSound (r : Registry) : Prop where
  /-- A grammar is stored under its own scope name. -/
  scopeName_eq : ∀ key g, r.grammars.get? key = some g → g.scopeName = key
  /-- An extension is assigned to a grammar that is there. -/
  isAssigned : ∀ extension key, r.extensions.get? extension = some key →
    ∃ g, r.grammars.get? key = some g

theorem isSound_empty : IsSound .empty where
  scopeName_eq := fun _ _ h ↦ nomatch h
  isAssigned := fun _ _ h ↦ nomatch h

/-- The extensions after the file types of a grammar were assigned to it. -/
theorem get?_foldl_insert (ts : List String) (key : String) (m : SortedMap String String)
    (extension : String) :
    (ts.foldl (fun m t ↦ m.insert (normalExtension t) key) m).get? extension =
      if extension ∈ ts.map normalExtension then some key else m.get? extension := by
  induction ts generalizing m with
  | nil => rfl
  | cons t ts ih =>
    rw [List.foldl_cons, ih, SortedMap.get?_insert, List.map_cons]
    by_cases hrest : extension ∈ ts.map normalExtension
    · rw [if_pos hrest, if_pos (List.mem_cons_of_mem _ hrest)]
    · simp [hrest]

theorem get?_grammars_addGrammar (r : Registry) (g : Grammar) (key : String) :
    (r.addGrammar g).grammars.get? key =
      if key = g.scopeName then some g else r.grammars.get? key :=
  SortedMap.get?_insert _ _ _ _

theorem get?_extensions_addGrammar (r : Registry) (g : Grammar) (extension : String) :
    (r.addGrammar g).extensions.get? extension =
      if extension ∈ g.fileTypes.map normalExtension then some g.scopeName
      else r.extensions.get? extension :=
  get?_foldl_insert _ _ _ _

theorem IsSound.addGrammar (h : r.IsSound) (g : Grammar) : (r.addGrammar g).IsSound where
  scopeName_eq := by
    intro key g' hget
    rw [get?_grammars_addGrammar] at hget
    split at hget
    · next hkey => rw [← Option.some.inj hget, hkey]
    · exact h.scopeName_eq key g' hget
  isAssigned := by
    intro extension key hget
    rw [get?_extensions_addGrammar] at hget
    rw [get?_grammars_addGrammar]
    split
    · exact ⟨g, rfl⟩
    · next hkey =>
      split at hget
      · exact absurd (Option.some.inj hget).symm hkey
      · exact h.isAssigned extension key hget

theorem IsSound.insertTheme (h : r.IsSound) (key : String) (t : Theme) :
    (r.insertTheme key t).IsSound :=
  ⟨h.scopeName_eq, h.isAssigned⟩

/-- **What a change keeps.** -/
theorem IsSound.change (h : r.IsSound) (c : Change) : (r.change c).2.IsSound := by
  rcases change_cases r c with ⟨g, hc⟩ | ⟨key, t, hc⟩ | ⟨e, hc⟩ <;> rw [hc]
  · exact h.addGrammar g
  · exact h.insertTheme key t
  · exact h

/-- **What all changes keep.** -/
theorem IsSound.changeAll (h : r.IsSound) (cs : List Change) : (r.changeAll cs).IsSound := by
  induction cs generalizing r with
  | nil => exact h
  | cons c cs ih => exact ih (h.change c)

theorem isSound_builtin : Builtin.registry.IsSound := by
  have hgrammars : ∀ (gs : List Grammar) (r : Registry), r.IsSound →
      (gs.foldl Registry.addGrammar r).IsSound := by
    intro gs
    induction gs with
    | nil => exact fun _ h ↦ h
    | cons g gs ih => exact fun r h ↦ ih _ (h.addGrammar g)
  have hthemes : ∀ (ts : List Theme) (r : Registry), r.IsSound →
      (ts.foldl Registry.addTheme r).IsSound := by
    intro ts
    induction ts with
    | nil => exact fun _ h ↦ h
    | cons t ts ih => exact fun r h ↦ ih _ (h.insertTheme _ t)
  exact hthemes _ _ (hgrammars _ _ isSound_empty)

/-! ## Looking up -/

/-- Whether a grammar may be found by a key: it is stored under the key, or it has the key as its
display name and nothing is stored under the key. Where several grammars have this display name,
each of them may be found. -/
def MayFind (r : Registry) (key : String) (g : Grammar) : Prop :=
  r.grammars.get? key = some g ∨
    r.grammars.get? key = none ∧ equalIgnoringCase g.name key = true ∧
      ∃ key', r.grammars.get? key' = some g

section Among

variable {order : List (String × Grammar)} {e : String × Grammar}

theorem grammarAmong_of_get? (order : List (String × Grammar))
    (h : r.grammars.get? key = some g) : r.grammarAmong order key = .ok g := by
  rw [grammarAmong, h]

theorem grammarAmong_of_find?_eq_some (h : r.grammars.get? key = none)
    (hfind : order.find? (isNamed key) = some e) : r.grammarAmong order key = .ok e.2 := by
  simp only [grammarAmong, h, hfind]

theorem grammarAmong_of_find?_eq_none (h : r.grammars.get? key = none)
    (hfind : order.find? (isNamed key) = none) :
    r.grammarAmong order key = .error (.unknownGrammar key) := by
  simp only [grammarAmong, h, hfind]

end Among

theorem grammar_eq_ok_of_get? (h : r.grammars.get? key = some g) : r.grammar key = .ok g :=
  grammarAmong_of_get? _ h

/-- A search depends on the grammars only. -/
theorem grammar_congr {r' : Registry} (h : r'.grammars = r.grammars) (key : String) :
    r'.grammar key = r.grammar key := by
  rw [grammar, grammar, grammarAmong, grammarAmong, h]

/-- **What may be found** is what is found among the entries in some order. -/
theorem mayFind_iff : r.MayFind key g ↔
    ∃ order : List (String × Grammar), order.Perm r.grammars.entries ∧
      r.grammarAmong order key = .ok g := by
  constructor
  · rintro (hget | ⟨hnone, hname, key', hget⟩)
    · exact ⟨_, .refl _, grammarAmong_of_get? _ hget⟩
    · -- The order in which this grammar comes first.
      obtain ⟨front, back, hentries⟩ :=
        List.append_of_mem (SortedMap.get?_eq_some_iff_mem.mp hget)
      refine ⟨(key', g) :: (front ++ back), hentries ▸ List.perm_middle.symm, ?_⟩
      have hnamed : isNamed key (key', g) = true := hname
      exact grammarAmong_of_find?_eq_some hnone (List.find?_cons_of_pos hnamed)
  · rintro ⟨order, hperm, h⟩
    cases hget : r.grammars.get? key with
    | some g' =>
      rw [grammarAmong_of_get? _ hget] at h
      exact .inl (hget.trans (congrArg some (Except.ok.inj h)))
    | none =>
      cases hfind : order.find? (isNamed key) with
      | some e =>
        rw [grammarAmong_of_find?_eq_some hget hfind] at h
        obtain rfl : e.2 = g := Except.ok.inj h
        have hnamed : isNamed key e = true := List.find?_some hfind
        have hmem := hperm.mem_iff.mp (List.mem_of_find?_eq_some hfind)
        exact .inr ⟨hget, hnamed, e.1, SortedMap.get?_eq_some_iff_mem.mpr hmem⟩
      | none =>
        rw [grammarAmong_of_find?_eq_none hget hfind] at h
        cases h

theorem mayFind_of_grammar_eq_ok (h : r.grammar key = .ok g) : r.MayFind key g :=
  mayFind_iff.mpr ⟨_, .refl _, h⟩

/-- **A search fails in every order or in none**, and the error names the key. -/
theorem grammarAmong_eq_error_iff {order : List (String × Grammar)} {e : Error}
    (hperm : order.Perm r.grammars.entries) :
    r.grammarAmong order key = .error e ↔ e = .unknownGrammar key ∧ ∀ g, ¬r.MayFind key g := by
  cases hget : r.grammars.get? key with
  | some g =>
    rw [grammarAmong_of_get? _ hget]
    exact iff_of_false (by simp) fun h ↦ h.2 g (.inl hget)
  | none =>
    cases hfind : order.find? (isNamed key) with
    | some found =>
      have hok := grammarAmong_of_find?_eq_some hget hfind
      rw [hok]
      exact iff_of_false (by simp) fun h ↦ h.2 found.2 (mayFind_iff.mpr ⟨order, hperm, hok⟩)
    | none =>
      rw [grammarAmong_of_find?_eq_none hget hfind]
      have hnone (g : Grammar) : ¬r.MayFind key g := by
        rintro (h | ⟨-, hname, key', h⟩)
        · simp [hget] at h
        · have hmem := hperm.mem_iff.mpr (SortedMap.get?_eq_some_iff_mem.mp h)
          exact List.find?_eq_none.mp hfind _ hmem hname
      simp [hnone, eq_comm]

/-- What is stored is found by its scope name. -/
theorem IsSound.grammar_scopeName (h : r.IsSound) (hget : r.grammars.get? key = some g) :
    r.grammar g.scopeName = .ok g :=
  grammar_eq_ok_of_get? (h.scopeName_eq key g hget ▸ hget)

theorem IsSound.grammar_scopeName_of_mayFind (h : r.IsSound) (hfind : r.MayFind key g) :
    r.grammar g.scopeName = .ok g := by
  rcases hfind with hget | ⟨-, -, key', hget⟩
  · exact h.grammar_scopeName hget
  · exact h.grammar_scopeName hget

theorem exists_get?_of_detect_eq_some (h : r.detect path = some g) :
    ∃ key, r.grammars.get? key = some g := by
  obtain ⟨extension, -, h⟩ := Option.bind_eq_some_iff.mp h
  obtain ⟨key, -, h⟩ := Option.bind_eq_some_iff.mp h
  exact ⟨key, h⟩

/-! ## Listing -/

/-- **A listing does not depend on the order of a table.** -/
theorem sortedKeys_eq_keys {α : Type} {m : SortedMap String α} {order : List (String × α)}
    (h : order.Perm m.entries) : sortedKeys order = m.keys := by
  have hperm : (sortedKeys order).Perm m.keys := (List.mergeSort_perm _ _).trans (h.map _)
  have hsorted : (sortedKeys order).Pairwise (· ≤ ·) := by
    have hsort : (sortedKeys order).Pairwise fun a b ↦ decide (a ≤ b) = true :=
      List.pairwise_mergeSort (by simpa using fun _ _ _ ↦ String.le_trans)
        (by simpa using String.le_total) _
    exact hsort.imp of_decide_eq_true
  exact hperm.eq_of_pairwise (fun _ _ _ _ ↦ String.le_antisymm) hsorted
    (m.pairwise_keys.imp fun h ↦ String.not_lt.mp (String.lt_asymm h))

theorem listGrammars_eq (r : Registry) : r.listGrammars = r.grammars.keys :=
  sortedKeys_eq_keys (.refl _)

theorem listThemes_eq (r : Registry) : r.listThemes = r.themes.keys :=
  sortedKeys_eq_keys (.refl _)

theorem mem_listGrammars_iff : key ∈ r.listGrammars ↔ ∃ g, r.grammars.get? key = some g := by
  rw [listGrammars_eq, SortedMap.mem_keys_iff]

theorem mem_listThemes_iff : key ∈ r.listThemes ↔ ∃ t, r.themes.get? key = some t := by
  rw [listThemes_eq, SortedMap.mem_keys_iff]

/-! ## After any changes -/

/-- **After any changes** of the empty or the built-in registry, successful or not, grammars are
stored under their scope names, extensions are assigned to grammars that are there, a change that
fails changes nothing, the keys are listed in ascending order in whatever order a table has them,
and a grammar that is found is found again by its scope name. -/
theorem registry_sound_after_changes {start : Registry}
    (hstart : start = .empty ∨ start = Builtin.registry) (changes : List Change) :
    let r := start.changeAll changes
    (∀ key g, r.grammars.get? key = some g → g.scopeName = key) ∧
    (∀ extension key, r.extensions.get? extension = some key →
      ∃ g, r.grammars.get? key = some g) ∧
    (∀ c e, (r.change c).1 = .error e → (r.change c).2 = r) ∧
    (r.listGrammars.Pairwise (· < ·) ∧
      (∀ key, key ∈ r.listGrammars ↔ ∃ g, r.grammars.get? key = some g) ∧
      ∀ order, order.Perm r.grammars.entries → sortedKeys order = r.listGrammars) ∧
    (r.listThemes.Pairwise (· < ·) ∧
      (∀ key, key ∈ r.listThemes ↔ ∃ t, r.themes.get? key = some t) ∧
      ∀ order, order.Perm r.themes.entries → sortedKeys order = r.listThemes) ∧
    (∀ key g, r.grammar key = .ok g ∨ r.MayFind key g → r.grammar g.scopeName = .ok g) ∧
    ∀ path g, r.detect path = some g → r.grammar g.scopeName = .ok g := by
  intro r
  have hstart : start.IsSound := by
    rcases hstart with rfl | rfl
    · exact isSound_empty
    · exact isSound_builtin
  have hr : r.IsSound := hstart.changeAll changes
  refine ⟨hr.scopeName_eq, hr.isAssigned, fun _ _ ↦ eq_of_change_eq_error,
    ⟨r.listGrammars_eq ▸ r.grammars.pairwise_keys, fun _ ↦ mem_listGrammars_iff, fun _ hperm ↦ ?_⟩,
    ⟨r.listThemes_eq ▸ r.themes.pairwise_keys, fun _ ↦ mem_listThemes_iff, fun _ hperm ↦ ?_⟩,
    fun key g hfind ↦ ?_, fun path g hdetect ↦ ?_⟩
  · rw [sortedKeys_eq_keys hperm, listGrammars_eq]
  · rw [sortedKeys_eq_keys hperm, listThemes_eq]
  · rcases hfind with hfind | hfind
    · exact hr.grammar_scopeName_of_mayFind (mayFind_of_grammar_eq_ok hfind)
    · exact hr.grammar_scopeName_of_mayFind hfind
  · obtain ⟨key, hget⟩ := exists_get?_of_detect_eq_some hdetect
    exact hr.grammar_scopeName hget

/-- A grammar that takes the place of the one for Rust. -/
def replacement : Grammar := (Grammar.new "source.rust").named "Ferrous" |>.withFileType ".RS"

/-- Changes that replace a grammar, fail, and add a grammar without a scope name. -/
def mixedChanges : List Change :=
  [.addGrammar replacement, .loadGrammar (.error .notFound), .addGrammar (Grammar.new "")]

theorem registry_sound_after_mixedChanges :
    let r := Builtin.registry.changeAll mixedChanges
    (Builtin.registry = .empty ∨ Builtin.registry = Builtin.registry) ∧
    ((r.change (.loadGrammar (.error .notFound))).1 = .error (.file .notFound) ∧
      (r.change (.loadGrammar (.error .notFound))).2 = r) ∧
    (r.detect "main.rs" = some replacement ∧ r.grammar "ferrous" = .ok replacement ∧
      r.grammar replacement.scopeName = .ok replacement) ∧
    "" ∈ r.listGrammars := by
  intro r
  obtain ⟨-, -, hfail, ⟨-, hkeys, -⟩, -, hgrammar, hdetect⟩ :=
    registry_sound_after_changes (.inr rfl) mixedChanges
  have hferrous : r.grammar "ferrous" = .ok replacement := rfl
  exact ⟨.inr rfl, ⟨rfl, hfail _ _ rfl⟩, ⟨rfl, hferrous, hgrammar _ _ (.inl hferrous)⟩,
    (hkeys "").mpr ⟨Grammar.new "", rfl⟩⟩

end Highlighter.Registry
