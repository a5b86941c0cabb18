import Highlighter.Proofs.Registry.Soundness
import Mathlib.Data.List.Induction

/-!
# Which grammar a file is for

A registry forgets how it came about, but the grammar that it finds for a file is told by the
grammars that were added to it, in the order in which they were added. An extension belongs to the
scope name of the last grammar that claims it, and a scope name to the last grammar that has it
(`IsLast`). The two maps of a registry answer both questions, and adding a grammar is one more entry
at the end of the history (`Records.addGrammar`).

The two last grammars need not be the same. A grammar may be replaced by one that does not claim the
extension; the extension stays with the scope name, and the file is then for a grammar that does not
claim it (`detect_replaced`).
-/

namespace Highlighter

/-! ## The last entry of a kind -/

/-- Whether an entry of a list is the last one that has some property. -/
def IsLast {α : Type} (p : α → Prop) (l : List α) (a : α) : Prop :=
  p a ∧ ∃ before after, l = before ++ a :: after ∧ ∀ b ∈ after, ¬p b

section IsLast

variable {α : Type} {p q : α → Prop} {l : List α} {a b : α}

theorem not_isLast_nil : ¬IsLast p [] a := by
  rintro ⟨-, before, after, h, -⟩
  exact List.append_ne_nil_of_right_ne_nil before (List.cons_ne_nil a after) h.symm

/-- One more entry is the last one if it has the property, and leaves the last one what it is
otherwise. -/
theorem isLast_append_singleton :
    IsLast p (l ++ [b]) a ↔ p b ∧ b = a ∨ ¬p b ∧ IsLast p l a := by
  constructor
  · rintro ⟨ha, before, after, h, hafter⟩
    rcases List.eq_nil_or_concat after with rfl | ⟨after, c, rfl⟩
    · obtain ⟨-, hba⟩ := List.append_inj' h rfl
      obtain rfl := List.head_eq_of_cons_eq hba
      exact .inl ⟨ha, rfl⟩
    · rw [List.concat_eq_append, ← List.cons_append, ← List.append_assoc] at h
      obtain ⟨rfl, hbc⟩ := List.append_inj' h rfl
      obtain rfl := List.head_eq_of_cons_eq hbc
      refine .inr ⟨hafter b (by simp), ha, before, after, rfl, fun d hd ↦ hafter d ?_⟩
      rw [List.concat_eq_append]
      exact List.mem_append_left _ hd
  · rintro (⟨hb, rfl⟩ | ⟨hb, ha, before, after, rfl, hafter⟩)
    · exact ⟨hb, l, [], rfl, fun _ h ↦ nomatch h⟩
    · refine ⟨ha, before, after ++ [b], by simp, fun c hc ↦ ?_⟩
      rcases List.mem_append.mp hc with hc | hc
      · exact hafter c hc
      · rwa [List.mem_singleton.mp hc]

theorem IsLast.mem (h : IsLast p l a) : a ∈ l := by
  obtain ⟨-, before, after, rfl, -⟩ := h
  exact List.mem_append_right _ List.mem_cons_self

/-- Two entries are the same if each of them is the last one with a property that both have. -/
theorem IsLast.eq_of (h : IsLast p l a) (h' : IsLast q l b) (ha : q a) (hb : p b) : a = b := by
  induction l using List.reverseRecOn with
  | nil => exact absurd h not_isLast_nil
  | append_singleton l c ih =>
    rcases isLast_append_singleton.mp h with ⟨-, rfl⟩ | ⟨hc, h⟩
    · rcases isLast_append_singleton.mp h' with ⟨-, rfl⟩ | ⟨hc', -⟩
      · rfl
      · exact absurd ha hc'
    · rcases isLast_append_singleton.mp h' with ⟨-, rfl⟩ | ⟨-, h'⟩
      · exact absurd hb hc
      · exact ih h h'

/-- Another entry with the property comes before the last one. -/
theorem IsLast.eq_or_of_pairwise {R : α → α → Prop} (h : IsLast p l b) (ha : a ∈ l) (hpa : p a)
    (hl : l.Pairwise R) : a = b ∨ R a b := by
  obtain ⟨-, before, after, rfl, hafter⟩ := h
  rcases List.mem_append.mp ha with ha | ha
  · exact .inr ((List.pairwise_append.mp hl).2.2 a ha b List.mem_cons_self)
  · rcases List.mem_cons.mp ha with rfl | ha
    · exact .inl rfl
    · exact absurd hpa (hafter a ha)

theorem exists_isLast_iff : (∃ a, IsLast p l a) ↔ ∃ a ∈ l, p a := by
  constructor
  · rintro ⟨a, h⟩
    exact ⟨a, h.mem, h.1⟩
  · rintro ⟨a, ha, hp⟩
    induction l using List.reverseRecOn with
    | nil => cases ha
    | append_singleton l c ih =>
      by_cases hc : p c
      · exact ⟨c, isLast_append_singleton.mpr (.inl ⟨hc, rfl⟩)⟩
      · rcases List.mem_append.mp ha with ha | ha
        · obtain ⟨b, hb⟩ := ih ha
          exact ⟨b, isLast_append_singleton.mpr (.inr ⟨hc, hb⟩)⟩
        · exact absurd (List.mem_singleton.mp ha ▸ hp) hc

end IsLast

/-- Whether a grammar claims an extension: one of its file types stands for the extension. -/
def Grammar.Claims (g : Grammar) (extension : String) : Prop :=
  ∃ t ∈ g.fileTypes, Registry.normalExtension t = extension

instance (g : Grammar) (extension : String) : Decidable (g.Claims extension) :=
  inferInstanceAs (Decidable (∃ t ∈ g.fileTypes, _))

namespace Registry

variable {r : Registry} {g : Grammar} {gs : List Grammar} {path : String}

/-! ## The history of a registry -/

/-- The grammar that a change adds, if it does not fail. -/
def Change.grammar? : Change → Option Grammar
  | addGrammar g => some g
  | loadGrammar contents => (decodeFile contents).toOption.bind Grammar.ofJson?
  | addTheme _ | loadTheme _ _ => none

/-- The grammars that some changes add, in order. -/
def added (changes : List Change) : List Grammar := changes.filterMap Change.grammar?

/-- What a change does with the grammars. -/
theorem change_cases_grammar? (r : Registry) (c : Change) :
    (∃ g, c.grammar? = some g ∧ r.change c = (.ok g.scopeName, r.addGrammar g)) ∨
      c.grammar? = none ∧ (r.change c).2.grammars = r.grammars ∧
        (r.change c).2.extensions = r.extensions := by
  rw [change_eq]
  cases c with
  | addGrammar g => exact .inl ⟨g, rfl, rfl⟩
  | addTheme t => exact .inr ⟨rfl, rfl, rfl⟩
  | loadGrammar contents =>
    dsimp only
    rw [Change.grammar?, Registry.loadGrammar]
    cases decodeFile contents with
    | error e => exact .inr ⟨rfl, rfl, rfl⟩
    | ok text =>
      simp only [bind, Except.bind, Except.toOption, Option.bind_some]
      cases Grammar.ofJson? text with
      | none => exact .inr ⟨rfl, rfl, rfl⟩
      | some g => exact .inl ⟨g, rfl, rfl⟩
  | loadTheme path contents =>
    dsimp only
    rcases loadTheme_cases r path contents with ⟨key, t, h⟩ | ⟨e, h⟩
    · rw [h]
      exact .inr ⟨rfl, rfl, rfl⟩
    · rw [h]
      exact .inr ⟨rfl, rfl, rfl⟩

/-- Whether a registry has come about by adding some grammars: its two maps tell which grammar is
the last one with a scope name and which one is the last to claim an extension. -/
structure Records (r : Registry) (gs : List Grammar) : Prop where
  grammars : ∀ key g, r.grammars.get? key = some g ↔ IsLast (·.scopeName = key) gs g
  extensions : ∀ extension key, r.extensions.get? extension = some key ↔
    ∃ owner, IsLast (·.Claims extension) gs owner ∧ owner.scopeName = key

theorem records_empty : Records .empty [] where
  grammars := by
    intro key g
    exact ⟨(nomatch ·), fun h ↦ absurd h not_isLast_nil⟩
  extensions := by
    intro extension key
    refine ⟨(nomatch ·), ?_⟩
    rintro ⟨owner, howner, -⟩
    exact absurd howner not_isLast_nil

/-- **One more grammar** is one more entry of the history. -/
theorem Records.addGrammar (h : r.Records gs) (g : Grammar) :
    (r.addGrammar g).Records (gs ++ [g]) where
  grammars := by
    intro key g'
    rw [get?_grammars_addGrammar, isLast_append_singleton]
    by_cases hkey : g.scopeName = key
    · rw [if_pos hkey.symm, Option.some_inj]
      simp only [hkey, true_and, not_true_eq_false, false_and, or_false]
    · rw [if_neg (Ne.symm hkey), h.grammars]
      simp only [hkey, false_and, not_false_eq_true, true_and, false_or]
  extensions := by
    intro extension key
    have hclaimed : extension ∈ g.fileTypes.map normalExtension ↔ g.Claims extension :=
      List.mem_map
    rw [get?_extensions_addGrammar]
    -- What the new grammar does not claim stays with its owner, even when the owner is replaced.
    simp only [isLast_append_singleton]
    by_cases hclaims : g.Claims extension
    · rw [if_pos (hclaimed.mpr hclaims), Option.some_inj]
      constructor
      · intro hkey
        exact ⟨g, .inl ⟨hclaims, rfl⟩, hkey⟩
      · rintro ⟨owner, ⟨-, rfl⟩ | ⟨hnot, -⟩, hkey⟩
        · exact hkey
        · exact absurd hclaims hnot
    · rw [if_neg fun hmem ↦ hclaims (hclaimed.mp hmem), h.extensions]
      constructor
      · rintro ⟨owner, howner, hkey⟩
        exact ⟨owner, .inr ⟨hclaims, howner⟩, hkey⟩
      · rintro ⟨owner, ⟨hc, -⟩ | ⟨-, howner⟩, hkey⟩
        · exact absurd hc hclaims
        · exact ⟨owner, howner, hkey⟩

/-- Where the two maps stay, so does the history. -/
theorem Records.of_eq {r' : Registry} (h : r.Records gs) (hgrammars : r'.grammars = r.grammars)
    (hextensions : r'.extensions = r.extensions) : r'.Records gs := by
  constructor
  · rw [hgrammars]
    exact h.grammars
  · rw [hextensions]
    exact h.extensions

/-- **What a change adds to the history.** -/
theorem Records.change (h : r.Records gs) (c : Change) :
    (r.change c).2.Records (gs ++ c.grammar?.toList) := by
  rcases change_cases_grammar? r c with ⟨g, hgrammar, hchange⟩ | ⟨hgrammar, hgrammars, hextensions⟩
  · rw [hgrammar, hchange]
    exact h.addGrammar g
  · rw [hgrammar, Option.toList_none, List.append_nil]
    exact h.of_eq hgrammars hextensions

/-- **What all changes add to the history.** -/
theorem Records.changeAll (h : r.Records gs) (changes : List Change) :
    (r.changeAll changes).Records (gs ++ added changes) := by
  induction changes generalizing r gs with
  | nil =>
    rw [added, List.filterMap_nil, List.append_nil]
    exact h
  | cons c changes ih =>
    have hadded : added (c :: changes) = c.grammar?.toList ++ added changes := by
      rw [added, added, List.filterMap_cons]
      cases c.grammar? <;> rfl
    rw [hadded, ← List.append_assoc]
    exact ih (h.change c)

theorem Records.foldl_addGrammar (h : r.Records gs) (more : List Grammar) :
    (more.foldl Registry.addGrammar r).Records (gs ++ more) := by
  induction more generalizing r gs with
  | nil => rwa [List.append_nil]
  | cons g more ih =>
    rw [List.append_cons]
    exact ih (h.addGrammar g)

theorem Records.foldl_addTheme (h : r.Records gs) (ts : List Theme) :
    (ts.foldl Registry.addTheme r).Records gs := by
  induction ts generalizing r with
  | nil => exact h
  | cons t ts ih => exact ih (h.of_eq rfl rfl)

theorem records_builtin : Builtin.registry.Records Builtin.grammars :=
  (records_empty.foldl_addGrammar Builtin.grammars).foldl_addTheme _

/-! ## Detecting -/

/-- The grammar of a file is the last one with the scope name of the last one that claims the
extension. -/
theorem Records.detect_eq_some_iff (h : r.Records gs) : r.detect path = some g ↔
    ∃ extension owner, Path.extension? path = some extension ∧
      IsLast (·.Claims (Unicode.lower extension)) gs owner ∧
      IsLast (·.scopeName = owner.scopeName) gs g := by
  rw [detect]
  constructor
  · intro hdetect
    obtain ⟨extension, hextension, hdetect⟩ := Option.bind_eq_some_iff.mp hdetect
    obtain ⟨key, hkey, hget⟩ := Option.bind_eq_some_iff.mp hdetect
    obtain ⟨owner, howner, rfl⟩ := (h.extensions _ _).mp hkey
    exact ⟨extension, owner, hextension, howner, (h.grammars _ _).mp hget⟩
  · rintro ⟨extension, owner, hextension, howner, hlast⟩
    refine Option.bind_eq_some_iff.mpr ⟨extension, hextension, ?_⟩
    refine Option.bind_eq_some_iff.mpr ⟨owner.scopeName, ?_, (h.grammars _ _).mpr hlast⟩
    exact (h.extensions _ _).mpr ⟨owner, howner, rfl⟩

/-- A file has no grammar if nobody claims its extension, and only then. -/
theorem Records.detect_eq_none_iff (h : r.Records gs) : r.detect path = none ↔
    ∀ extension, Path.extension? path = some extension →
      ∀ g ∈ gs, ¬g.Claims (Unicode.lower extension) := by
  rw [Option.eq_none_iff_forall_ne_some]
  constructor
  · intro hnone extension hextension g hg hclaims
    obtain ⟨owner, howner⟩ :=
      exists_isLast_iff (p := (·.Claims (Unicode.lower extension))).mpr ⟨g, hg, hclaims⟩
    obtain ⟨g', hg'⟩ := exists_isLast_iff (p := (·.scopeName = owner.scopeName)).mpr
      ⟨owner, howner.mem, rfl⟩
    exact hnone g' (h.detect_eq_some_iff.mpr ⟨extension, owner, hextension, howner, hg'⟩)
  · intro hnone g hdetect
    obtain ⟨extension, owner, hextension, howner, -⟩ := h.detect_eq_some_iff.mp hdetect
    exact hnone extension hextension owner howner.mem howner.1

/-- The grammar of a file need not claim the extension, but a grammar that did has its scope
name. -/
theorem Records.claims_of_detect_eq_some (h : r.Records gs) (hdetect : r.detect path = some g) :
    ∃ extension owner, Path.extension? path = some extension ∧
      IsLast (·.Claims (Unicode.lower extension)) gs owner ∧ owner.scopeName = g.scopeName ∧
      (g.Claims (Unicode.lower extension) ↔ g = owner) ∧
      (gs.Pairwise (fun old new ↦ old.scopeName = new.scopeName →
          old.Claims (Unicode.lower extension) → new.Claims (Unicode.lower extension)) →
        g.Claims (Unicode.lower extension)) := by
  obtain ⟨extension, owner, hextension, howner, hlast⟩ := h.detect_eq_some_iff.mp hdetect
  have hscope : owner.scopeName = g.scopeName := hlast.1.symm
  refine ⟨extension, owner, hextension, howner, hscope, ⟨?_, ?_⟩, ?_⟩
  · exact fun hclaims ↦ hlast.eq_of howner hclaims rfl
  · rintro rfl
    exact howner.1
  · -- From the owner on, each grammar with its scope name claims the extension.
    intro hkept
    rcases hlast.eq_or_of_pairwise howner.mem rfl hkept with heq | hclaims
    · rw [← heq]
      exact howner.1
    · exact hclaims hscope howner.1

/-! ## After any changes -/

theorem records_of_start {start : Registry} {initial : List Grammar}
    (hstart : start = .empty ∧ initial = [] ∨
      start = Builtin.registry ∧ initial = Builtin.grammars) (changes : List Change) :
    (start.changeAll changes).Records (initial ++ added changes) := by
  rcases hstart with ⟨rfl, rfl⟩ | ⟨rfl, rfl⟩
  · exact records_empty.changeAll changes
  · exact records_builtin.changeAll changes

/-- **The grammar of a file** after any changes of the empty or the built-in registry: there is none
if no grammar that was added claims the extension. Otherwise it is the last grammar that was added
with the scope name of the last one that claims the extension. -/
theorem detect_after_changes {start : Registry} {initial : List Grammar}
    (hstart : start = .empty ∧ initial = [] ∨
      start = Builtin.registry ∧ initial = Builtin.grammars)
    (changes : List Change) (path : String) :
    let r := start.changeAll changes
    let gs := initial ++ added changes
    (r.detect path = none ↔ ∀ extension, Path.extension? path = some extension →
      ∀ g ∈ gs, ¬g.Claims (Unicode.lower extension)) ∧
    ∀ g, r.detect path = some g ↔ ∃ extension owner, Path.extension? path = some extension ∧
      IsLast (·.Claims (Unicode.lower extension)) gs owner ∧
      IsLast (·.scopeName = owner.scopeName) gs g := by
  intro r gs
  have h : r.Records gs := records_of_start hstart changes
  exact ⟨h.detect_eq_none_iff, fun g ↦ h.detect_eq_some_iff⟩

/-- A grammar for two file types. -/
def claiming : Grammar := (Grammar.new "source.two").withFileType ".X" |>.withFileType "y"

/-- A grammar that takes the place of this one, and has one of its file types. -/
def narrowed : Grammar := (Grammar.new "source.two").withFileType "y"

/-- An extension changes hands, and then the grammar that has it is replaced. -/
def takeover : List Change :=
  [.addGrammar ((Grammar.new "source.one").withFileType "x"), .addGrammar claiming,
    .loadGrammar (.error .notFound), .addGrammar narrowed]

theorem detect_after_takeover :
    (Builtin.registry = .empty ∧ Builtin.grammars = [] ∨
      Builtin.registry = Builtin.registry ∧ Builtin.grammars = Builtin.grammars) ∧
    (Builtin.registry.changeAll takeover).detect "notes.X" = some narrowed := by
  obtain ⟨-, hdetect⟩ := detect_after_changes (.inr ⟨rfl, rfl⟩) takeover "notes.X"
  refine ⟨.inr ⟨rfl, rfl⟩, (hdetect narrowed).mpr ⟨"X", claiming, rfl, ?_, rfl, ?_⟩⟩
  · refine ⟨⟨".X", by decide, rfl⟩,
      Builtin.grammars ++ [(Grammar.new "source.one").withFileType "x"], [narrowed], rfl, ?_⟩
    intro g hg
    rw [List.mem_singleton.mp hg]
    decide +kernel
  · exact ⟨Builtin.grammars ++ [(Grammar.new "source.one").withFileType "x", claiming], [], rfl,
      fun _ h ↦ nomatch h⟩

/-- **Whether the grammar of a file claims the extension**, after any changes of the empty or the
built-in registry. It has the scope name of the last grammar that claims the extension, and claims
the extension itself if and only if it is this grammar. If grammars that take the place of others
claim what these claim, it always does. -/
theorem claims_of_detect_after_changes {start : Registry} {initial : List Grammar}
    (hstart : start = .empty ∧ initial = [] ∨
      start = Builtin.registry ∧ initial = Builtin.grammars)
    (changes : List Change) {path : String} {g : Grammar}
    (hdetect : (start.changeAll changes).detect path = some g) :
    let gs := initial ++ added changes
    ∃ extension owner, Path.extension? path = some extension ∧
      IsLast (·.Claims (Unicode.lower extension)) gs owner ∧ owner.scopeName = g.scopeName ∧
      (g.Claims (Unicode.lower extension) ↔ g = owner) ∧
      (gs.Pairwise (fun old new ↦ old.scopeName = new.scopeName →
          old.Claims (Unicode.lower extension) → new.Claims (Unicode.lower extension)) →
        g.Claims (Unicode.lower extension)) :=
  (records_of_start hstart changes).claims_of_detect_eq_some hdetect

/-- A grammar that takes the place of the one for two file types, and claims an extension of it. -/
def renewed : Grammar := (Grammar.new "source.two").withFileType "z" |>.withFileType "x"

theorem claims_of_detect_renewed :
    let changes : List Change := [.addGrammar claiming, .addGrammar renewed]
    (Registry.empty = .empty ∧ ([] : List Grammar) = [] ∨
      Registry.empty = Builtin.registry ∧ [] = Builtin.grammars) ∧
    (Registry.empty.changeAll changes).detect "notes.x" = some renewed ∧
    ∃ extension owner, Path.extension? "notes.x" = some extension ∧
      IsLast (·.Claims (Unicode.lower extension)) (added changes) owner ∧
      owner.scopeName = renewed.scopeName ∧ renewed.Claims (Unicode.lower extension) ∧
      renewed = owner := by
  intro changes
  have hdetect : (Registry.empty.changeAll changes).detect "notes.x" = some renewed := rfl
  obtain ⟨extension, owner, hextension, howner, hscope, hiff, hkept⟩ :=
    claims_of_detect_after_changes (.inl ⟨rfl, rfl⟩) changes hdetect
  have hclaims : renewed.Claims (Unicode.lower extension) := by
    refine hkept (List.pairwise_pair.mpr fun _ _ ↦ ?_)
    obtain rfl : "x" = extension := Option.some.inj hextension
    decide +kernel
  exact ⟨.inl ⟨rfl, rfl⟩, hdetect, extension, owner, hextension, howner, hscope, hclaims,
    hiff.mp hclaims⟩

/-- After the replacement, a file is for a grammar that does not claim its extension. -/
theorem detect_replaced :
    (Registry.empty.changeAll [.addGrammar claiming, .addGrammar narrowed]).detect "notes.x" =
      some narrowed ∧
    Path.extension? "notes.x" = some "x" ∧ ¬narrowed.Claims (Unicode.lower "x") :=
  ⟨rfl, rfl, by decide +kernel⟩

end Registry

end Highlighter
