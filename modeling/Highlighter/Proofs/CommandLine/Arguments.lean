import Highlighter.CommandLine
import Mathlib.Data.List.Induction

/-!
# The words of a call

The words of a call are an option with its value, a flag or a file, one after the other. What they
say is told without reading them: by the items that are written (`Arguments.AreWritten`), of which
the last one of each kind counts (`Arguments.ofItems`), and by the word that is at fault where the
others are not (`Arguments.Offends`).

A value may be any word, also one that looks like an option, so what a word is depends on the words
before it. What one item sets is a step of the reader (`Item.IsWritten.readAfter_append`). A call is
read to its end if its words are those of some items, and otherwise up to the first word that does
not begin an item, which nothing after it can make good.
-/

namespace Highlighter

namespace Arguments

/-! ## Items -/

/-- The options that are followed by the name or the file of a grammar. -/
def grammarOptions : List String := ["-g", "--grammar"]

/-- The options that are followed by the name or the file of a theme. -/
def themeOptions : List String := ["-t", "--theme"]

/-- The flags, and what each asks for. -/
def modeFlags : List (String × OutputMode) :=
  [("--tokens", .tokens), ("--spans", .spans), ("--plain", .plain)]

/-- The words that are options or flags. -/
def optionWords : List String := grammarOptions ++ themeOptions ++ modeFlags.map Prod.fst

/-- What a call may say at a time. -/
inductive Item where
  /-- An option with the name or the file of a grammar. -/
  | grammar (value : String)
  /-- An option with the name or the file of a theme. -/
  | theme (value : String)
  | mode (mode : OutputMode)
  | file (name : String)

namespace Item

/-- Whether some words are those of an item. -/
inductive IsWritten : Item → List String → Prop
  | grammar {option : String} (h : option ∈ grammarOptions) (value : String) :
      IsWritten (.grammar value) [option, value]
  | theme {option : String} (h : option ∈ themeOptions) (value : String) :
      IsWritten (.theme value) [option, value]
  | mode {flag : String} {mode : OutputMode} (h : (flag, mode) ∈ modeFlags) :
      IsWritten (.mode mode) [flag]
  | file {name : String} (h : name.toList.head? ≠ some '-') : IsWritten (.file name) [name]

def grammar? : Item → Option String
  | grammar value => some value
  | theme _ | mode _ | file _ => none

def theme? : Item → Option String
  | theme value => some value
  | grammar _ | mode _ | file _ => none

def mode? : Item → Option OutputMode
  | mode m => some m
  | grammar _ | theme _ | file _ => none

def file? : Item → Option String
  | file name => some name
  | grammar _ | theme _ | mode _ => none

end Item

/-- Whether some words are those of some items, one item after the other. -/
inductive AreWritten : List Item → List String → Prop
  | nil : AreWritten [] []
  | cons {item : Item} {items : List Item} {front back : List String} (h : item.IsWritten front)
      (hrest : AreWritten items back) : AreWritten (item :: items) (front ++ back)

/-- What some items say: of each kind the last one counts. -/
def ofItems (items : List Item) : Arguments where
  grammar := (items.filterMap Item.grammar?).getLast?
  theme := (items.filterMap Item.theme?).getLast?
  mode := (items.filterMap Item.mode?).getLast?.getD .render
  file := (items.filterMap Item.file?).getLast?

/-- Whether a word, with those after it, is not where an item begins, and what is wrong with it. -/
inductive Offends : String → List String → Error → Prop
  /-- An option is the last word. -/
  | missingValue {option : String} (h : option ∈ grammarOptions ++ themeOptions) :
      Offends option [] (.missingValue option)
  /-- A word begins like an option and is none. -/
  | unknownOption {w : String} (hdash : w.toList.head? = some '-') (h : w ∉ optionWords)
      (rest : List String) : Offends w rest (.unknownOption w)

/-- Whether words are those of some items, up to their end or to a word that offends. -/
def Splits (ws : List String) : Prop :=
  ∃ items front rest, AreWritten items front ∧ ws = front ++ rest ∧
    (rest = [] ∨ ∃ w rest' e, rest = w :: rest' ∧ Offends w rest' e)

/-! ## Words -/

namespace Word

variable {w : String} {mode : OutputMode}

theorem head?_of_mem_optionWords : ∀ w ∈ optionWords, w.toList.head? = some '-' := by decide

theorem ofString_eq_grammarOption_iff : ofString w = .grammarOption ↔ w ∈ grammarOptions := by
  unfold ofString
  grind [grammarOptions]

theorem ofString_eq_themeOption_iff : ofString w = .themeOption ↔ w ∈ themeOptions := by
  unfold ofString
  grind [themeOptions]

theorem ofString_eq_modeFlag_iff : ofString w = .modeFlag mode ↔ (w, mode) ∈ modeFlags := by
  unfold ofString
  grind [modeFlags]

theorem ofString_eq_unknownOption_iff :
    ofString w = .unknownOption ↔ w.toList.head? = some '-' ∧ w ∉ optionWords := by
  unfold ofString
  grind [optionWords, grammarOptions, themeOptions, modeFlags]

theorem ofString_eq_file_iff : ofString w = .file ↔ w.toList.head? ≠ some '-' := by
  have hoption := head?_of_mem_optionWords w
  unfold ofString
  grind [optionWords, grammarOptions, themeOptions, modeFlags]

end Word

/-! ## Steps of the reader -/

/-- The arguments with what an item says in place of what was said before. -/
def set (a : Arguments) : Item → Arguments
  | .grammar value => { a with grammar := some value }
  | .theme value => { a with theme := some value }
  | .mode mode => { a with mode }
  | .file name => { a with file := some name }

section Steps

variable {item : Item} {items : List Item} {a : Arguments} {e : Error} {w : String}
  {front back rest ws : List String}

/-- **An item is read by one step**, which goes on behind it. -/
theorem Item.IsWritten.readAfter_append (h : item.IsWritten front) (a : Arguments)
    (back : List String) : readAfter a (front ++ back) = readAfter (a.set item) back := by
  cases h with
  | grammar hoption value =>
    have hword := Word.ofString_eq_grammarOption_iff.mpr hoption
    simp only [List.cons_append, List.nil_append, readAfter, hword, set]
  | theme hoption value =>
    have hword := Word.ofString_eq_themeOption_iff.mpr hoption
    simp only [List.cons_append, List.nil_append, readAfter, hword, set]
  | mode hflag =>
    rw [List.singleton_append, readAfter, set]
    exact Word.ofString_eq_modeFlag_iff.mpr hflag
  | file hname =>
    have hword := Word.ofString_eq_file_iff.mpr hname
    simp only [List.cons_append, List.nil_append, readAfter, hword, set]

/-- The reader stops at a word that offends. -/
theorem Offends.readAfter_eq_error (h : Offends w rest e) (a : Arguments) :
    readAfter a (w :: rest) = .error e := by
  cases h with
  | missingValue hoption =>
    rcases List.mem_append.mp hoption with hoption | hoption
    · simp only [readAfter, Word.ofString_eq_grammarOption_iff.mpr hoption]
    · simp only [readAfter, Word.ofString_eq_themeOption_iff.mpr hoption]
  | unknownOption hdash hnone =>
    simp only [readAfter, Word.ofString_eq_unknownOption_iff.mpr ⟨hdash, hnone⟩]

/-- **Items are read one after the other.** -/
theorem AreWritten.readAfter_append (h : AreWritten items front) (a : Arguments)
    (back : List String) : readAfter a (front ++ back) = readAfter (items.foldl set a) back := by
  induction h generalizing a with
  | nil => rfl
  | cons hitem _ ih => rw [List.append_assoc, hitem.readAfter_append, ih, List.foldl_cons]

theorem ofItems_append_singleton (items : List Item) (item : Item) :
    ofItems (items ++ [item]) = (ofItems items).set item := by
  cases item <;> simp [ofItems, set, List.filterMap_append, Item.grammar?, Item.theme?,
    Item.mode?, Item.file?]

/-- What is set last stays. -/
theorem foldl_set_eq_ofItems (items : List Item) : items.foldl set {} = ofItems items := by
  induction items using List.reverseRecOn with
  | nil => rfl
  | append_singleton items item ih =>
    rw [List.foldl_append, ih, ofItems_append_singleton]
    rfl

theorem AreWritten.ofWords_append (h : AreWritten items front) (back : List String) :
    ofWords (front ++ back) = readAfter (ofItems items) back := by
  rw [ofWords, h.readAfter_append, foldl_set_eq_ofItems]

theorem Item.IsWritten.splits_append (h : item.IsWritten front) (hback : Splits back) :
    Splits (front ++ back) := by
  obtain ⟨items, front', rest, hitems, rfl, hrest⟩ := hback
  exact ⟨_, front ++ front', rest, .cons h hitems, (List.append_assoc _ _ _).symm, hrest⟩

theorem Offends.splits (h : Offends w rest e) : Splits (w :: rest) :=
  ⟨[], [], w :: rest, .nil, rfl, .inr ⟨w, rest, e, rfl, h⟩⟩

/-- **All words are those of some items**, up to their end or to a word that offends. The cases are
those of the reader. -/
theorem splits (a : Arguments) (ws : List String) : Splits ws := by
  fun_induction readAfter a ws with
  | case1 => exact ⟨[], [], [], .nil, rfl, .inl rfl⟩
  | case2 a w v ws hword ih =>
    have hitem := Item.IsWritten.grammar (Word.ofString_eq_grammarOption_iff.mp hword) v
    exact hitem.splits_append ih
  | case3 a w v ws hword ih =>
    have hitem := Item.IsWritten.theme (Word.ofString_eq_themeOption_iff.mp hword) v
    exact hitem.splits_append ih
  | case4 a w hword =>
    have hoption := Word.ofString_eq_grammarOption_iff.mp hword
    exact (Offends.missingValue (List.mem_append_left themeOptions hoption)).splits
  | case5 a w hword =>
    have hoption := Word.ofString_eq_themeOption_iff.mp hword
    exact (Offends.missingValue (List.mem_append_right grammarOptions hoption)).splits
  | case6 a w ws mode hword ih =>
    have hitem := Item.IsWritten.mode (Word.ofString_eq_modeFlag_iff.mp hword)
    exact hitem.splits_append ih
  | case7 a w ws hword =>
    obtain ⟨hdash, hnone⟩ := Word.ofString_eq_unknownOption_iff.mp hword
    exact (Offends.unknownOption hdash hnone ws).splits
  | case8 a w ws hword ih =>
    have hitem := Item.IsWritten.file (Word.ofString_eq_file_iff.mp hword)
    exact hitem.splits_append ih

theorem AreWritten.ofWords_eq_ok (h : AreWritten items ws) : ofWords ws = .ok (ofItems items) := by
  have hread := h.ofWords_append []
  rwa [List.append_nil, readAfter] at hread

theorem AreWritten.ofWords_eq_error (h : AreWritten items front) (hw : Offends w rest e) :
    ofWords (front ++ w :: rest) = .error e := by
  rw [h.ofWords_append, hw.readAfter_eq_error]

/-- Words are read, or there is a first word that offends, and never both. -/
theorem ofWords_cases (ws : List String) :
    (∃ items, AreWritten items ws ∧ ofWords ws = .ok (ofItems items)) ∨
    ∃ items front w rest e, AreWritten items front ∧ ws = front ++ w :: rest ∧ Offends w rest e ∧
      ofWords ws = .error e := by
  obtain ⟨items, front, rest, hitems, rfl, rfl | ⟨w, rest, e, rfl, hw⟩⟩ := splits {} ws
  · rw [List.append_nil]
    exact .inl ⟨items, hitems, hitems.ofWords_eq_ok⟩
  · exact .inr ⟨items, front, w, rest, e, hitems, rfl, hw, hitems.ofWords_eq_error hw⟩

end Steps

/-- **What words say.** They are read to their end exactly if they are those of some items, and then
they say what the last item of each kind says. Otherwise the first word with which no item begins
gives the error; an option that lacks its value is the last word, and what follows a word that only
looks like an option does not matter. -/
theorem ofWords_eq_iff (ws : List String) :
    (∀ a, ofWords ws = .ok a ↔ ∃ items, AreWritten items ws ∧ a = ofItems items) ∧
    (∀ e, ofWords ws = .error e ↔ ∃ items front w rest, AreWritten items front ∧
      ws = front ++ w :: rest ∧ Offends w rest e) ∧
    ∀ w, ofWords ws = .error (.unknownOption w) → ∃ front rest, ws = front ++ w :: rest ∧
      ∀ rest', ofWords (front ++ w :: rest') = .error (.unknownOption w) := by
  refine ⟨fun a ↦ ⟨fun ha ↦ ?_, ?_⟩, fun e ↦ ⟨fun he ↦ ?_, ?_⟩, fun w hw ↦ ?_⟩
  · rcases ofWords_cases ws with ⟨items, hitems, hok⟩ | ⟨_, _, _, _, _, _, _, _, herror⟩
    · exact ⟨items, hitems, Except.ok.inj (ha.symm.trans hok)⟩
    · cases ha.symm.trans herror
  · rintro ⟨items, hitems, rfl⟩
    exact hitems.ofWords_eq_ok
  · rcases ofWords_cases ws with ⟨_, _, hok⟩ | ⟨items, front, w, rest, e', hitems, hws, hw, herror⟩
    · cases he.symm.trans hok
    · obtain rfl := Except.error.inj (he.symm.trans herror)
      exact ⟨items, front, w, rest, hitems, hws, hw⟩
  · rintro ⟨items, front, w, rest, hitems, rfl, hw⟩
    exact hitems.ofWords_eq_error hw
  · rcases ofWords_cases ws with ⟨_, _, hok⟩ | ⟨items, front, w', rest, e, hitems, hws, hw', herror⟩
    · cases hw.symm.trans hok
    · obtain rfl := Except.error.inj (hw.symm.trans herror)
      cases hw' with
      | unknownOption hdash hnone =>
        exact ⟨front, rest, hws, fun rest' ↦
          hitems.ofWords_eq_error (.unknownOption hdash hnone rest')⟩

theorem ofWords_mixedWords :
    ofWords ["-g", "--plain", "--spans", "a.rs", "--tokens", "b.rs"] =
      .ok { grammar := some "--plain", mode := .tokens, file := some "b.rs" } ∧
    ofWords ["a.rs", "--bogus", "-t"] = .error (.unknownOption "--bogus") ∧
    ∃ front rest, ["a.rs", "--bogus", "-t"] = front ++ "--bogus" :: rest ∧
      ∀ rest', ofWords (front ++ "--bogus" :: rest') = .error (.unknownOption "--bogus") := by
  have hitems : AreWritten
      [.grammar "--plain", .mode .spans, .file "a.rs", .mode .tokens, .file "b.rs"]
      ["-g", "--plain", "--spans", "a.rs", "--tokens", "b.rs"] :=
    .cons (.grammar (by decide) "--plain") (.cons (.mode (by decide)) (.cons (.file (by decide))
      (.cons (.mode (by decide)) (.cons (.file (by decide)) .nil))))
  have hfile : AreWritten [.file "a.rs"] ["a.rs"] := .cons (.file (by decide)) .nil
  have hbogus : Offends "--bogus" ["-t"] (.unknownOption "--bogus") :=
    .unknownOption (by decide) (by decide) ["-t"]
  have herror : ofWords ["a.rs", "--bogus", "-t"] = .error (.unknownOption "--bogus") :=
    ((ofWords_eq_iff _).2.1 _).mpr ⟨_, _, _, _, hfile, rfl, hbogus⟩
  exact ⟨((ofWords_eq_iff _).1 _).mpr ⟨_, hitems, rfl⟩, herror, (ofWords_eq_iff _).2.2 _ herror⟩

end Arguments

end Highlighter
