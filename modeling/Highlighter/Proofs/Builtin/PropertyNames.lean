import Highlighter.Proofs.Builtin.StringMatches

/-!
# Property names of JSON

The grammar of JSON tags strings by one rule, and property names by another one, which searches for
a string with a colon after it. A property name that is tagged begins in a string, and a colon comes
after it, but it need not have the range of a string: the closing quote is optional, so that a front
part of a string is tagged if a colon comes inside the string (`json_property_name_in_string`).
Which property names have the range of a string is told from the tokens, and a condition on the
colons of a text is given under which all of them have (`json_property_names`).

What the expressions mean is an assumption on the engine (`ReadsJson`). The engine of the library
meets it if it compiles the expressions of the grammar (`readsJson_compile`).
-/

namespace Highlighter.Builtin

open Regex

/-! ## What is found in a source -/

/-- Whether only white space lies between two offsets of a text. -/
def BlankBetween (text : String) (start stop : Nat) : Prop :=
  ∃ blanks, IsSlice text start stop blanks ∧ ∀ c ∈ blanks.toList, Words.isBlank c = true

/-- Whether white space and a colon come in a text from an offset on. -/
def ColonComes (text : String) (offset : Nat) : Prop :=
  ∃ start stop, BlankBetween text offset start ∧ IsSlice text start stop ":"

section Source

variable {src : Source} {r s : Region} {pos pos' : Nat}

theorem blankBetween_iff (h : pos ≤ src.size) (h' : pos' ≤ src.size) :
    BlankBetween src.text (src.offset pos) (src.offset pos') ↔ Blanks src.chars pos pos' := by
  constructor
  · rintro ⟨blanks, hslice, hblank⟩
    obtain ⟨r, hr, hstart, hstop, rfl⟩ := Source.exists_region hslice
    obtain rfl := Source.offset_inj (Nat.le_trans r.start_le_stop hr) h hstart
    obtain rfl := Source.offset_inj hr h' hstop
    refine blanks_of_isBlank r.start_le_stop fun i hle hlt ↦ ?_
    have hget := Source.getElem?_toList_slice (s := src) (r := r) (i := i - r.start) (by omega)
    rw [Nat.add_sub_cancel' hle, Array.getElem?_eq_getElem (Nat.lt_of_lt_of_le hlt hr)] at hget
    exact ⟨_, Array.getElem?_eq_getElem _, hblank _ (List.mem_of_getElem? hget)⟩
  · intro hblanks
    let r : Region := ⟨pos, pos', hblanks.le⟩
    refine ⟨src.slice r, Source.isSlice_slice (r := r) h', fun c hc ↦ ?_⟩
    obtain ⟨i, hi⟩ := List.mem_iff_getElem?.mp hc
    have hlt : i < r.stop - r.start := by
      rw [← Source.length_toList_slice (s := src) (r := r) h']
      exact (List.getElem?_eq_some_iff.mp hi).1
    rw [Source.getElem?_toList_slice hlt] at hi
    obtain ⟨c', hc', hblank⟩ := hblanks.isBlank (Nat.le_add_right pos i) (Nat.add_lt_of_lt_sub' hlt)
    obtain rfl := Option.some.inj (hi.symm.trans hc')
    exact hblank

theorem colonComes_iff (h : pos ≤ src.size) :
    ColonComes src.text (src.offset pos) ↔ ColonFollows src.chars pos := by
  constructor
  · rintro ⟨start, stop, hblank, hcolon⟩
    obtain ⟨pos', hchar, rfl, rfl⟩ := Source.exists_of_isSlice_singleton (c := ':') hcolon
    have hpos' : pos' < src.size := (Array.getElem?_eq_some_iff.mp hchar).1
    exact ⟨pos', (blankBetween_iff h (Nat.le_of_lt hpos')).mp hblank, hchar⟩
  · rintro ⟨pos', hblanks, hcolon⟩
    have hpos' : pos' < src.size := (Array.getElem?_eq_some_iff.mp hcolon).1
    exact ⟨_, _, (blankBetween_iff h (Nat.le_of_lt hpos')).mpr hblanks,
      Source.isSlice_singleton hcolon⟩

/-- What begins and ends with a quote has two of them. -/
theorem quote_of_slice_eq {name : String} (h : s.stop ≤ src.size)
    (hslice : src.slice s = "\"" ++ name ++ "\"") :
    s.start + 1 < s.stop ∧ src.chars[s.stop - 1]? = some '"' := by
  have hlist : (src.slice s).toList = '"' :: name.toList ++ ['"'] := by
    rw [hslice, String.toList_append, String.toList_append]
    rfl
  have hlength := Source.length_toList_slice h
  rw [hlist, List.length_append, List.length_cons, List.length_singleton] at hlength
  refine ⟨by omega, ?_⟩
  have hget := Source.getElem?_toList_slice (s := src) (r := s) (i := name.toList.length + 1)
    (by omega)
  rw [hlist, List.getElem?_append_right (by simp)] at hget
  rw [show s.stop - 1 = s.start + (name.toList.length + 1) by omega, ← hget]
  simp

end Source

/-! ## The rules -/

/-- The scope of strings. -/
def stringScope : String := "string.quoted.double.json"

/-- The scope of property names. -/
def nameScope : String := "support.type.property-name.json"

/-- The rule for strings. -/
def stringRule : Pattern := (tagged jsonString stringScope).withPatterns [.including "#escapes"]

/-- The rule for property names. -/
def nameRule : Pattern := (Pattern.single jsonName).withCapture 1 (.scope nameScope)

/-- What is assumed of an engine for JSON: it compiles the expressions of all enabled rules, and
those for strings and property names mean what they say. -/
structure ReadsJson (engine : Engine) : Prop where
  compiles : ∀ rule ∈ json.enabledRules, ∀ source ∈ rule.regexes, (engine source).isSome
  string : ∀ finds, engine jsonString = some finds → finds = stringExpr.searcher
  name : ∀ finds, engine jsonName = some finds → finds = nameExpr.searcher

/-- The engine of the library reads JSON if it compiles the expressions. -/
theorem readsJson_compile
    (h : ∀ rule ∈ json.enabledRules, ∀ source ∈ rule.regexes, (compile source).isSome) :
    ReadsJson compile where
  compiles := h
  string := fun _ hfinds ↦ compile_eq_searcher hfinds expression?_jsonString proper_stringExpr
  name := fun _ hfinds ↦ compile_eq_searcher hfinds expression?_jsonName proper_nameExpr

/-- The scopes that the other rules give. -/
def otherScopes : List String :=
  ["punctuation.separator.json", "constant.numeric.json", "constant.language.json",
    "constant.character.escape.json", "invalid.illegal.unrecognized-string-escape.json"]

theorem givesBy_stringRule : json.GivesBy stringScope stringRule jsonString := by
  refine .of_confinesWithin 4 (json.patterns.take 3) [nameRule] (nameScope :: otherScopes)
    otherScopes rfl rfl rfl ?_ ?_ ?_ ?_ <;> decide

theorem givesBy_nameRule : json.GivesBy nameScope nameRule jsonName := by
  refine .of_confinesWithin 4 (json.patterns.take 4) [] (stringScope :: otherScopes) [] rfl rfl rfl
    ?_ ?_ ?_ ?_ <;> decide

section Marks

variable {k : Tokenizer} {m : Mark}

/-- What is marked as a string is a string of the text. -/
theorem mem_made_string_iff (hk : k.grammar = json)
    (hfinds : k.table.get? jsonString = some stringExpr.searcher) (hm : m.scope = stringScope) :
    m ∈ k.topCalls.flatMap k.made ↔ HasString k.text m.region := by
  have hg : k.grammar.GivesBy m.scope stringRule jsonString := by
    rw [hk, hm]
    exact givesBy_stringRule
  rw [Tokenizer.mem_made_iff_of_givesBy hg hfinds]
  constructor
  · rintro ⟨-, found, hfound, group, -, hgroup, -⟩
    obtain ⟨hgroups, -⟩ := isString_of_has (has_of_mem_matchesFrom hfound)
    have hget := Match.mem_participating.mp hgroup
    rw [Match.allGroups, hgroups, List.getElem?_singleton] at hget
    split at hget
    · exact ⟨found, hfound, Option.some.inj (Option.some.inj hget)⟩
    · cases hget
  · rintro ⟨found, hfound, hregion⟩
    obtain ⟨-, hstring⟩ := isString_of_has (has_of_mem_matchesFrom hfound)
    have hempty := Region.isEmpty_eq_false hstring.start_lt_stop
    rw [← hregion, hm]
    exact ⟨hempty, found, hfound, 0, hempty, found.zero_mem_participating, rfl⟩

/-- What is marked as a property name is a property name of the text. -/
theorem mem_made_name_iff (hk : k.grammar = json)
    (hfinds : k.table.get? jsonName = some nameExpr.searcher) (hm : m.scope = nameScope) :
    m ∈ k.topCalls.flatMap k.made ↔ HasName k.text m.region := by
  have hg : k.grammar.GivesBy m.scope nameRule jsonName := by
    rw [hk, hm]
    exact givesBy_nameRule
  rw [Tokenizer.mem_made_iff_of_givesBy hg hfinds]
  constructor
  · rintro ⟨-, found, hfound, group, -, hgroup, hname⟩
    obtain ⟨r, hgroups, -⟩ := exists_isName_of_has (has_of_mem_matchesFrom hfound)
    have hget := Match.mem_participating.mp hgroup
    rw [Match.allGroups, hgroups] at hget
    -- Only group 1 has a scope.
    match group with
    | 0 => cases hname
    | 1 => exact ⟨found, hfound, by rw [hgroups, Option.some.inj hget]⟩
    | group + 2 => cases hget
  · rintro ⟨found, hfound, hgroups⟩
    obtain ⟨r, hgroups', hstart, hname, stop, -, hstop, hle⟩ :=
      exists_isName_of_has (has_of_mem_matchesFrom hfound)
    obtain rfl : m.region = r := by simpa [hgroups] using hgroups'
    have hlt := hname.start_lt_stop
    have hgroup : (1, m.region) ∈ found.participating := by
      rw [Match.mem_participating, Match.allGroups, hgroups]
      rfl
    rw [hm]
    exact ⟨Region.isEmpty_eq_false hlt, found, hfound, 1, Region.isEmpty_eq_false (by omega),
      hgroup, rfl⟩

end Marks

/-! ## Tokens -/

/-- Whether some tokens are those of the strings and property names of a source, as far as strings
and property names are concerned. -/
structure Tags (src : Source) (tokens : List Token) : Prop where
  string_iff : ∀ t, t ∈ tokens ∧ t.scope = stringScope ↔
    ∃ s, HasString src.chars s ∧ src.token ⟨s, stringScope⟩ = t
  name_iff : ∀ t, t ∈ tokens ∧ t.scope = nameScope ↔
    ∃ r, HasName src.chars r ∧ src.token ⟨r, nameScope⟩ = t

theorem exists_tags {engine : Engine} (hengine : ReadsJson engine) (text : String)
    (options : TokenizeOptions) :
    ∃ tokens, tokenize engine json text options = .ok tokens ∧ Tags (.ofString text) tokens := by
  have hstrategy : ∀ rule ∈ json.enabledRules, rule.strategy.isOk = true := by decide
  obtain ⟨table, hcompile⟩ := RuleTable.exists_compile_eq_ok hstrategy hengine.compiles
  let k := json.tokenizer table (.ofString text) options
  have hget {scope source : String} {p : Pattern} (hg : json.GivesBy scope p source) :
      ∃ finds, engine source = some finds ∧ table.get? source = some finds :=
    (Grammar.Enables.pattern hg.mem hg.isDisabled_eq_false).exists_get?_eq_some hcompile hg.strategy
  obtain ⟨finds, hfinds, hstrings⟩ := hget givesBy_stringRule
  obtain rfl := hengine.string finds hfinds
  obtain ⟨finds, hfinds, hnames⟩ := hget givesBy_nameRule
  obtain rfl := hengine.name finds hfinds
  have hmark {scope : String} {P : Region → Prop}
      (hiff : ∀ m : Mark, m.scope = scope → (m ∈ k.topCalls.flatMap k.made ↔ P m.region))
      (t : Token) : t ∈ (k.topCalls.flatMap k.made).map (Source.ofString text).token ∧
        t.scope = scope ↔ ∃ r, P r ∧ (Source.ofString text).token ⟨r, scope⟩ = t := by
    constructor
    · rintro ⟨ht, hscope⟩
      obtain ⟨⟨r, _⟩, hm, rfl⟩ := List.mem_map.mp ht
      obtain rfl : _ = scope := hscope
      exact ⟨r, (hiff _ rfl).mp hm, rfl⟩
    · rintro ⟨r, hr, rfl⟩
      exact ⟨List.mem_map_of_mem ((hiff ⟨r, scope⟩ rfl).mpr hr), rfl⟩
  exact ⟨_, tokenize_eq_ok hcompile text options,
    hmark fun m hm ↦ mem_made_string_iff rfl hstrings hm,
    hmark fun m hm ↦ mem_made_name_iff rfl hnames hm⟩

/-- Whether a token has the range of a string. -/
def HasRangeOfString (tokens : List Token) (t : Token) : Prop :=
  ∃ s ∈ tokens, s.scope = stringScope ∧ s.start = t.start ∧ s.stop = t.stop

instance (tokens : List Token) (t : Token) : Decidable (HasRangeOfString tokens t) :=
  inferInstanceAs (Decidable (∃ s ∈ tokens, _))

/-- Whether a token for a property name is placed as it should be, and where it has the range of a
string. -/
structure NamesProperty (text : String) (tokens : List Token) (t : Token) : Prop where
  /-- It begins in a string. -/
  starts : ∃ s ∈ tokens, s.scope = stringScope ∧ s.start ≤ t.start ∧ t.start < s.stop
  /-- White space and a colon come after it. -/
  colon : ColonComes text t.stop
  /-- It takes no more than a string that begins where it begins. -/
  stop_le : ∀ s ∈ tokens, s.scope = stringScope → s.start = t.start → t.stop ≤ s.stop
  /-- It has the range of a string exactly if a string begins where it begins and white space and a
  colon come after that. -/
  range_iff : HasRangeOfString tokens t ↔
    ∃ s ∈ tokens, s.scope = stringScope ∧ s.start = t.start ∧ ColonComes text s.stop

/-- Whether each colon of a text comes after a string with both quotes and white space, and no
string comes right after a backslash. -/
structure ColonsFollowStrings (text : String) (tokens : List Token) : Prop where
  colon : ∀ start stop, IsSlice text start stop ":" → ∃ s ∈ tokens, s.scope = stringScope ∧
    (∃ name, s.text = "\"" ++ name ++ "\"") ∧ BlankBetween text s.stop start
  backslash : ∀ s ∈ tokens, s.scope = stringScope → ∀ start, ¬IsSlice text start s.start "\\"

namespace Tags

variable {src : Source} {tokens : List Token} {t : Token}

theorem exists_string (h : Tags src tokens) (ht : t ∈ tokens) (hscope : t.scope = stringScope) :
    ∃ s, HasString src.chars s ∧ src.token ⟨s, stringScope⟩ = t :=
  (h.string_iff t).mp ⟨ht, hscope⟩

theorem string_mem (h : Tags src tokens) {s : Region} (hs : HasString src.chars s) :
    src.token ⟨s, stringScope⟩ ∈ tokens :=
  ((h.string_iff _).mpr ⟨s, hs, rfl⟩).1

theorem namesProperty (h : Tags src tokens) (ht : t ∈ tokens) (hscope : t.scope = nameScope) :
    NamesProperty src.text tokens t := by
  obtain ⟨r, hr, rfl⟩ := (h.name_iff t).mp ⟨ht, hscope⟩
  have hname := hr.isName
  have hstart := Nat.le_trans r.start_le_stop hr.stop_le
  have hsame : ∀ s, HasString src.chars s → src.offset s.start = src.offset r.start →
      s.start = r.start := fun s hs heq ↦
    Source.offset_inj (Nat.le_trans s.start_le_stop hs.stop_le) hstart heq
  refine ⟨?_, (colonComes_iff hr.stop_le).mpr hname.colon, ?_, ?_, ?_⟩
  · obtain ⟨s, hs, hle, hlt⟩ := exists_hasString hname.quote
    exact ⟨_, h.string_mem hs, rfl, Source.offset_le_offset hle hstart,
      Source.offset_lt_offset hlt hs.stop_le⟩
  · intro s hs hsscope heq
    obtain ⟨s, hs', rfl⟩ := h.exists_string hs hsscope
    exact Source.offset_le_offset (hname.stop_le hs'.isString (hsame s hs' heq)) hs'.stop_le
  · rintro ⟨s, hs, hsscope, hsstart, hsstop⟩
    refine ⟨s, hs, hsscope, hsstart, ?_⟩
    rw [hsstop]
    exact (colonComes_iff hr.stop_le).mpr hname.colon
  · rintro ⟨s, hs, hsscope, hsstart, hcolon⟩
    obtain ⟨s, hs', rfl⟩ := h.exists_string hs hsscope
    have hcolon := (colonComes_iff hs'.stop_le).mp hcolon
    obtain rfl := hname.eq_of_isString s hs'.isString (hsame s hs' hsstart) hcolon
    exact ⟨_, hs, rfl, rfl, rfl⟩

theorem colonsFollow (h : Tags src tokens) (hcolons : ColonsFollowStrings src.text tokens) :
    ColonsFollow src.chars where
  colon := by
    intro pos hpos
    obtain ⟨t, ht, hscope, ⟨name, htext⟩, hblank⟩ :=
      hcolons.colon _ _ (Source.isSlice_singleton hpos)
    obtain ⟨s, hs, rfl⟩ := h.exists_string ht hscope
    obtain ⟨hlt, hquote⟩ := quote_of_slice_eq hs.stop_le htext
    have hle : pos ≤ src.size := Nat.le_of_lt (Array.getElem?_eq_some_iff.mp hpos).1
    exact ⟨s, hs, hlt, hquote, (blankBetween_iff hs.stop_le hle).mp hblank⟩
  backslash := by
    intro s hs pos hpos hchar
    have hslice := Source.isSlice_singleton hchar
    rw [hpos] at hslice
    exact hcolons.backslash _ (h.string_mem hs) rfl _ hslice

theorem hasRangeOfString (h : Tags src tokens) (hcolons : ColonsFollowStrings src.text tokens)
    (ht : t ∈ tokens) (hscope : t.scope = nameScope) : HasRangeOfString tokens t := by
  obtain ⟨r, hr, rfl⟩ := (h.name_iff t).mp ⟨ht, hscope⟩
  exact ⟨_, h.string_mem ((h.colonsFollow hcolons).hasString hr), rfl, rfl, rfl⟩

end Tags

/-- **The property names of JSON.** Each of them begins in a string, and white space and a colon
come after it. It has the range of a string exactly if a string begins there and a colon comes after
the string. Where colons follow strings, each has the range of a string. -/
theorem json_property_names {engine : Engine} (hengine : ReadsJson engine) (text : String)
    (options : TokenizeOptions) :
    ∃ tokens, tokenize engine json text options = .ok tokens ∧
      (∀ t ∈ tokens, t.scope = "support.type.property-name.json" →
        NamesProperty text tokens t) ∧
      (ColonsFollowStrings text tokens → ∀ t ∈ tokens,
        t.scope = "support.type.property-name.json" → HasRangeOfString tokens t) := by
  obtain ⟨tokens, htokens, htags⟩ := exists_tags hengine text options
  have htext := Source.text_ofString text
  refine ⟨tokens, htokens, fun t ht hscope ↦ ?_, fun hcolons t ht hscope ↦ ?_⟩
  · have hnames := htags.namesProperty ht hscope
    rwa [htext] at hnames
  · rw [← htext] at hcolons
    exact htags.hasRangeOfString hcolons ht hscope

/-! ## Fixed texts -/

/-- The engine that has the matches of some expressions of JSON on record. -/
def jsonEngine (records : List (String × List Match)) : Engine := fun source ↦
  if source = jsonString then some stringExpr.searcher
  else if source = jsonName then some nameExpr.searcher
  else Engine.recorded records source

theorem readsJson_jsonEngine (records : List (String × List Match)) :
    ReadsJson (jsonEngine records) where
  compiles := by
    intro rule _ source _
    unfold jsonEngine
    split
    · rfl
    · split <;> rfl
  string := by
    intro finds hfinds
    rw [jsonEngine, if_pos rfl] at hfinds
    exact (Option.some.inj hfinds).symm
  name := by
    intro finds hfinds
    rw [jsonEngine, if_neg (by decide), if_pos rfl] at hfinds
    exact (Option.some.inj hfinds).symm

/-- What the other expressions match in `{"k" : 1}`. -/
def memberEngine : Engine := jsonEngine [
  ("[\x7b\x7d\\[\\],:]", [.ofLength 0 1, .ofLength 5 1, .ofLength 8 1]),
  ("-?(?:0|[1-9]\\d*)(?:\\.\\d+)?(?:[eE][+-]?\\d+)?", [.ofLength 7 1])]

/-- The tokens of this text. -/
def memberTokens : List Token :=
  [⟨0, 1, "punctuation.separator.json", "\x7b"⟩, ⟨5, 6, "punctuation.separator.json", ":"⟩,
    ⟨8, 9, "punctuation.separator.json", "\x7d"⟩, ⟨7, 8, "constant.numeric.json", "1"⟩,
    ⟨1, 4, "string.quoted.double.json", "\"k\""⟩,
    ⟨1, 4, "support.type.property-name.json", "\"k\""⟩]

/-- This text. -/
def memberText : String := "\x7b\"k\" : 1\x7d"

theorem colonsFollowStrings_memberText : ColonsFollowStrings memberText memberTokens where
  colon := by
    intro start stop hcolon
    rw [← Source.text_ofString memberText] at hcolon ⊢
    obtain ⟨pos, hchar, rfl, rfl⟩ := Source.exists_of_isSlice_singleton (c := ':') hcolon
    have honly : ∀ pos < 9, (Source.ofString memberText).chars[pos]? = some ':' → pos = 5 := by
      decide
    obtain rfl := honly pos (Array.getElem?_eq_some_iff.mp hchar).1 hchar
    have hblanks : Blanks (Source.ofString memberText).chars 4 5 :=
      .single ⟨⟨' ', rfl, contains_blankCharacters_iff.mp (by decide +kernel)⟩, rfl⟩
    exact ⟨⟨1, 4, "string.quoted.double.json", "\"k\""⟩, by decide, rfl, ⟨"k", rfl⟩,
      (blankBetween_iff (by decide) (by decide)).mpr hblanks⟩
  backslash := by
    intro s _ _ start hslice
    rw [← Source.text_ofString memberText] at hslice
    obtain ⟨pos, hchar, -⟩ := Source.exists_of_isSlice_singleton (c := '\\') hslice
    have hnone : ∀ pos < 9, (Source.ofString memberText).chars[pos]? ≠ some '\\' := by decide
    exact hnone pos (Array.getElem?_eq_some_iff.mp hchar).1 hchar

theorem json_property_names_memberText :
    ReadsJson memberEngine ∧ tokenize memberEngine json memberText {} = .ok memberTokens ∧
    ColonsFollowStrings memberText memberTokens ∧
    ∃ t ∈ memberTokens, t.scope = "support.type.property-name.json" ∧
      NamesProperty memberText memberTokens t ∧ HasRangeOfString memberTokens t := by
  have hengine : ReadsJson memberEngine := readsJson_jsonEngine _
  have hrun : tokenize memberEngine json memberText {} = .ok memberTokens :=
    tokenize_eq_ok_of_tokenizeUpTo (n := 5) (by decide +kernel)
  obtain ⟨tokens, htokens, hnames, hrange⟩ := json_property_names hengine memberText {}
  obtain rfl : memberTokens = tokens := Except.ok.inj (hrun.symm.trans htokens)
  let t : Token := ⟨1, 4, "support.type.property-name.json", "\"k\""⟩
  have ht : t ∈ memberTokens := by simp [memberTokens, t]
  exact ⟨hengine, hrun, colonsFollowStrings_memberText, t, ht, rfl, hnames t ht rfl,
    hrange colonsFollowStrings_memberText t ht rfl⟩

/-- What the other expressions match in `"a:b"`. -/
def colonEngine : Engine := jsonEngine [("[\x7b\x7d\\[\\],:]", [.ofLength 2 1])]

/-- The tokens of this text. -/
def colonTokens : List Token :=
  [⟨2, 3, "punctuation.separator.json", ":"⟩, ⟨0, 5, "string.quoted.double.json", "\"a:b\""⟩,
    ⟨0, 2, "support.type.property-name.json", "\"a"⟩]

/-- A part of a string before a colon is tagged as a property name. -/
theorem json_property_name_in_string :
    ReadsJson colonEngine ∧ tokenize colonEngine json "\"a:b\"" {} = .ok colonTokens ∧
    ∃ t ∈ colonTokens, t.scope = "support.type.property-name.json" ∧
      ¬∃ s ∈ colonTokens, s.scope = "string.quoted.double.json" ∧ s.start = t.start ∧
        s.stop = t.stop :=
  ⟨readsJson_jsonEngine _, tokenize_eq_ok_of_tokenizeUpTo (n := 5) (by decide +kernel), by decide⟩

end Highlighter.Builtin
