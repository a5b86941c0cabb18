import Highlighter.FileTree
import Highlighter.Proofs.Registry.Soundness
import Highlighter.Proofs.Render.Cursor
import Highlighter.Proofs.Session

/-!
# What a run prints

A run prints as it goes, but it prints nothing before everything that can fail has succeeded. So
a run that fails has printed nothing, or it has shown how the program is called because no file is
named. This is shown step by step. Steps that only load print nothing (`Session.quietly`), and what
prints does not fail; a listing looks up only what is there.

A call that prints a file and finds all that it loads prints what its mode shows
(`OutputMode.shows`): lines for all tokens or spans in order, or the pieces of the text. The keys
that it has chosen are found again when the text is highlighted, since the registry is sound. What
is left to go wrong is a faulty grammar, and then nothing is printed, except that a text that is to
be rendered is printed plain. So a call that renders a file does not fail at all.

Files do not change during a run here: they are reached through `FileAccess Id`.
-/

namespace Highlighter

/-! ## What fails prints nothing -/

section Fails

open Session

variable {r : Registry} {c : Config} {a : Arguments} {engine : Engine} {files : FileAccess Id}
  {options : HighlightOptions} {home : Option String} {words : List String}
  {grammarKey themeKey file text : String}

/-- A listing looks up the keys that are there. -/
theorem succeeds_printListing (r : Registry) : (printListing r : Session Id Unit).Succeeds := by
  -- Only the lookup of a grammar could fail, after the heading has been printed.
  refine (succeeds_print _).bind fun _ ↦ ?_
  refine (Succeeds.forM fun key hkey ↦ ?_).bind fun _ ↦
    (succeeds_print _).bind fun _ ↦ succeeds_printAll _
  obtain ⟨g, hg⟩ := Registry.mem_listGrammars_iff.mp hkey
  rw [Registry.grammar_eq_ok_of_get? hg]
  exact succeeds_print _

theorem failsQuietly_present (mode : OutputMode) :
    (present engine r options mode grammarKey themeKey text : Session Id Unit).FailsQuietly := by
  cases mode with
  | plain => exact (succeeds_print _).failsQuietly
  | tokens => exact FailsQuietly.liftM_bind fun tokens ↦ (succeeds_printAll _).failsQuietly
  | spans => exact FailsQuietly.liftM_bind fun spans ↦ (succeeds_printAll _).failsQuietly
  | render =>
    rw [present]
    split
    · exact (succeeds_printAll _).failsQuietly
    · exact (succeeds_print _).failsQuietly
    · exact failsQuietly_throw _

theorem failsQuietly_printFile : (printFile engine files r c a file).FailsQuietly := by
  refine FailsQuietly.quietly_bind fun text ↦ FailsQuietly.quietly_bind fun chosen ↦ ?_
  cases chosen with
  | none => exact (succeeds_print _).failsQuietly
  | some chosen => exact FailsQuietly.quietly_bind fun _ ↦ failsQuietly_present _

/-- Whether a call names no file. -/
def NamesNoFile (words : List String) : Prop :=
  ∃ a, Arguments.ofWords words = .ok a ∧ a.file = none

/-- A call that fails prints nothing, or it names no file and prints how the program is called. -/
theorem output_of_call_eq_error {output output' : Array Piece} {e : Error}
    (h : (call engine files home words).result output = (.error e, output')) :
    output' = output ∨
      e = .noInputFile ∧ NamesNoFile words ∧ output' = output ++ usagePieces := by
  rw [call] at h
  -- The cases follow the call: what is answered at once, what is loaded, what is printed.
  split at h
  · exact .inl ((succeeds_printAll _).failsQuietly _ _ _ h)
  · split at h
    · exact .inl ((succeeds_print _).failsQuietly _ _ _ h)
    · rcases eq_or_of_quietly_bind h with heq | ⟨c, -, h⟩
      · exact .inl heq
      rcases eq_or_of_quietly_bind h with heq | ⟨r, -, h⟩
      · exact .inl heq
      split at h
      · exact .inl ((succeeds_printListing r).failsQuietly _ _ _ h)
      rw [liftM_eq_quietly] at h
      rcases eq_or_of_quietly_bind h with heq | ⟨a, ha, h⟩
      · exact .inl heq
      split at h
      · next hfile =>
        -- The one place where something is printed before a failure.
        rw [result_bind, result_printAll] at h
        obtain ⟨he, houtput⟩ := Prod.mk.inj h
        exact .inr ⟨(Except.error.inj he).symm, ⟨a, ha, hfile⟩, houtput.symm⟩
      · exact .inl (failsQuietly_printFile _ _ _ h)

end Fails

/-! ## What is loaded is found again -/

section Loads

variable {α β : Type} {r r' : Registry} {c : Config} {a : Arguments} {files : FileAccess Id}
  {g : Grammar} {t : Theme} {key key' path file text : String}

theorem exists_of_run_bind_eq_ok {x : ExceptT Error Id α} {f : α → ExceptT Error Id β} {b : β}
    (h : (x >>= f).run = .ok b) : ∃ a, x.run = .ok a ∧ (f a).run = .ok b := by
  rw [ExceptT.run_bind] at h
  cases hx : x.run with
  | ok a =>
    rw [hx] at h
    exact ⟨a, rfl, h⟩
  | error e =>
    rw [hx] at h
    cases h

theorem exists_of_run_map_eq_ok {x : ExceptT Error Id α} {f : α → β} {b : β}
    (h : (f <$> x).run = .ok b) : ∃ a, x.run = .ok a ∧ f a = b := by
  rw [ExceptT.run_map] at h
  cases hx : x.run with
  | ok a =>
    rw [hx] at h
    exact ⟨a, rfl, Except.ok.inj h⟩
  | error e =>
    rw [hx] at h
    cases h

theorem run_readText (files : FileAccess Id) (path : String) :
    (readText files path).run = Registry.decodeFile (files.read path) := rfl

theorem addGrammar_of_loadGrammarFile (h : (loadGrammarFile files r path).run = .ok (r', key)) :
    ∃ g, r' = r.addGrammar g ∧ key = g.scopeName := by
  have hload : r.loadGrammar (files.read path) = .ok (r', key) := h
  rcases r.loadGrammar_cases (files.read path) with ⟨g, hg⟩ | ⟨e, he⟩
  · rw [hg] at hload
    obtain ⟨rfl, rfl⟩ := Prod.mk.inj (Except.ok.inj hload)
    exact ⟨g, rfl, rfl⟩
  · rw [he] at hload
    cases hload

theorem insertTheme_of_loadThemeFile (h : (loadThemeFile files r path).run = .ok (r', key)) :
    ∃ t, r' = r.insertTheme key t := by
  have hload : r.loadTheme path (files.read path) = .ok (r', key) := h
  rcases r.loadTheme_cases path (files.read path) with ⟨key', t, ht⟩ | ⟨e, he⟩
  · rw [ht] at hload
    obtain ⟨rfl, rfl⟩ := Prod.mk.inj (Except.ok.inj hload)
    exact ⟨t, rfl⟩
  · rw [he] at hload
    cases hload

/-- What each step keeps, a run over a list keeps. -/
theorem keeps_of_foldlM {P : Registry → Prop} {f : Registry → String → ExceptT Error Id Registry}
    (hf : ∀ r path r', P r → (f r path).run = .ok r' → P r') {paths : List String} (h : P r)
    (hrun : (paths.foldlM f r).run = .ok r') : P r' := by
  induction paths generalizing r with
  | nil =>
    obtain rfl : r = r' := Except.ok.inj hrun
    exact h
  | cons path paths ih =>
    rw [List.foldlM_cons] at hrun
    obtain ⟨r₁, hfirst, hrest⟩ := exists_of_run_bind_eq_ok hrun
    exact ih (hf r path r₁ h hfirst) hrest

theorem isSound_of_loadRegistry (h : (loadRegistry files c).run = .ok r) : r.IsSound := by
  obtain ⟨r₁, hgrammars, hthemes⟩ := exists_of_run_bind_eq_ok h
  have hsound : r₁.IsSound := by
    refine keeps_of_foldlM (fun r path r' hr hload ↦ ?_) Registry.isSound_builtin hgrammars
    obtain ⟨⟨r'', key⟩, hfile, rfl⟩ := exists_of_run_map_eq_ok hload
    obtain ⟨g, rfl, -⟩ := addGrammar_of_loadGrammarFile hfile
    exact hr.addGrammar g
  refine keeps_of_foldlM (fun r path r' hr hload ↦ ?_) hsound hthemes
  obtain ⟨⟨r'', key⟩, hfile, rfl⟩ := exists_of_run_map_eq_ok hload
  obtain ⟨t, rfl⟩ := insertTheme_of_loadThemeFile hfile
  exact hr.insertTheme key t

/-- **A grammar that is chosen is found again** by the key that is kept of it. -/
theorem grammar_of_chooseGrammar (hr : r.IsSound)
    (h : (chooseGrammar files r key).run = .ok (r', key')) : ∃ g, r'.grammar key' = .ok g := by
  obtain ⟨isFile, -, h⟩ := exists_of_run_bind_eq_ok h
  split at h
  · obtain ⟨g, rfl, rfl⟩ := addGrammar_of_loadGrammarFile h
    refine ⟨g, Registry.grammar_eq_ok_of_get? ?_⟩
    rw [Registry.get?_grammars_addGrammar, if_pos rfl]
  · obtain ⟨g, hg, h⟩ := exists_of_run_bind_eq_ok h
    obtain ⟨rfl, rfl⟩ := Prod.mk.inj (Except.ok.inj h)
    exact ⟨g, hr.grammar_scopeName_of_mayFind (Registry.mayFind_of_grammar_eq_ok hg)⟩

theorem grammar_of_grammarFor (hr : r.IsSound)
    (h : (grammarFor files r a file).run = .ok (some (r', key))) :
    ∃ g, r'.grammar key = .ok g := by
  rw [grammarFor] at h
  split at h
  · obtain ⟨chosen, hchosen, heq⟩ := exists_of_run_map_eq_ok h
    obtain rfl := Option.some.inj heq
    exact grammar_of_chooseGrammar hr hchosen
  · obtain ⟨g, hg, heq⟩ := Option.map_eq_some_iff.mp (Except.ok.inj h)
    obtain ⟨rfl, rfl⟩ := Prod.mk.inj heq
    obtain ⟨key, hget⟩ := Registry.exists_get?_of_detect_eq_some hg
    exact ⟨g, hr.grammar_scopeName hget⟩

/-- A theme that is chosen is found again, and the grammars stay what they are. -/
theorem theme_of_chooseTheme (h : (chooseTheme files r key).run = .ok (r', key')) :
    r'.grammars = r.grammars ∧ ∃ t, r'.theme key' = .ok t := by
  obtain ⟨isFile, -, h⟩ := exists_of_run_bind_eq_ok h
  split at h
  · obtain ⟨t, rfl⟩ := insertTheme_of_loadThemeFile h
    refine ⟨rfl, t, ?_⟩
    have hget : (r.insertTheme key' t).themes.get? key' = some t := by
      rw [Registry.insertTheme, SortedMap.get?_insert, if_pos rfl]
    rw [Registry.theme, hget]
  · obtain ⟨t, ht, h⟩ := exists_of_run_bind_eq_ok h
    obtain ⟨rfl, rfl⟩ := Prod.mk.inj (Except.ok.inj h)
    exact ⟨rfl, t, ht⟩

theorem theme_of_themeFor (h : (themeFor files r c a).run = .ok (r', key))
    (hdefault : a.theme = none → ∃ t, r.theme c.theme = .ok t) :
    r'.grammars = r.grammars ∧ ∃ t, r'.theme key = .ok t := by
  rw [themeFor] at h
  split at h
  · exact theme_of_chooseTheme h
  · next hnone =>
    obtain ⟨rfl, rfl⟩ := Prod.mk.inj (Except.ok.inj h)
    exact ⟨rfl, hdefault hnone⟩

end Loads

/-! ## What is shown of a text -/

/-- What a mode shows of a text with a grammar and a theme: a line for each token or span, or the
pieces of the text. A text that is to be rendered is shown plain if the grammar is faulty. -/
def OutputMode.shows (engine : Engine) (g : Grammar) (t : Theme) (text : String)
    (options : HighlightOptions) : OutputMode → Except GrammarError (List Piece)
  | .plain => .ok [.plain text]
  | .tokens =>
    (tokenize engine g text options.tokenize).map (List.map fun k ↦ .plain k.line)
  | .spans => (highlight engine g t text options).map (List.map fun s ↦ .plain s.line)
  | .render =>
    match highlight engine g t text options with
    | .ok ss => .ok (pieces text ss)
    | .error _ => .ok [.plain text]

/-- What comes of pieces that are to be printed after others, or of the fault that there is in their
place. -/
def printed (output : Array Piece) :
    Except GrammarError (List Piece) → Except Error Unit × Array Piece
  | .ok ps => (.ok (), output ++ ps)
  | .error e => (.error (.grammar e), output)

section Shows

variable {engine : Engine} {r : Registry} {options : HighlightOptions} {g : Grammar} {t : Theme}
  {grammarKey themeKey text : String}

theorem highlight_of_grammar_of_theme (hg : r.grammar grammarKey = .ok g)
    (ht : r.theme themeKey = .ok t) (engine : Engine) (text : String) (options : HighlightOptions) :
    r.highlight engine grammarKey themeKey text options =
      (highlight engine g t text options).mapError .grammar := by
  rw [Registry.highlight, hg, ht]
  rfl

/-- Tokens are printed without a theme. -/
theorem result_present_tokens (hg : r.grammar grammarKey = .ok g) (output : Array Piece) :
    (present engine r options .tokens grammarKey themeKey text : Session Id Unit).result output =
      printed output (OutputMode.tokens.shows engine g t text options) := by
  have htokens : tokensOf engine r options grammarKey text =
      (tokenize engine g text options.tokenize).mapError .grammar := by
    rw [tokensOf, hg]
    rfl
  rw [present, htokens, OutputMode.shows]
  cases tokenize engine g text options.tokenize with
  | ok tokens => exact (Session.result_ok_bind _ _).trans (Session.result_printAll _ _)
  | error e => exact Session.result_error_bind _ _

/-- **What is printed of a text** with a grammar and a theme that are there: all that the mode
shows, in order, or nothing and the fault of the grammar. -/
theorem result_present (hg : r.grammar grammarKey = .ok g) (ht : r.theme themeKey = .ok t)
    (mode : OutputMode) (output : Array Piece) :
    (present engine r options mode grammarKey themeKey text : Session Id Unit).result output =
      printed output (mode.shows engine g t text options) := by
  have hhighlight := highlight_of_grammar_of_theme hg ht engine text options
  cases mode with
  | plain => rfl
  | tokens => exact result_present_tokens hg output
  | spans =>
    rw [present, hhighlight, OutputMode.shows]
    cases highlight engine g t text options with
    | ok spans => exact (Session.result_ok_bind _ _).trans (Session.result_printAll _ _)
    | error e => exact Session.result_error_bind _ _
  | render =>
    rw [present, hhighlight, OutputMode.shows]
    cases highlight engine g t text options with
    | ok spans => exact Session.result_printAll _ _
    | error e => rfl

/-- What is shown of a text that is to be rendered makes up the text, whether or not the grammar is
faulty. -/
theorem exists_shows_render (engine : Engine) (g : Grammar) (t : Theme) (text : String)
    (options : HighlightOptions) :
    ∃ ps, OutputMode.render.shows engine g t text options = .ok ps ∧
      String.join (ps.map Piece.text) = text := by
  rw [OutputMode.shows]
  cases h : highlight engine g t text options with
  | ok spans => exact ⟨_, rfl, join_pieces_of_highlight_eq_ok h⟩
  | error e => exact ⟨_, rfl, join_text_singleton _⟩

end Shows

/-! ## Calls that print a file -/

/-- A call that prints a file, with all that it loads. -/
structure FileCall (files : FileAccess Id) (home : Option String) (words : List String) where
  config : Config
  registry : Registry
  arguments : Arguments
  file : String
  text : String
  /-- The grammar for the file, if there is one, and the registry that has it. -/
  chosen : Option (Registry × String)
  /-- The call does not ask for anything else. -/
  asksForFile : asksForHelp words = false ∧ asksForVersion words = false ∧
    words.contains "--list" = false
  ofWords_eq : Arguments.ofWords words = .ok arguments
  file_eq : arguments.file = some file
  loadConfig_eq : (loadConfig files home).run = .ok config
  loadRegistry_eq : (loadRegistry files config).run = .ok registry
  /-- The file is that of the text. -/
  read_eq : files.read file = .ok text.toUTF8
  grammarFor_eq : (grammarFor files registry arguments file).run = .ok chosen
  /-- Where there is a grammar, there is also the theme that is asked for, or that of the
  settings. -/
  themeFor_eq : ∀ r key, chosen = some (r, key) →
    (∃ loaded, (themeFor files r config arguments).run = .ok loaded) ∧
      (arguments.theme = none → ∃ t, r.theme config.theme = .ok t)

/-- A call that renders a file, with all that it loads. -/
structure RenderCall (files : FileAccess Id) (home : Option String) (words : List String) extends
    FileCall files home words where
  mode_eq : arguments.mode = .render

theorem decodeFile_toUTF8 (text : String) : Registry.decodeFile (.ok text.toUTF8) = .ok text := by
  have htext : String.fromUTF8? text.toUTF8 = some text := dif_pos text.isValidUTF8
  rw [Registry.decodeFile, htext]

namespace FileCall

variable {files : FileAccess Id} {home : Option String} {words : List String}

/-- What a call shows of its file: the text if there is no grammar for it, and otherwise what the
mode shows with the grammar and the theme that are chosen. -/
inductive Shows (k : FileCall files home words) (engine : Engine) :
    Except GrammarError (List Piece) → Prop
  | text (hchosen : k.chosen = none) : Shows k engine (.ok [.plain k.text])
  | chosen {r r' : Registry} {grammarKey themeKey : String} {g : Grammar} {t : Theme}
      (hchosen : k.chosen = some (r, grammarKey))
      (htheme : (themeFor files r k.config k.arguments).run = .ok (r', themeKey))
      (hg : r'.grammar grammarKey = .ok g) (ht : r'.theme themeKey = .ok t) :
      Shows k engine (k.arguments.mode.shows engine g t k.text k.config.highlightOptions)

/-- **What a call prints of a file**: all that it shows, or nothing and the fault of the grammar. -/
theorem result_call (k : FileCall files home words) (engine : Engine) (output : Array Piece) :
    ∃ shown, k.Shows engine shown ∧
      (call engine files home words).result output = printed output shown := by
  obtain ⟨hhelp, hversion, hlist⟩ := k.asksForFile
  have hread : (readText files k.file).run = .ok k.text := by
    rw [run_readText, k.read_eq, decodeFile_toUTF8]
  rw [call, if_neg (by rw [hhelp]; exact Bool.false_ne_true),
    if_neg (by rw [hversion]; exact Bool.false_ne_true),
    Session.result_quietly_bind k.loadConfig_eq, Session.result_quietly_bind k.loadRegistry_eq,
    if_neg (by rw [hlist]; exact Bool.false_ne_true), k.ofWords_eq, Session.result_ok_bind,
    k.file_eq]
  dsimp only
  rw [printFile, Session.result_quietly_bind hread, Session.result_quietly_bind k.grammarFor_eq]
  cases hchosen : k.chosen with
  | none => exact ⟨_, .text hchosen, rfl⟩
  | some chosen =>
    obtain ⟨r, grammarKey⟩ := chosen
    obtain ⟨⟨⟨r', themeKey⟩, htheme⟩, hdefault⟩ := k.themeFor_eq r grammarKey hchosen
    obtain ⟨hgrammars, t, ht⟩ := theme_of_themeFor htheme hdefault
    obtain ⟨g, hg⟩ := grammar_of_grammarFor (isSound_of_loadRegistry k.loadRegistry_eq)
      (hchosen ▸ k.grammarFor_eq)
    -- The theme may come from a file, which changes the registry, but not its grammars.
    have hg' : r'.grammar grammarKey = .ok g := (Registry.grammar_congr hgrammars _).trans hg
    refine ⟨_, .chosen hchosen htheme hg' ht, ?_⟩
    dsimp only
    rw [Session.result_quietly_bind htheme]
    exact result_present hg' ht k.arguments.mode output

end FileCall

/-- What a call shows that renders a file makes up the text of the file. -/
theorem RenderCall.exists_of_shows {files : FileAccess Id} {home : Option String}
    {words : List String} {engine : Engine} {shown : Except GrammarError (List Piece)}
    (k : RenderCall files home words) (h : k.Shows engine shown) :
    ∃ ps, shown = .ok ps ∧ String.join (ps.map Piece.text) = k.text := by
  cases h with
  | text => exact ⟨_, rfl, join_text_singleton _⟩
  | @chosen r r' grammarKey themeKey g t =>
    rw [k.mode_eq]
    exact exists_shows_render engine g t k.text k.config.highlightOptions

/-! ## Runs -/

/-- **What a run prints of a file**, and the fault of the grammar that it ends in if it prints
nothing. -/
theorem FileCall.outcome_run {files : FileAccess Id} {home : Option String} {words : List String}
    (k : FileCall files home words) (engine : Engine) :
    let o : Outcome := run engine files home words
    ∃ shown, k.Shows engine shown ∧
      match shown with
      | .ok ps => o.error = none ∧ o.output = ps
      | .error e => o.error = some (.grammar e) ∧ o.output = [] := by
  intro o
  obtain ⟨shown, hshows, hresult⟩ := k.result_call engine #[]
  refine ⟨shown, hshows, ?_⟩
  cases shown with
  | ok ps =>
    have ho : o = _ := Session.outcome_eq hresult
    rw [ho]
    exact ⟨rfl, Array.toList_appendList⟩
  | error e =>
    have ho : o = _ := Session.outcome_eq hresult
    rw [ho]
    exact ⟨rfl, rfl⟩

/-- **A run prints all or nothing.** If it ends in an error, it has printed nothing, or it names no
file and has printed how the program is called. A run that renders a file, and finds all that it
loads, does not end in an error, and what it prints makes up the text of the file. -/
theorem run_prints_all_or_nothing (engine : Engine) (files : FileAccess Id)
    (home : Option String) (words : List String) :
    let o : Outcome := run engine files home words
    (∀ e, o.error = some e →
      o.output = [] ∨ e = .noInputFile ∧ NamesNoFile words ∧ o.output = usagePieces) ∧
    ∀ k : RenderCall files home words,
      o.error = none ∧ String.join (o.output.map Piece.text) = k.text := by
  intro o
  constructor
  · intro e he
    cases hresult : (call engine files home words).result #[] with
    | mk result output =>
      have ho : o = _ := Session.outcome_eq hresult
      rw [ho] at he ⊢
      cases result with
      | ok => cases he
      | error e' =>
        obtain rfl := Option.some.inj he
        rcases output_of_call_eq_error hresult with rfl | ⟨he', hwords, rfl⟩
        · exact .inl rfl
        · exact .inr ⟨he', hwords, Array.toList_appendList⟩
  · intro k
    obtain ⟨shown, hshows, hshown⟩ := k.outcome_run engine
    obtain ⟨ps, rfl, htext⟩ := k.exists_of_shows hshows
    obtain ⟨herror, houtput⟩ := hshown
    exact ⟨herror, (congrArg (fun ps ↦ String.join (ps.map Piece.text)) houtput).trans htext⟩

/-- A directory with one file. -/
def oneFile : FileTree := FileTree.empty.insert "a.txt" "é".toUTF8

/-- A call that asks for a grammar by its name, in the directory with one file. -/
def oneFileCall : RenderCall oneFile.access (some "/") ["-g", "c#", "a.txt"] where
  config := {}
  registry := Builtin.registry
  arguments := { grammar := some "c#", file := some "a.txt" }
  file := "a.txt"
  text := "é"
  chosen := some (Builtin.registry, "source.cs")
  asksForFile := by decide
  ofWords_eq := rfl
  mode_eq := rfl
  file_eq := rfl
  loadConfig_eq := rfl
  loadRegistry_eq := rfl
  read_eq := rfl
  grammarFor_eq := rfl
  themeFor_eq := by
    intro r key h
    obtain ⟨rfl, -⟩ := Prod.mk.inj (Option.some.inj h)
    exact ⟨⟨_, rfl⟩, fun _ ↦ ⟨_, rfl⟩⟩

theorem run_prints_oneFile :
    let shown : Outcome := run (.recorded []) oneFile.access (some "/") ["-g", "c#", "a.txt"]
    let faulty : Outcome := run (fun _ ↦ none) oneFile.access (some "/") ["-g", "c#", "a.txt"]
    let failed : Outcome := run (.recorded []) oneFile.access (some "/") ["-t"]
    (shown.error = none ∧ String.join (shown.output.map Piece.text) = "é") ∧
    (faulty.error = none ∧ String.join (faulty.output.map Piece.text) = "é") ∧
    failed.error = some (.missingValue "-t") ∧ failed.output = [] := by
  have hrender (engine : Engine) := (run_prints_all_or_nothing engine oneFile.access (some "/")
    ["-g", "c#", "a.txt"]).2 oneFileCall
  refine ⟨hrender _, hrender _, rfl, ?_⟩
  rcases (run_prints_all_or_nothing (.recorded []) oneFile.access (some "/") ["-t"]).1
    (.missingValue "-t") rfl with houtput | ⟨he, -⟩
  · exact houtput
  · cases he

end Highlighter
