import Highlighter.Builtin.Registry
import Highlighter.Config
import Highlighter.Session
import Highlighter.Text.Quoted

/-!
# The command line

What the program prints for its arguments. Files are reached through `FileAccess`, so that a run
is a function of what the files hold. It prints as it goes: the steps that come before the first
piece are those that read, choose and highlight.
-/

namespace Highlighter

/-! ## Arguments -/

/-- What is printed for a file. -/
inductive OutputMode where
  | render
  | tokens
  | spans
  | plain
deriving DecidableEq, Repr

/-- The arguments of a call. -/
structure Arguments where
  /-- The name or the file of a grammar. -/
  grammar : Option String := none
  /-- The name or the file of a theme. -/
  theme : Option String := none
  mode : OutputMode := .render
  /-- The file to print. -/
  file : Option String := none
deriving DecidableEq, Repr

namespace Arguments

/-- What a word is in a place where no value is due. -/
inductive Word where
  /-- The next word names the grammar. -/
  | grammarOption
  /-- The next word names the theme. -/
  | themeOption
  | modeFlag (mode : OutputMode)
  | unknownOption
  | file
deriving DecidableEq, Repr

/-- What a word is. -/
def Word.ofString (w : String) : Word :=
  if w = "-g" ∨ w = "--grammar" then .grammarOption
  else if w = "-t" ∨ w = "--theme" then .themeOption
  else if w = "--tokens" then .modeFlag .tokens
  else if w = "--spans" then .modeFlag .spans
  else if w = "--plain" then .modeFlag .plain
  else if w.toList.head? = some '-' then .unknownOption
  else .file

/-- Reads words after some arguments; later ones replace earlier ones. -/
def readAfter (a : Arguments) : List String → Except Error Arguments
  | [] => .ok a
  | w :: ws =>
    match Word.ofString w, ws with
    | .grammarOption, v :: ws => readAfter { a with grammar := some v } ws
    | .themeOption, v :: ws => readAfter { a with theme := some v } ws
    | .grammarOption, [] | .themeOption, [] => .error (.missingValue w)
    | .modeFlag mode, ws => readAfter { a with mode } ws
    | .unknownOption, _ => .error (.unknownOption w)
    | .file, ws => readAfter { a with file := some w } ws

/-- Reads the words of a call. -/
def ofWords (ws : List String) : Except Error Arguments := readAfter {} ws

end Arguments

/-! ## Texts -/

/-- The name and version of the program. -/
def versionText : String := "scopepaint 0.1.0"

/-- How the program is called, line by line. -/
def usageLines : List String := [
  versionText ++ " - TextMate grammar highlighter",
  "",
  "Usage: scopepaint [OPTIONS] FILE",
  "",
  "Options:",
  "  -g, --grammar KEY  Grammar scope name, name, or JSON file",
  "  -t, --theme KEY    Theme name or JSON file",
  "      --tokens       Print scoped tokens",
  "      --spans        Print resolved styled spans",
  "      --plain        Print the file without styling",
  "      --list         List available grammars and themes",
  "  -h, --help         Show this help message",
  "  -V, --version      Show version information",
  "",
  "Settings are read from ~/.scopepaint.toml; set SCOPEPAINT_LOG to adjust logging."]

/-- The pieces that show how the program is called. -/
def usagePieces : List Piece := usageLines.map fun line ↦ .plain (line ++ "\n")

/-- A line for a token. -/
def Token.line (t : Token) : String :=
  toString t.start ++ ".." ++ toString t.stop ++ " " ++ t.scope ++ " " ++ Quoted.encode t.text
    ++ "\n"

/-- A line for a span. -/
def Span.line (s : Span) : String :=
  toString s.start ++ ".." ++ toString s.stop ++ " "
    ++ " ".intercalate (s.style.toList.map fun (k, v) ↦ k ++ "=" ++ v) ++ "\n"

/-- A text filled up with blanks. -/
def padRight (width : Nat) (text : String) : String :=
  text ++ String.ofList (List.replicate (width - text.length) ' ')

/-- A line for a grammar of a registry. -/
def Grammar.line (key : String) (g : Grammar) : String :=
  "  " ++ padRight 16 key ++ " " ++ g.name ++ " (" ++ ", ".intercalate g.fileTypes ++ ")\n"

/-! ## Runs -/

/-- How a run reaches files. -/
structure FileAccess (m : Type → Type) where
  /-- What a file holds. -/
  read : String → m (Except FileError ByteArray)
  /-- Whether a path leads to a file. -/
  isFile : String → m Bool

section Runs

variable {m : Type → Type} [Monad m] (engine : Engine) (files : FileAccess m)

/-- The settings of a user with a home directory, if that is known. A file that is not there sets
nothing. -/
def loadConfig (home : Option String) : ExceptT Error m Config := do
  match home with
  | none => return {}
  | some directory =>
    let path := String.ofList (Path.join directory.toList Config.fileName.toList)
    match ← files.read path with
    | .error .notFound => return {}
    | contents =>
      match Config.ofToml? home (← Registry.decodeFile contents) with
      | some c => return c
      | none => throw .config

/-- Adds the grammar of a file. -/
def loadGrammarFile (r : Registry) (path : String) : ExceptT Error m (Registry × String) := do
  r.loadGrammar (← files.read path)

/-- Adds the theme of a file. -/
def loadThemeFile (r : Registry) (path : String) : ExceptT Error m (Registry × String) := do
  r.loadTheme path (← files.read path)

/-- The built-in registry with the files that the settings name. -/
def loadRegistry (c : Config) : ExceptT Error m Registry := do
  let withGrammars ← c.grammarPaths.foldlM (fun r path ↦ Prod.fst <$> loadGrammarFile files r path)
    Builtin.registry
  c.themePaths.foldlM (fun r path ↦ Prod.fst <$> loadThemeFile files r path) withGrammars

/-- The scope name of the grammar that is asked for, by its file or its name. -/
def chooseGrammar (r : Registry) (key : String) : ExceptT Error m (Registry × String) := do
  if ← files.isFile key then loadGrammarFile files r key
  else return (r, (← r.grammar key).scopeName)

/-- The name of the theme that is asked for, by its file or its name. -/
def chooseTheme (r : Registry) (key : String) : ExceptT Error m (Registry × String) := do
  if ← files.isFile key then loadThemeFile files r key
  else
    let _ ← r.theme key
    return (r, key)

/-- The text of a file. -/
def readText (path : String) : ExceptT Error m String := do
  Registry.decodeFile (← files.read path)

/-- The grammar for a file: the one that is asked for, or else the one for its extension, if there
is one. -/
def grammarFor (r : Registry) (a : Arguments) (file : String) :
    ExceptT Error m (Option (Registry × String)) :=
  match a.grammar with
  | some key => some <$> chooseGrammar files r key
  | none => return (r.detect file).map fun g ↦ (r, g.scopeName)

/-- The theme that is asked for, or else that of the settings. -/
def themeFor (r : Registry) (c : Config) (a : Arguments) : ExceptT Error m (Registry × String) :=
  match a.theme with
  | some key => chooseTheme files r key
  | none => return (r, c.theme)

/-- Prints what a registry holds. -/
def printListing (r : Registry) : Session m Unit := do
  Session.print (.plain "Grammars:\n")
  r.listGrammars.forM fun key ↦ do
    let g ← r.grammar key
    Session.print (.plain (g.line key))
  Session.print (.plain "Themes:\n")
  Session.printAll (r.listThemes.map fun key ↦ .plain ("  " ++ key ++ "\n"))

/-- The tokens of a text with a grammar of a registry. -/
def tokensOf (r : Registry) (options : HighlightOptions) (grammarKey text : String) :
    Except Error (List Token) := do
  let g ← r.grammar grammarKey
  (tokenize engine g text options.tokenize).mapError .grammar

/-- Prints a text with a grammar and a theme. A text that is to be rendered is printed plain if the
grammar is faulty. -/
def present (r : Registry) (options : HighlightOptions) (mode : OutputMode)
    (grammarKey themeKey text : String) : Session m Unit :=
  match mode with
  | .plain => Session.print (.plain text)
  | .tokens => do
    let tokens ← tokensOf engine r options grammarKey text
    Session.printAll (tokens.map fun t ↦ .plain t.line)
  | .spans => do
    let spans ← r.highlight engine grammarKey themeKey text options
    Session.printAll (spans.map fun s ↦ .plain s.line)
  | .render =>
    match r.highlight engine grammarKey themeKey text options with
    | .ok spans => Session.printAll (pieces text spans)
    | .error (.grammar _) => Session.print (.plain text)
    | .error e => throw e

/-- Prints a file as the arguments say. A file without a grammar is printed plain. -/
def printFile (r : Registry) (c : Config) (a : Arguments) (file : String) : Session m Unit := do
  let text ← Session.quietly (readText files file)
  match ← Session.quietly (grammarFor files r a file) with
  | none => Session.print (.plain text)
  | some (r, grammarKey) =>
    let (r, themeKey) ← Session.quietly (themeFor files r c a)
    present engine r c.highlightOptions a.mode grammarKey themeKey text

/-- Whether the first word asks for help. -/
def asksForHelp (words : List String) : Bool :=
  words.head? = some "--help" ∨ words.head? = some "-h"

/-- Whether the first word asks for the version. -/
def asksForVersion (words : List String) : Bool :=
  words.head? = some "--version" ∨ words.head? = some "-V"

/-- Does what a call asks for. Help and version are asked for by the first word, and the list by
any. A call that names no file shows how the program is called. -/
def call (home : Option String) (words : List String) : Session m Unit := do
  if asksForHelp words then Session.printAll usagePieces
  else if asksForVersion words then Session.print (.plain (versionText ++ "\n"))
  else
    let c ← Session.quietly (loadConfig files home)
    let r ← Session.quietly (loadRegistry files c)
    if words.contains "--list" then printListing r
    else
      let a ← Arguments.ofWords words
      match a.file with
      | none => do
        Session.printAll usagePieces
        throw .noInputFile
      | some file => printFile engine files r c a file

/-- Runs a call. -/
def run (home : Option String) (words : List String) : m Outcome :=
  (call engine files home words).outcome

end Runs

end Highlighter
