import Highlighter.Highlight
import Highlighter.Path
import Highlighter.Toml.Reader

/-!
# Settings

Settings are read from a TOML document. Every setting has a default, and keys that name no setting
are ignored. The depth of references is kept within bounds, and paths may begin with the home
directory.
-/

namespace Highlighter

/-- The settings of a user. -/
structure Config where
  /-- The name of the theme that is used where none is asked for. -/
  theme : String := "dark"
  maxIncludeDepth : Nat := 64
  selectorPolicy : SelectorPolicy := .bestMatch
  nestedScope : NestedScope := .confined
  /-- The files of further grammars. -/
  grammarPaths : List String := []
  /-- The files of further themes. -/
  themePaths : List String := []
deriving DecidableEq, Repr

/-! ## Values -/

namespace TomlValue

/-- A text. -/
def text? : TomlValue → Option String
  | string s => some s
  | _ => none

/-- An integer from zero on. -/
def natural? : TomlValue → Option Nat
  | integer n => if 0 ≤ n then some n.toNat else none
  | _ => none

/-- A list of texts. -/
def texts? : TomlValue → Option (List String)
  | array items => items.mapM text?
  | _ => none

/-- Whether a value holds nothing. -/
def isVoid : TomlValue → Bool
  | array items => items.isEmpty
  | table _ entries => entries.isEmpty
  | tables items => items.isEmpty
  | _ => false

/-- One of several choices: its name, or a table where the name has a value that holds nothing. -/
def choice? {α : Type} (choices : List (String × α)) : TomlValue → Option α
  | string s => choices.lookup s
  | table _ [(name, v)] => if v.isVoid then choices.lookup name else none
  | _ => none

end TomlValue

/-! ## Reading -/

namespace Config

/-- The file of the settings in a home directory. -/
def fileName : String := ".scopepaint.toml"

/-- The least and the most that the depth of references can be set to. -/
def depthBounds : Nat × Nat := (1, 1024)

/-- A setting of a document, or its default where the document does not have it. -/
def setting? {α : Type} (es : TomlEntries) (key : String) (read : TomlValue → Option α)
    (default : α) : Option α :=
  match es.lookup key with
  | some v => read v
  | none => some default

/-- The settings of a document, for a user with a home directory if that is known. -/
def ofEntries? (home : Option String) (es : TomlEntries) : Option Config := do
  let theme ← setting? es "theme" TomlValue.text? "dark"
  let depth ← setting? es "max-include-depth" TomlValue.natural? 64
  let policy ← setting? es "selector-policy"
    (TomlValue.choice? [("best-match", .bestMatch), ("first-match", .firstMatch)]) .bestMatch
  let nested ← setting? es "nested-match-scope"
    (TomlValue.choice? [("confined", .confined), ("whole-buffer", .wholeBuffer)]) .confined
  let grammarPaths ← setting? es "grammar-paths" TomlValue.texts? []
  let themePaths ← setting? es "theme-paths" TomlValue.texts? []
  return {
    theme
    maxIncludeDepth := min (max depth depthBounds.1) depthBounds.2
    selectorPolicy := policy
    nestedScope := nested
    grammarPaths := grammarPaths.map (Path.expandHome · home)
    themePaths := themePaths.map (Path.expandHome · home) }

/-- Reads settings. -/
def ofToml? (home : Option String) (text : String) : Option Config :=
  (Toml.ofString? text).bind (ofEntries? home)

/-- How texts are highlighted under the settings. -/
def highlightOptions (c : Config) : HighlightOptions where
  tokenize := { maxIncludeDepth := c.maxIncludeDepth, nestedScope := c.nestedScope }
  selectorPolicy := c.selectorPolicy

end Config

end Highlighter
