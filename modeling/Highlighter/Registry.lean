import Highlighter.Error
import Highlighter.Grammar.Document
import Highlighter.Highlight
import Highlighter.Path
import Highlighter.Theme.Document
import Highlighter.Unicode.Casing

/-!
# Registries

A registry holds grammars by scope name and themes by name, and knows which extensions of files are
for which grammar. A later grammar or theme replaces an earlier one of the same name.

The tables are hash tables, whose entries come in an order of their own. Where the entries are gone
through, in a search by display name and in a listing, they are therefore taken as a list, and what
does not depend on the order of that list is shown of all its permutations.
-/

namespace Highlighter

/-- Grammars and themes by name. -/
structure Registry where
  grammars : SortedMap String Grammar := .empty
  /-- The scope name of the grammar for an extension. -/
  extensions : SortedMap String String := .empty
  themes : SortedMap String Theme := .empty
deriving Inhabited

namespace Registry

/-- The registry that holds nothing. -/
def empty : Registry := {}

/-! ## Adding -/

/-- The extension that a file type stands for: in lower case, without the dots in front. -/
def normalExtension (fileType : String) : String :=
  Unicode.lower (String.ofList (fileType.toList.dropWhile (· == '.')))

/-- Adds a grammar, and assigns its file types to it. -/
def addGrammar (r : Registry) (g : Grammar) : Registry :=
  { r with
    grammars := r.grammars.insert g.scopeName g
    extensions :=
      g.fileTypes.foldl (fun m t ↦ m.insert (normalExtension t) g.scopeName) r.extensions }

/-- Adds a theme under a key. -/
def insertTheme (r : Registry) (key : String) (t : Theme) : Registry :=
  { r with themes := r.themes.insert key t }

/-- The key of a theme that does not come from a file. -/
def themeKey (t : Theme) : String := t.name.getD "unnamed"

/-- Adds a theme under its name. -/
def addTheme (r : Registry) (t : Theme) : Registry := r.insertTheme (themeKey t) t

/-! ## Loading -/

/-- The text of a file. -/
def decodeFile (contents : Except FileError ByteArray) : Except Error String :=
  match contents with
  | .error e => .error (.file e)
  | .ok bytes =>
    match String.fromUTF8? bytes with
    | some text => .ok text
    | none => .error (.file .invalidEncoding)

/-- Adds the grammar of a file, whose key is given back. -/
def loadGrammar (r : Registry) (contents : Except FileError ByteArray) :
    Except Error (Registry × String) := do
  let text ← decodeFile contents
  match Grammar.ofJson? text with
  | some g => return (r.addGrammar g, g.scopeName)
  | none => throw .document

/-- Adds the theme of a file, whose key is given back. A theme without a name has that of the
file. -/
def loadTheme (r : Registry) (path : String) (contents : Except FileError ByteArray) :
    Except Error (Registry × String) := do
  let text ← decodeFile contents
  match Theme.ofJson? text with
  | some t =>
    let key := t.name.getD ((Path.stem? path).getD "unnamed")
    return (r.insertTheme key t, key)
  | none => throw .document

/-! ## Looking up -/

/-- Whether two texts are equal up to the case of the letters of ASCII. -/
def equalIgnoringCase (a b : String) : Bool := Words.asciiLower a == Words.asciiLower b

/-- Whether a grammar has a display name, in letters of either case. -/
def isNamed (key : String) (e : String × Grammar) : Bool := equalIgnoringCase e.2.name key

/-- The grammar with a scope name, or else the first one with a display name among the entries in
some order. -/
def grammarAmong (r : Registry) (order : List (String × Grammar)) (key : String) :
    Except Error Grammar :=
  match r.grammars.get? key with
  | some g => .ok g
  | none =>
    match order.find? (isNamed key) with
    | some (_, g) => .ok g
    | none => .error (.unknownGrammar key)

/-- The grammar with a scope name, or else one with a display name. Where several grammars have this
display name, any of them may come first in a hash table; here it is the one with the least scope
name. -/
def grammar (r : Registry) (key : String) : Except Error Grammar :=
  r.grammarAmong r.grammars.entries key

/-- The theme with a name. -/
def theme (r : Registry) (key : String) : Except Error Theme :=
  match r.themes.get? key with
  | some t => .ok t
  | none => .error (.unknownTheme key)

/-- The grammar for a file, by its extension. -/
def detect (r : Registry) (path : String) : Option Grammar := do
  let extension ← Path.extension? path
  let key ← r.extensions.get? (Unicode.lower extension)
  r.grammars.get? key

/-! ## Listing -/

/-- The keys of some entries: collected in the order of the entries, and then sorted. -/
def sortedKeys {α : Type} (order : List (String × α)) : List String :=
  (order.map (·.1)).mergeSort (· ≤ ·)

/-- The scope names of the grammars, sorted. -/
def listGrammars (r : Registry) : List String := sortedKeys r.grammars.entries

/-- The names of the themes, sorted. -/
def listThemes (r : Registry) : List String := sortedKeys r.themes.entries

/-! ## Highlighting -/

/-- Highlights a text with a grammar and a theme of the registry. -/
def highlight (r : Registry) (engine : Engine) (grammarKey themeKey text : String)
    (options : HighlightOptions) : Except Error (List Span) := do
  let g ← r.grammar grammarKey
  let t ← r.theme themeKey
  (Highlighter.highlight engine g t text options).mapError .grammar

end Registry

end Highlighter
