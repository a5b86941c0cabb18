import Highlighter.Grammar.Document
import Highlighter.Theme.Basic

/-!
# Theme documents

A theme document is a list of entries, each with selectors and attributes. An entry without a
selector gives the base style, if it is the first one. Selectors with white space inside ask for
scopes within scopes, and are left out.
-/

namespace Highlighter

/-! ## Documents -/

/-- An entry of a theme document. -/
structure SettingEntry where
  /-- Lists of selectors with commas between them. -/
  scopes : List String := []
  style : Style := .empty
deriving DecidableEq

/-- A theme document. -/
structure ThemeDocument where
  name : Option String := none
  entries : List SettingEntry := []
deriving DecidableEq

/-- The selectors of an entry. -/
def SettingEntry.selectors (e : SettingEntry) : List String :=
  ((e.scopes.flatMap (Words.pieces ',')).map Words.trim).filter (!·.isEmpty)

/-- The rules of an entry. -/
def SettingEntry.rules (e : SettingEntry) : List ThemeRule :=
  (e.selectors.filter (!Words.hasBlank ·)).map fun s ↦ ⟨.ofString s, e.style⟩

/-- The theme of a document. -/
def ThemeDocument.theme (d : ThemeDocument) : Theme where
  name := d.name
  base := ((d.entries.find? (·.selectors.isEmpty)).map (·.style)).getD .empty
  rules := d.entries.flatMap (·.rules)

/-! ## Reading -/

/-- The text of an attribute: a text as it is, and a number or truth value as it is written. Other
values are no attributes. -/
def JsonTree.attribute? : JsonTree → Option String
  | .string written => JsonText.decode? written
  | .number n => n.value?.map NumberValue.text
  | .bool b => some (if b then "true" else "false")
  | .null | .array _ | .object _ => none

/-- The style of an object that nests at most `room` deep. -/
def Style.ofTree? (room : Nat) : JsonTree → Option Style
  | .object ms =>
    if room = 0 ∨ !JsonTree.areMembers (room - 1) ms then none
    else
      let members := SortedMap.ofList (ms.filterMap fun (k, t) ↦
        (JsonText.decode? k).map fun key ↦ (key, t))
      some (.ofList (members.entries.filterMap fun (k, t) ↦ t.attribute?.map fun v ↦ (k, v)))
  | _ => none

/-- The scopes of an entry: a text, an array of texts, or nothing. -/
def scopesOfTree? (room : Nat) (t : JsonTree) : Option (List String) :=
  match t with
  | .null => some []
  | .string written => (JsonText.decode? written).map fun s ↦ [s]
  | .array _ => t.texts? room
  | _ => none

/-- An entry with the field of a key set. -/
def SettingEntry.assign? (room : Nat) (e : SettingEntry) : String × JsonTree → Option SettingEntry
  | ("scope", t) => (scopesOfTree? room t).map fun v ↦ { e with scopes := v }
  | ("settings", t) => (Style.ofTree? room t).map fun v ↦ { e with style := v }
  | _ => none

/-- The entry of a tree. -/
def SettingEntry.ofTree? (room : Nat) (t : JsonTree) : Option SettingEntry := do
  (← t.fields? ["scope", "settings"] id).foldlM (assign? (room - 1)) {}

/-- A document with the field of a key set. -/
def ThemeDocument.assign? (room : Nat) (d : ThemeDocument) :
    String × JsonTree → Option ThemeDocument
  | ("name", t) => t.textOrNull?.map fun v ↦ { d with name := v }
  | ("settings", .array ts) =>
    (ts.mapM (SettingEntry.ofTree? (room - 1))).map fun v ↦ { d with entries := v }
  | _ => none

/-- The key that another name of it stands for. -/
def ThemeDocument.canonicalKey (key : String) : String :=
  if key = "tokenColors" then "settings" else key

/-- The theme document of a tree. -/
def ThemeDocument.ofTree? (t : JsonTree) : Option ThemeDocument := do
  (← t.fields? ["name", "settings"] canonicalKey).foldlM (assign? (JsonTree.maxNesting - 1)) {}

/-- Reads a theme document. -/
def ThemeDocument.ofJson? (text : String) : Option ThemeDocument :=
  (JsonTree.ofString? text).bind ofTree?

/-- Reads the theme of a document. -/
def Theme.ofJson? (text : String) : Option Theme :=
  (ThemeDocument.ofJson? text).map ThemeDocument.theme

end Highlighter
