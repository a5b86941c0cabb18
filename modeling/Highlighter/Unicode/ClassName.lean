import Highlighter.Unicode.Age
import Highlighter.Unicode.Breaks

/-!
# Finding a set of characters by its name

A set is named by itself, or as the value of a property. Names are compared without case, blanks and
separators.
-/

namespace Highlighter.Unicode

/-- A name in the form in which names are compared: without case, blanks, separators, characters
beyond ASCII, and a leading `is`. -/
def comparableName (name : List Char) : String :=
  let lower := name.map Char.toLower
  let hasIs := lower.take 2 == ['i', 's']
  let kept := (if hasIs then lower.drop 2 else lower).filter fun c ↦
    c.toNat < 0x80 && c != ' ' && c != '_' && c != '-'
  if hasIs && kept == ['c'] then "isc" else String.ofList kept

/-- The set that a single name stands for: a property, a general category or a script. Three names
of properties that are no sets of characters are names of categories. -/
def namedSet? (name : List Char) : Option CharSet :=
  let name := comparableName name
  let asProperty := if ["cf", "sc", "lc"].contains name then none else binaryNamed? name
  match asProperty with
  | some s => some s
  | none =>
    match categoryNamed? name with
    | some s => some s
    | none => (scriptCode? name).map ofScript

/-- The set of the characters with a value of a property. -/
def valueSet? (property value : List Char) : Option CharSet :=
  let value := comparableName value
  match comparableName property with
  | "gc" | "generalcategory" => categoryNamed? value
  | "sc" | "script" => (scriptCode? value).map ofScript
  | "scx" | "scriptextensions" => (scriptCode? value).map usedByScript
  | "age" => assignedBy? value
  | "gcb" | "graphemeclusterbreak" => graphemeClasses.named? value
  | "wb" | "wordbreak" => wordClasses.named? value
  | "sb" | "sentencebreak" => sentenceClasses.named? value
  | _ => none

end Highlighter.Unicode
