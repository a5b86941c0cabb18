import Highlighter.Grammar.Basic
import Highlighter.Json.Reader

/-!
# Grammar documents

Grammars are read from JSON documents. A grammar or pattern is an object whose keys name its fields,
or an array of its fields in a fixed order; either form is first brought into a list of `Assigned`
fields, so that the rest need not tell the two apart. Keys that name no field are skipped with all
that they hold.

What is assigned to a capture group is a text or an object. Such an object must stand for a value as
a whole, skipped keys included, and below it no capture table may have an entry.
-/

namespace Highlighter

/-! ## Fields -/

/-- A field of a pattern. -/
inductive PatternField where
  | name | contentName | regex | beginRegex | endRegex | target | patterns
  | captures | beginCaptures | endCaptures | disabled | comment
deriving DecidableEq

namespace PatternField

/-- The fields in the order of the array form, with their keys. -/
def keys : List (PatternField × String) :=
  [(name, "name"), (contentName, "contentName"), (regex, "match"), (beginRegex, "begin"),
    (endRegex, "end"), (target, "include"), (patterns, "patterns"), (captures, "captures"),
    (beginCaptures, "beginCaptures"), (endCaptures, "endCaptures"), (disabled, "disabled"),
    (comment, "comment")]

/-- The field that a key names. -/
def ofKey? (key : String) : Option PatternField :=
  (keys.find? (·.2 == key)).map (·.1)

/-- The fields in the order of the array form. -/
def order : List PatternField := keys.map (·.1)

end PatternField

/-- A field of a pattern with its value. -/
inductive AssignedField where
  | name (value : Option String)
  | contentName (value : Option String)
  | regex (value : Option String)
  | beginRegex (value : Option String)
  | endRegex (value : Option String)
  | target (value : Option String)
  | patterns (value : List Pattern)
  | captures (value : List (Nat × Capture Pattern))
  | beginCaptures (value : List (Nat × Capture Pattern))
  | endCaptures (value : List (Nat × Capture Pattern))
  | disabled (value : UInt8)
  | comment (value : Option String)

namespace AssignedField

/-- The field that is assigned. -/
def field : AssignedField → PatternField
  | name _ => .name
  | contentName _ => .contentName
  | regex _ => .regex
  | beginRegex _ => .beginRegex
  | endRegex _ => .endRegex
  | target _ => .target
  | patterns _ => .patterns
  | captures _ => .captures
  | beginCaptures _ => .beginCaptures
  | endCaptures _ => .endCaptures
  | disabled _ => .disabled
  | comment _ => .comment

/-- The pattern with the field set. -/
def apply (p : Pattern) : AssignedField → Pattern
  | name v => { p with name := v }
  | contentName v => { p with contentName := v }
  | regex v => { p with regex := v }
  | beginRegex v => { p with beginRegex := v }
  | endRegex v => { p with endRegex := v }
  | target v => { p with target := v }
  | patterns v => { p with patterns := v }
  | captures v => { p with captures := v }
  | beginCaptures v => { p with beginCaptures := v }
  | endCaptures v => { p with endCaptures := v }
  | disabled v => { p with disabledNumber := v }
  | comment v => { p with comment := v }

/-- The pattern with some fields set, none of them twice. -/
def pattern? (fields : List AssignedField) : Option Pattern :=
  if (fields.map field).Nodup then some (fields.foldl apply {}) else none

end AssignedField

/-! ## Simple values -/

/-- An integer of 8 bits. -/
def JsonTree.byte? : JsonTree → Option UInt8
  | .number n =>
    match n.value? with
    | some (.natural k) => if k < 256 then some (.ofNat k) else none
    | _ => none
  | _ => none

/-- The number of a group, written in decimal digits with no zero in front. -/
def groupNumber? (key : List Char) : Option Nat :=
  match JsonToken.wholePart key with
  | some (ds, ⟨[], _⟩) =>
    let n := JsonNumber.ofDigits ds
    if n < Nat.pow 2 64 then some n else none
  | _ => none

/-- Sorts the entries of a capture table by group; a later entry of a group replaces an earlier
one. -/
def sortCaptures (l : List (Nat × Capture Pattern)) : List (Nat × Capture Pattern) :=
  l.foldl (fun acc e ↦ insertEntry e.1 e.2 acc) []

/-! ## Patterns -/

/-- A field of the object that is assigned to a capture group. -/
inductive CaptureField where
  | name (value : Option String)
  | patterns (value : List Pattern)

/-- What is assigned to a capture group, from its fields, none of them twice. -/
def CaptureField.capture? : List CaptureField → Option (Capture Pattern)
  | [] => some {}
  | [.name n] => some { name := n }
  | [.patterns ps] => some { patterns := ps }
  | [.name n, .patterns ps] => some ⟨n, ps⟩
  | [.patterns ps, .name n] => some ⟨n, ps⟩
  | _ => none

mutual

/-- The pattern of a document that nests at most `room` deep. Below a capture table, other capture
tables must be empty. -/
def Pattern.ofTree? (inCapture : Bool) : Nat → JsonTree → Option Pattern
  | room + 1, .object members =>
    (memberFields inCapture room members).bind AssignedField.pattern?
  | room + 1, .array items =>
    (itemFields inCapture room PatternField.order items).bind AssignedField.pattern?
  | _, _ => none

/-- The patterns of an array. -/
def patternsOfTrees? (inCapture : Bool) : Nat → List JsonTree → Option (List Pattern)
  | _, [] => some []
  | room, t :: ts => do
    let p ← Pattern.ofTree? inCapture room t
    return p :: (← patternsOfTrees? inCapture room ts)

/-- The fields that the members of an object assign. -/
def memberFields (inCapture : Bool) : Nat → List (List Char × JsonTree) →
    Option (List AssignedField)
  | _, [] => some []
  | room, (k, t) :: ms =>
    match JsonText.decode? k with
    | none => none
    | some key =>
      match PatternField.ofKey? key with
      | none => memberFields inCapture room ms
      | some f => do
        let a ← fieldOfTree? inCapture room f t
        return a :: (← memberFields inCapture room ms)

/-- The fields that the items of an array assign, in a given order of the fields. -/
def itemFields (inCapture : Bool) : Nat → List PatternField → List JsonTree →
    Option (List AssignedField)
  | _, _, [] => some []
  | _, [], _ :: _ => none
  | room, f :: fs, t :: ts => do
    let a ← fieldOfTree? inCapture room f t
    return a :: (← itemFields inCapture room fs ts)

/-- A field with the value that a tree gives it. -/
def fieldOfTree? (inCapture : Bool) : Nat → PatternField → JsonTree → Option AssignedField
  | room + 1, .patterns, .array ts => (patternsOfTrees? inCapture room ts).map .patterns
  | room + 1, .captures, .object ms =>
    (captureEntries inCapture room ms).map (.captures <| sortCaptures ·)
  | room + 1, .beginCaptures, .object ms =>
    (captureEntries inCapture room ms).map (.beginCaptures <| sortCaptures ·)
  | room + 1, .endCaptures, .object ms =>
    (captureEntries inCapture room ms).map (.endCaptures <| sortCaptures ·)
  | _, .patterns, _ | _, .captures, _ | _, .beginCaptures, _ | _, .endCaptures, _ => none
  | _, .name, t => t.textOrNull?.map .name
  | _, .contentName, t => t.textOrNull?.map .contentName
  | _, .regex, t => t.textOrNull?.map .regex
  | _, .beginRegex, t => t.textOrNull?.map .beginRegex
  | _, .endRegex, t => t.textOrNull?.map .endRegex
  | _, .target, t => t.textOrNull?.map .target
  | _, .disabled, t => t.byte?.map .disabled
  | _, .comment, t => t.textOrNull?.map .comment

/-- The entries of a capture table, in the order of the document. -/
def captureEntries (inCapture : Bool) : Nat → List (List Char × JsonTree) →
    Option (List (Nat × Capture Pattern))
  | _, [] => some []
  | room, (k, t) :: ms =>
    if inCapture then none
    else do
      let group ← groupNumber? k
      let c ← captureOfTree? room t
      return (group, c) :: (← captureEntries inCapture room ms)

/-- What a tree assigns to a capture group. -/
def captureOfTree? : Nat → JsonTree → Option (Capture Pattern)
  | _, .string written => (JsonText.decode? written).map fun name ↦ { name := some name }
  | room + 1, .object ms =>
    if JsonTree.areMembers room ms then (captureFields room ms).bind CaptureField.capture? else none
  | _, _ => none

/-- The fields of an object that is assigned to a capture group. -/
def captureFields : Nat → List (List Char × JsonTree) → Option (List CaptureField)
  | _, [] => some []
  | room, (k, t) :: ms =>
    match JsonText.decode? k with
    | some "name" => do
      let name ← t.textOrNull?
      return .name name :: (← captureFields room ms)
    | some "patterns" => do
      let ps ← capturePatterns? room t
      return .patterns ps :: (← captureFields room ms)
    | some _ => captureFields room ms
    | none => none

/-- The patterns of an object that is assigned to a capture group. -/
def capturePatterns? : Nat → JsonTree → Option (List Pattern)
  | room + 1, .array ts => patternsOfTrees? true room ts
  | _, _ => none

end

/-! ## Grammars -/

/-- The entries of a repository, in the order of the document. -/
def repositoryEntries (room : Nat) : List (List Char × JsonTree) → Option (List (String × Pattern))
  | [] => some []
  | (k, t) :: ms => do
    let name ← JsonText.decode? k
    let p ← Pattern.ofTree? false room t
    return (name, p) :: (← repositoryEntries room ms)

/-- The names of the fields of a grammar, in the order of the array form. -/
def Grammar.fieldKeys : List String := ["scopeName", "name", "fileTypes", "patterns", "repository"]

/-- A grammar with the field of a key set. -/
def Grammar.assign? (room : Nat) (g : Grammar) : String × JsonTree → Option Grammar
  | ("scopeName", t) => t.text?.map fun v ↦ { g with scopeName := v }
  | ("name", t) => t.textOrNull?.map fun v ↦ { g with displayName := v }
  | ("fileTypes", t) => (t.texts? room).map fun v ↦ { g with fileTypes := v }
  | ("patterns", .array ts) =>
    if room = 0 then none
    else (patternsOfTrees? false (room - 1) ts).map fun v ↦ { g with patterns := v }
  | ("repository", .object ms) =>
    if room = 0 then none
    else (repositoryEntries (room - 1) ms).map fun v ↦ { g with repository := .ofList v }
  | _ => none

/-- The members of an object or items of an array that set fields with given keys, with the keys.
Each may come once. An alias of a key is turned into the key by `canonical`. -/
def JsonTree.fields? (keys : List String) (canonical : String → String) :
    JsonTree → Option (List (String × JsonTree))
  | .object ms => do
    let named ← ms.mapM fun (k, t) ↦ return (canonical (← JsonText.decode? k), t)
    let known := named.filter fun (k, _) ↦ keys.contains k
    if (known.map (·.1)).Nodup then some known else none
  | .array ts => if ts.length ≤ keys.length then some (keys.zip ts) else none
  | _ => none

/-- The grammar of a document. -/
def Grammar.ofTree? (t : JsonTree) : Option Grammar := do
  (← t.fields? fieldKeys id).foldlM (assign? (JsonTree.maxNesting - 1)) {}

/-- Reads a grammar document. -/
def Grammar.ofJson? (text : String) : Option Grammar :=
  (JsonTree.ofString? text).bind ofTree?

end Highlighter
