import Highlighter.Decimal.Binary

/-!
# TOML documents

A document is a table of values. Tables come into being in several ways, and how one did decides
whether it may be extended later: `TableKind` keeps this. Extending a document is a function that
may fail, and that fails exactly when a key or table would be defined twice.
-/

namespace Highlighter

/-- How a table came into being. -/
inductive TableKind where
  /-- By a header of its own. -/
  | header
  /-- By a header of a table inside it. -/
  | implicit
  /-- By a key with dots. -/
  | dotted
  /-- As a value in braces. -/
  | inlined
deriving DecidableEq, Repr

/-- A TOML value. -/
inductive TomlValue where
  | string (text : String)
  | integer (n : Int)
  | float (n : BinaryNumber)
  | boolean (b : Bool)
  | dateTime (text : String)
  | array (items : List TomlValue)
  | table (kind : TableKind) (entries : List (String × TomlValue))
  /-- Tables under headers of one name, the last one first. -/
  | tables (items : List (List (String × TomlValue)))

/-- The entries of a table. -/
abbrev TomlEntries := List (String × TomlValue)

/-- A table with its kind. -/
abbrev TomlTable := TableKind × TomlEntries

namespace TomlEntries

/-- Gives a key a value, in place of the one it has. -/
def put (es : TomlEntries) (key : String) (v : TomlValue) : TomlEntries :=
  match es with
  | [] => [(key, v)]
  | (k, w) :: rest => if k = key then (k, v) :: rest else (k, w) :: put rest key v

/-- Adds a key that is not there yet. -/
def add? (es : TomlEntries) (key : String) (v : TomlValue) : Option TomlEntries :=
  if (es.lookup key).isSome then none else some (put es key v)

end TomlEntries

/-- Whether keys may go through a table of a kind: those of a header through all but values in
braces, and those with dots only through tables that no header and no value has defined. -/
def TableKind.isOpen (viaDots : Bool) : TableKind → Bool
  | header => !viaDots
  | implicit | dotted => true
  | inlined => false

/-- Changes the table that a path leads to. Tables that are not there yet are created, and of tables
under headers of one name the last one is meant. -/
def TomlTable.change? (viaDots : Bool) (f : TomlTable → Option TomlEntries) :
    List String → TomlTable → Option TomlEntries
  | [], t => f t
  | key :: path, (_, es) =>
    match es.lookup key with
    | none =>
      let kind := if viaDots then .dotted else .implicit
      (change? viaDots f path (kind, [])).map fun inner ↦ TomlEntries.put es key (.table kind inner)
    | some (.table kind inner) =>
      if kind.isOpen viaDots then
        (change? viaDots f path (kind, inner)).map fun inner ↦
          TomlEntries.put es key (.table kind inner)
      else none
    | some (.tables (last :: before)) =>
      (change? viaDots f path (.header, last)).map fun last ↦
        TomlEntries.put es key (.tables (last :: before))
    | some _ => none

namespace TomlEntries

/-- Adds a value under a key with dots, of which `path` is what comes before the last one. A table
that is reached through dots must have been made by dots. -/
def addDotted? (t : TomlTable) (path : List String) (key : String) (v : TomlValue) :
    Option TomlEntries :=
  TomlTable.change? true
    (fun (kind, es) ↦ if path.isEmpty || kind == .dotted then es.add? key v else none) path t

/-- Begins a table under a header, which may complete a table that was made by other headers. -/
def beginTable? (es : TomlEntries) (path : List String) (key : String) : Option TomlEntries :=
  TomlTable.change? false
    (fun (_, es) ↦
      match es.lookup key with
      | none => some (es.put key (.table .header []))
      | some (.table .implicit inner) => some (es.put key (.table .header inner))
      | some _ => none)
    path (.header, es)

/-- Begins the next one of the tables under a header. -/
def beginNext? (es : TomlEntries) (path : List String) (key : String) : Option TomlEntries :=
  TomlTable.change? false
    (fun (_, es) ↦
      match es.lookup key with
      | none => some (es.put key (.tables [[]]))
      | some (.tables before) => some (es.put key (.tables ([] :: before)))
      | some _ => none)
    path (.header, es)

end TomlEntries

end Highlighter
