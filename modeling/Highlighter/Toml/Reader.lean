import Highlighter.Decimal.Reader
import Highlighter.Text.Hex
import Highlighter.Toml.Value

/-!
# Reading TOML documents

A recursive descent over the characters of a document. Arrays and tables in braces may nest only so
deep, and the reader of a value counts down how deep; loops are bounded by the length of what is
left to read.
-/

namespace Highlighter.Toml

/-- A reader of a part of a document. -/
abbrev Reader := StateT (List Char) Option

namespace Reader

/-! ## Characters -/

/-- What is left to read. -/
def rest : Reader (List Char) := get

/-- Goes past a number of characters. -/
def advance (n : Nat) : Reader Unit := modify (·.drop n)

/-- Goes past a text if it comes next. -/
def takes (text : List Char) : Reader Bool := do
  if text.isPrefixOf (← rest) then
    advance text.length
    return true
  return false

/-- Goes past a text; fails if another one comes next. -/
def expect (text : List Char) : Reader Unit := do
  if !(← takes text) then failure

/-- Takes the characters of a kind that come next. -/
def takeWhile (kind : Char → Bool) : Reader (List Char) := do
  let taken := (← rest).takeWhile kind
  advance taken.length
  return taken

/-- Takes a fixed number of characters, all of a kind. -/
def takeExactly (kind : Char → Bool) (n : Nat) : Reader (List Char) := do
  let taken := (← rest).take n
  if taken.length = n ∧ taken.all kind then
    advance n
    return taken
  else failure

/-- Repeats a reader until it gives nothing. Each time it must read something. -/
def collect {α : Type} (one : Reader (Option α)) : Nat → Reader (List α)
  | 0 => return []
  | fuel + 1 => do
    match ← one with
    | none => return []
    | some a => return a :: (← collect one fuel)

/-- Repeats a reader as often as there are characters left. -/
def collectAll {α : Type} (one : Reader (Option α)) : Reader (List α) := do
  collect one ((← rest).length + 1)

/-! ## Blanks -/

/-- White space within a line. -/
def isBlank (c : Char) : Bool := c == ' ' || c == '\t'

/-- Whether a character may stand in a comment or a string. -/
def isText (c : Char) : Bool := c == '\t' || (' ' ≤ c && c ≤ '~') || '\x80' ≤ c

/-- Skips white space within a line. -/
def blanks : Reader Unit := discard (takeWhile isBlank)

/-- Goes past the end of a line if it comes next. -/
def takesNewline : Reader Bool := do
  if ← takes ['\n'] then return true
  takes ['\r', '\n']

/-- Goes past a comment if one comes next. -/
def takesComment : Reader Bool := do
  if ← takes ['#'] then
    discard (takeWhile isText)
    return true
  return false

/-- Goes to the next line, or to the end. Nothing but a comment may be left on this one. -/
def endLine : Reader Unit := do
  blanks
  discard takesComment
  if !(← takesNewline) && !(← rest).isEmpty then failure

/-- Skips white space, ends of lines, and comments that a line ends. -/
def blankLines : Reader Unit :=
  discard <| collectAll do
    let blank ← takeWhile isBlank
    if ← takesNewline then return some ()
    if ← takesComment then
      if ← takesNewline then return some ()
      failure
    return if blank.isEmpty then none else some ()

/-! ## Strings -/

/-- Whether a character is a hexadecimal digit. -/
def isHex (c : Char) : Bool := (Hex.value? c).isSome

/-- The character that a number of hexadecimal digits names. -/
def hexChar (count : Nat) : Reader Char := do
  match Hex.number? (← takeExactly isHex count) with
  | some n => if n.isValidChar then return Char.ofNat n else failure
  | none => failure

/-- The character after a backslash. -/
def escape : Reader Char := do
  match ← takeExactly (fun _ ↦ true) 1 with
  | ['b'] => return '\x08'
  | ['t'] => return '\t'
  | ['n'] => return '\n'
  | ['f'] => return '\x0c'
  | ['r'] => return '\r'
  | ['"'] => return '"'
  | ['\\'] => return '\\'
  | ['u'] => hexChar 4
  | ['U'] => hexChar 8
  | _ => failure

/-- Whether a line ends here, after white space. -/
def isLineEnd : Reader Bool := do
  let after := (← rest).dropWhile isBlank
  return ['\n'].isPrefixOf after || ['\r', '\n'].isPrefixOf after

/-- What the next part of a string between double quotes stands for. A string of several lines may
have line ends, which a backslash removes together with the white space after them. -/
def basicPart (lines : Bool) : Reader (Option (List Char)) := do
  match ← rest with
  | '\\' :: _ =>
    advance 1
    if lines && (← isLineEnd) then
      discard (collectAll do
        let blank ← takeWhile isBlank
        if ← takesNewline then return some ()
        return if blank.isEmpty then none else some ())
      return some []
    return some [← escape]
  | c :: _ =>
    if c == '"' then return none
    if isText c then
      advance 1
      return some [c]
    if lines then
      if ← takesNewline then return some ['\n']
    return none
  | [] => return none

/-- The next part of a string between single quotes, which stands for itself. -/
def literalPart (lines : Bool) : Reader (Option (List Char)) := do
  match ← rest with
  | c :: _ =>
    if c == '\'' then return none
    if isText c then
      advance 1
      return some [c]
    if lines then
      if ← takesNewline then return some ['\n']
    return none
  | [] => return none

/-- The number of quotes that come next. -/
def quoteCount (quote : Char) : Reader Nat := do
  return ((← rest).takeWhile (· == quote)).length

/-- One or two quotes inside a string of several lines, which three of them end. -/
def innerQuotes (quote : Char) : Reader (Option (List Char)) := do
  let count ← quoteCount quote
  if count = 0 ∨ 3 ≤ count then return none
  advance count
  return some (List.replicate count quote)

/-- The end of a string of several lines. Up to two more quotes in front of the last three belong to
the string. -/
def closingQuotes (quote : Char) : Reader (List Char) := do
  let inner := min ((← quoteCount quote) - 3) 2
  advance inner
  expect [quote, quote, quote]
  return List.replicate inner quote

/-- The part of a string of several lines that comes next, or quotes inside it. -/
def linesPart (quote : Char) (part : Reader (Option (List Char))) :
    Reader (Option (List Char)) := do
  match ← part with
  | some cs => return some cs
  | none => innerQuotes quote

/-- A string between quotes, on one line. -/
def lineString (quote : Char) (part : Reader (Option (List Char))) : Reader String := do
  expect [quote]
  let parts ← collectAll part
  expect [quote]
  return String.ofList parts.flatten

/-- A string between three quotes. A line end right after these does not count. -/
def linesString (quote : Char) (part : Reader (Option (List Char))) : Reader String := do
  expect [quote, quote, quote]
  discard takesNewline
  let parts ← collectAll (linesPart quote part)
  return String.ofList (parts.flatten ++ (← closingQuotes quote))

/-- A string. -/
def string : Reader String := do
  match ← rest with
  | '"' :: '"' :: '"' :: _ => linesString '"' (basicPart true)
  | '"' :: _ => lineString '"' (basicPart false)
  | '\'' :: '\'' :: '\'' :: _ => linesString '\'' (literalPart true)
  | _ => lineString '\'' (literalPart false)

/-! ## Keys -/

/-- Whether a character may stand in a key without quotes. -/
def isBare (c : Char) : Bool := c.isAlphanum || c == '_' || c == '-'

/-- A key without dots. -/
def simpleKey : Reader String := do
  blanks
  let key ← match ← rest with
    | '"' :: _ => lineString '"' (basicPart false)
    | '\'' :: _ => lineString '\'' (literalPart false)
    | _ => do
      let cs ← takeWhile isBare
      if cs.isEmpty then failure
      pure (String.ofList cs)
  blanks
  return key

/-- How deeply values and keys may nest. -/
def maxNesting : Nat := 79

/-- A key: the keys before the last dot, and the one after it. -/
def key : Reader (List String × String) := do
  let first ← simpleKey
  let others ← collectAll do
    if ← takes ['.'] then return some (← simpleKey)
    return none
  if maxNesting ≤ others.length then failure
  return ((first :: others).dropLast, others.getLastD first)

/-! ## Numbers -/

/-- Digits of a kind, between which single underscores may stand. -/
def digitsAfterFirst (kind : Char → Bool) : List Char → List Char
  | '_' :: c :: rest => if kind c then '_' :: c :: digitsAfterFirst kind rest else []
  | c :: rest => if kind c then c :: digitsAfterFirst kind rest else []
  | [] => []

/-- The digits of a kind that come next, without the underscores between them. -/
def digits (kind : Char → Bool) : Reader (List Char) := do
  match ← rest with
  | c :: more =>
    if !kind c then failure
    let taken := c :: digitsAfterFirst kind more
    advance taken.length
    return taken.filter (· != '_')
  | [] => failure

/-- The decimal digits of an integer, which begin with zero only if it is zero. -/
def wholeDigits : Reader (List Char) := do
  if ← takes ['0'] then return ['0']
  digits Char.isDigit

/-- Where an integer has too large a value it cannot be read. -/
def boundedInteger (isNegative : Bool) (n : Nat) : Reader TomlValue :=
  if n < Nat.pow 2 63 ∨ isNegative ∧ n = Nat.pow 2 63 then
    return .integer (if isNegative then -(n : Int) else n)
  else failure

/-- An integer in another base, whose mark was just taken. -/
def basedInteger (base : Nat) : Reader TomlValue := do
  let kind (c : Char) := (Hex.value? c).any (· < base)
  let ds ← digits kind
  boundedInteger false (ds.foldl (fun n c ↦ base * n + (Hex.value? c).getD 0) 0)

/-- A sign, which is `true` for a minus. -/
def sign : Reader Bool := do
  if ← takes ['-'] then return true
  discard (takes ['+'])
  return false

/-- The digits after a point, if one comes next. -/
def fraction? : Reader (Option (List Char)) := do
  if ← takes ['.'] then return some (← digits Char.isDigit)
  return none

/-- The exponent, if one comes next. -/
def exponent? : Reader (Option Int) := do
  if (← takes ['e']) || (← takes ['E']) then
    let isNegative ← sign
    let n : Int := BinaryFormat.digitsValue (← digits Char.isDigit)
    return some (if isNegative then -n else n)
  return none

/-- A number in decimal digits. A floating point number that is too large has no value unless it is
negative. -/
def decimalNumber (isNegative : Bool) : Reader TomlValue := do
  let whole ← wholeDigits
  match ← fraction?, ← exponent? with
  | none, none => boundedInteger isNegative (BinaryFormat.digitsValue whole)
  | fraction, e =>
    let fraction := fraction.getD []
    match BinaryFormat.double.ofDecimal? (BinaryFormat.digitsValue (whole ++ fraction))
        (e.getD 0 - fraction.length) with
    | some m => return .float (.finite isNegative m)
    | none => if isNegative then return .float (.infinite true) else failure

/-- A number. -/
def number : Reader TomlValue := do
  if ← takes ['0', 'x'] then basedInteger 16
  else if ← takes ['0', 'o'] then basedInteger 8
  else if ← takes ['0', 'b'] then basedInteger 2
  else
    let isNegative ← sign
    if ← takes ['i', 'n', 'f'] then return .float (.infinite isNegative)
    if ← takes ['n', 'a', 'n'] then return .float .nan
    decimalNumber isNegative

/-! ## Dates -/

/-- A number of some digits, within bounds. -/
def boundedDigits (count least most : Nat) : Reader Nat := do
  let n := BinaryFormat.digitsValue (← takeExactly Char.isDigit count)
  if least ≤ n ∧ n ≤ most then return n else failure

/-- The number of days of a month. -/
def daysOfMonth (year month : Nat) : Nat :=
  if month = 2 then
    if year % 4 = 0 ∧ (year % 100 ≠ 0 ∨ year % 400 = 0) then 29 else 28
  else if month = 4 ∨ month = 6 ∨ month = 9 ∨ month = 11 then 30
  else 31

/-- A time of day. -/
def time : Reader Unit := do
  discard (boundedDigits 2 0 23)
  expect [':']
  discard (boundedDigits 2 0 59)
  expect [':']
  discard (boundedDigits 2 0 60)
  if ← takes ['.'] then
    if (← takeWhile Char.isDigit).isEmpty then failure

/-- The distance to the time at Greenwich, if it comes next. -/
def offset : Reader Unit := do
  if (← takes ['Z']) || (← takes ['z']) then return
  if (← takes ['+']) || (← takes ['-']) then
    discard (boundedDigits 2 0 23)
    expect [':']
    discard (boundedDigits 2 0 59)

/-- Whether a time comes next: two digits and a colon. -/
def isTime (text : List Char) : Bool :=
  match text with
  | a :: b :: ':' :: _ => a.isDigit && b.isDigit
  | _ => false

/-- Whether a date comes next: four digits and a dash. -/
def isDate (text : List Char) : Bool :=
  match text with
  | a :: b :: c :: d :: '-' :: _ => [a, b, c, d].all Char.isDigit
  | _ => false

/-- A date, with a time if one comes next. -/
def date : Reader Unit := do
  let year ← boundedDigits 4 0 9999
  expect ['-']
  let month ← boundedDigits 2 1 12
  expect ['-']
  discard (boundedDigits 2 1 (daysOfMonth year month))
  match ← rest with
  | c :: after =>
    if (c == 'T' || c == 't' || c == ' ') && isTime after then
      advance 1
      time
      offset
  | [] => return

/-- A date or time. -/
def dateTime : Reader TomlValue := do
  let before ← rest
  if isDate before then date else time
  let after ← rest
  return .dateTime (String.ofList (before.take (before.length - after.length)))

/-! ## Values -/

/-- A value that holds no other ones. -/
def scalar : Reader TomlValue := do
  let text ← rest
  match text with
  | '"' :: _ | '\'' :: _ => return .string (← string)
  | 't' :: _ =>
    expect ['t', 'r', 'u', 'e']
    return .boolean true
  | 'f' :: _ =>
    expect ['f', 'a', 'l', 's', 'e']
    return .boolean false
  | _ => if isDate text || isTime text then dateTime else number

/-- An array, whose items are read by `value`. -/
def array (value : Reader TomlValue) : Reader TomlValue := do
  expect ['[']
  blankLines
  let items ← collectAll do
    if [']'].isPrefixOf (← rest) then return none
    let v ← value
    blankLines
    if ← takes [','] then blankLines
    else if !([']'].isPrefixOf (← rest)) then failure
    return some v
  expect [']']
  return .array items

/-- An entry of a table in braces. -/
def inlineEntry (value : Reader TomlValue) : Reader ((List String × String) × TomlValue) := do
  let k ← key
  expect ['=']
  blanks
  let v ← value
  blanks
  return (k, v)

/-- A table in braces. -/
def inlineTable (value : Reader TomlValue) : Reader TomlValue := do
  expect ['\x7b']
  blanks
  if ← takes ['\x7d'] then return .table .inlined []
  let first ← inlineEntry value
  let others ← collectAll do
    if ← takes [','] then return some (← inlineEntry value)
    return none
  expect ['\x7d']
  let add (es : TomlEntries) (e : (List String × String) × TomlValue) : Option TomlEntries :=
    TomlEntries.addDotted? (.header, es) e.1.1 e.1.2 e.2
  let entries : Option TomlEntries := (first :: others).foldlM add []
  return .table .inlined (← entries)

/-- A value in which others nest at most `room` deep. -/
def value : Nat → Reader TomlValue
  | 0 => scalar
  | room + 1 => do
    match ← rest with
    | '[' :: _ => array (value room)
    | '\x7b' :: _ => inlineTable (value room)
    | _ => scalar

/-! ## Documents -/

/-- A document as far as it was read: its entries, and the path of the table being filled. -/
structure Partial where
  entries : TomlEntries
  path : List String

/-- Adds a value to the table that is being filled. -/
def Partial.add? (d : Partial) (k : List String × String) (v : TomlValue) : Option Partial :=
  (TomlTable.change? false (fun t ↦ TomlEntries.addDotted? t k.1 k.2 v) d.path
    (.header, d.entries)).map fun entries ↦ { d with entries }

/-- Begins the table of a header. -/
def Partial.begin? (d : Partial) (isNext : Bool) (k : List String × String) : Option Partial :=
  (if isNext then d.entries.beginNext? k.1 k.2 else d.entries.beginTable? k.1 k.2).map
    fun entries ↦ ⟨entries, k.1 ++ [k.2]⟩

/-- Reads a line, or nothing at the end. -/
def line (d : Partial) : Reader (Option Partial) := do
  blanks
  match ← rest with
  | [] => return none
  | '#' :: _ | '\n' :: _ | '\r' :: _ =>
    endLine
    return some d
  | '[' :: '[' :: _ =>
    advance 2
    let k ← key
    expect [']', ']']
    endLine
    return some (← d.begin? true k)
  | '[' :: _ =>
    advance 1
    let k ← key
    expect [']']
    endLine
    return some (← d.begin? false k)
  | _ =>
    let k ← key
    expect ['=']
    blanks
    let v ← value maxNesting
    endLine
    return some (← d.add? k v)

/-- Reads lines up to the end. -/
def lines : Nat → Partial → Reader Partial
  | 0, d => return d
  | fuel + 1, d => do
    match ← line d with
    | none => return d
    | some d => lines fuel d

/-- The entries of a document, which a byte order mark may precede. -/
def document : Reader TomlEntries := do
  discard (takes ['\ufeff'])
  return (← lines ((← rest).length + 1) ⟨[], []⟩).entries

end Reader

/-- Reads a document. -/
def ofString? (text : String) : Option TomlEntries :=
  (Reader.document.run text.toList).map (·.1)

end Highlighter.Toml
