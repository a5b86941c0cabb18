import Highlighter.Regex.Syntax
import Highlighter.Unicode.Recent

/-!
# Reading regular expressions

A recursive descent over the characters of a written expression. Reading fails without a reason:
an expression is either accepted or not. Groups and classes nest, so the readers of these take a
bound on the number of steps, which the length of the text supplies.
-/

namespace Highlighter.Regex

/-- What is left to read, and what was read that later characters depend on. -/
structure Cursor where
  /-- The characters that are left. -/
  rest : List Char
  /-- How many capturing groups were opened. -/
  groupCount : Nat
  /-- The names of the named groups. -/
  names : List (List Char)
  /-- Whether blanks and comments between parts are skipped. -/
  extended : Bool

/-- A reader of a part of an expression. -/
abbrev Reader := StateT Cursor Option

namespace Reader

/-! ## Single characters -/

/-- The next character, if any is left. -/
def peek? : Reader (Option Char) := do
  return (← get).rest.head?

/-- The next character; fails at the end. -/
def peek : Reader Char := do
  match (← get).rest with
  | c :: _ => return c
  | [] => failure

/-- Goes past a number of characters. -/
def advance (n : Nat) : Reader Unit :=
  modify fun cur ↦ { cur with rest := cur.rest.drop n }

/-- What follows blanks and comments, which run from `#` to the end of the line. -/
def afterBlanks : List Char → List Char
  | [] => []
  | c :: rest =>
    if c == '#' then afterBlanks (rest.dropWhile (· != '\n'))
    else if Unicode.whiteSpace.contains c then afterBlanks rest
    else c :: rest
termination_by text => text.length
decreasing_by
  · have := (rest.dropWhile_sublist (· != '\n')).length_le
    simp only [List.length_cons]
    omega
  · simp

/-- Skips blanks and comments where they are to be skipped. -/
def skipBlanks : Reader Unit :=
  modify fun cur ↦ if cur.extended then { cur with rest := afterBlanks cur.rest } else cur

/-- Goes past a character and the blanks after it; fails if nothing is left then. -/
def step : Reader Unit := do
  advance 1
  skipBlanks
  discard peek

/-- Goes past a character and the blanks after it. -/
def stepOver : Reader Unit := do
  advance 1
  skipBlanks

/-- Goes past a given text if it comes next. -/
def takes (text : List Char) : Reader Bool := do
  let cur ← get
  if text.isPrefixOf cur.rest then
    set { cur with rest := cur.rest.drop text.length }
    return true
  return false

/-- Goes past a given character; fails if another one comes next. -/
def expect (c : Char) : Reader Unit := do
  if (← peek) == c then advance 1 else failure

/-- The first character after blanks among those that follow the next one. Within a comment it is
the first one that is not blank. -/
def peekPastBlanks (inComment : Bool) : List Char → Option Char
  | [] => none
  | c :: rest =>
    if Unicode.whiteSpace.contains c then peekPastBlanks inComment rest
    else if !inComment && c == '#' then peekPastBlanks true rest
    else some c

/-- The character after the next one, past blanks where they are skipped. -/
def peekAfter : Reader (Option Char) := do
  let cur ← get
  let behind := cur.rest.drop 1
  if cur.extended then return (peekPastBlanks false behind).or behind.head?
  return behind.head?

/-- Takes characters of a kind, with the blanks after each. -/
def takeKind (kind : Char → Bool) : Nat → Reader (List Char)
  | 0 => return []
  | n + 1 => do
    match ← peek? with
    | some c =>
      if kind c then
        stepOver
        return c :: (← takeKind kind n)
      return []
    | none => return []

/-- Takes all characters of a kind that come next, with the blanks after each. -/
def takeAll (kind : Char → Bool) : Reader (List Char) := do
  takeKind kind (← get).rest.length

/-! ## Numbers and characters -/

/-- Whether a character is a hexadecimal digit of either case. -/
def isHexDigit (c : Char) : Bool := Unicode.isHexDigit c.toLower

/-- The character with a code point, unless there is none. -/
def ofCodePoint (n : Nat) : Reader Char :=
  if n.isValidChar then return Char.ofNat n else failure

/-- The character that hexadecimal digits name. -/
def ofHexDigits (digits : List Char) : Reader Char :=
  ofCodePoint (Unicode.hexNumber (digits.map Char.toLower))

/-- Reads a fixed number of hexadecimal digits, the first of which comes next. -/
def hexDigits : Nat → Reader (List Char)
  | 0 => return []
  | n + 1 => do
    let c ← peek
    if !isHexDigit c then failure
    if n == 0 then
      stepOver
      return [c]
    step
    return c :: (← hexDigits n)

/-- Reads the hexadecimal digits of a character after the letter that announces them: some number
of digits in braces, or as many as the letter asks for. -/
def hexLiteral (letter : Char) : Reader Literal := do
  step
  if (← peek) == '\x7b' then
    step
    let digits ← takeAll isHexDigit
    if digits.isEmpty then failure
    if (← peek) != '\x7d' then failure
    stepOver
    return ⟨← ofHexDigits digits, false⟩
  let count := if letter == 'x' then 2 else if letter == 'u' then 4 else 8
  return ⟨← ofHexDigits (← hexDigits count), letter == 'x'⟩

/-- Goes past blanks whether or not they are to be skipped. -/
def skipWhiteSpace : Reader Unit :=
  modify fun cur ↦ { cur with rest := cur.rest.dropWhile Unicode.whiteSpace.contains }

/-- The largest number in a repetition. -/
def maxCount : Nat := 4294967295

/-- Reads a decimal number with blanks around it. -/
def decimal : Reader Nat := do
  skipWhiteSpace
  let digits ← takeAll Char.isDigit
  skipWhiteSpace
  skipBlanks
  if digits.isEmpty then failure
  let n := digits.foldl (fun n c ↦ 10 * n + (c.toNat - '0'.toNat)) 0
  if n ≤ maxCount then return n else failure

/-! ## Escapes -/

/-- What a dot, an anchor, an escape or a plain character stands for. -/
inductive Primitive where
  | literal (l : Literal)
  | assertion (a : Assertion)
  | dot
  | letter (kind : LetterClass) (negated : Bool)
  | property (name : PropertyName) (negated : Bool)

/-- A plain character. -/
def plain (c : Char) : Primitive := .literal ⟨c, false⟩

/-- Splits a text before the first occurrence of another, which it drops. -/
def splitAt? (separator : List Char) : List Char → Option (List Char × List Char)
  | [] => none
  | c :: rest =>
    if separator.isPrefixOf (c :: rest) then some ([], (c :: rest).drop separator.length)
    else (splitAt? separator rest).map fun (a, b) ↦ (c :: a, b)

/-- The property that a text in braces names. -/
def propertyOf (text : List Char) : PropertyName :=
  match splitAt? ['!', '='] text with
  | some (p, v) => .valued p v false
  | none =>
    match splitAt? [':'] text with
    | some (p, v) => .valued p v true
    | none =>
      match splitAt? ['='] text with
      | some (p, v) => .valued p v true
      | none => .named text

/-- Reads the name of a property after the letter that announces it. -/
def property (negated : Bool) : Reader Primitive := do
  step
  let c ← peek
  if c == '\x7b' then
    step
    let name ← takeAll (· != '\x7d')
    expect '\x7d'
    return .property (propertyOf name) negated
  if c == '\\' then failure
  stepOver
  return .property (.named [c]) negated

/-- Reads what may follow the sign of a word boundary in braces: `none` if a count follows. -/
def boundaryName : Reader (Option Assertion) := do
  let before ← get
  let isNameChar (c : Char) := c.isAlpha || c == '-'
  step
  if !isNameChar (← peek) then
    set before
    return none
  let name ← takeAll isNameChar
  expect '\x7d'
  match String.ofList name with
  | "start" => return some .wordStart
  | "end" => return some .wordEnd
  | "start-half" => return some .wordStartHalf
  | "end-half" => return some .wordEndHalf
  | _ => failure

/-- Whether an escaped character stands for itself: ASCII other than letters, digits and angle
brackets. -/
def isEscapable (c : Char) : Bool :=
  c.toNat < 0x80 && !c.isAlphanum && c != '<' && c != '>'

/-- Reads an escape, from its backslash on. -/
def escape : Reader Primitive := do
  advance 1
  let c ← peek
  match c with
  | 'x' | 'u' | 'U' => return .literal (← hexLiteral c)
  | 'p' => property false
  | 'P' => property true
  | _ =>
    advance 1
    match c with
    | 'd' => return .letter .digit false
    | 'D' => return .letter .digit true
    | 's' => return .letter .space false
    | 'S' => return .letter .space true
    | 'w' => return .letter .word false
    | 'W' => return .letter .word true
    | 'a' => return plain '\x07'
    | 'f' => return plain '\x0c'
    | 't' => return plain '\t'
    | 'n' => return plain '\n'
    | 'r' => return plain '\r'
    | 'v' => return plain '\x0b'
    | 'A' => return .assertion .startText
    | 'z' => return .assertion .endText
    | 'b' =>
      if (← peek?) == some '\x7b' then return .assertion ((← boundaryName).getD .wordBoundary)
      return .assertion .wordBoundary
    | 'B' => return .assertion .notWordBoundary
    | '<' => return .assertion .wordStart
    | '>' => return .assertion .wordEnd
    | _ => if isEscapable c then return plain c else failure

/-! ## Bracketed classes -/

/-- The item that a primitive stands for in a class; anchors stand for none. -/
def Primitive.item : Primitive → Reader ClassItem
  | .literal l => return .literal l
  | .letter kind negated => return .letter kind negated
  | .property name negated => return .property name negated
  | .dot | .assertion _ => failure

/-- The end of a range that a primitive stands for. -/
def Primitive.bound : Primitive → Reader Literal
  | .literal l => return l
  | _ => failure

/-- Reads an escape or a plain character in a class. -/
def classPrimitive : Reader Primitive := do
  let c ← peek
  if c == '\\' then escape
  else
    advance 1
    return plain c

/-- Reads a range, or an item that begins no range. -/
def classRange : Reader ClassItem := do
  let first ← classPrimitive
  skipBlanks
  let behind ← peekAfter
  if (← peek) != '-' || behind == some ']' || behind == some '-' then first.item
  else
    step
    let last ← classPrimitive
    let first ← first.bound
    let last ← last.bound
    if first.char ≤ last.char then return .range first last else failure

/-- The ranges of the classes of ASCII characters. -/
def asciiClass? : String → Option (List (Nat × Nat))
  | "alnum" => some [(0x30, 0x39), (0x41, 0x5a), (0x61, 0x7a)]
  | "alpha" => some [(0x41, 0x5a), (0x61, 0x7a)]
  | "ascii" => some [(0x00, 0x7f)]
  | "blank" => some [(0x09, 0x09), (0x20, 0x20)]
  | "cntrl" => some [(0x00, 0x1f), (0x7f, 0x7f)]
  | "digit" => some [(0x30, 0x39)]
  | "graph" => some [(0x21, 0x7e)]
  | "lower" => some [(0x61, 0x7a)]
  | "print" => some [(0x20, 0x7e)]
  | "punct" => some [(0x21, 0x2f), (0x3a, 0x40), (0x5b, 0x60), (0x7b, 0x7e)]
  | "space" => some [(0x09, 0x0d), (0x20, 0x20)]
  | "upper" => some [(0x41, 0x5a)]
  | "word" => some [(0x30, 0x39), (0x41, 0x5a), (0x5f, 0x5f), (0x61, 0x7a)]
  | "xdigit" => some [(0x30, 0x39), (0x41, 0x46), (0x61, 0x66)]
  | _ => none

/-- Reads a class written `[:name:]` or `[:^name:]`; where none is written, nothing is read and a
nested class follows. -/
def asciiItem? : Reader (Option ClassItem) := do
  let cur ← get
  match cur.rest with
  | '[' :: ':' :: rest =>
    let (negated, rest) := match rest with
      | '^' :: rest => (true, rest)
      | rest => (false, rest)
    let name := rest.takeWhile (· != ':')
    match rest.drop name.length, asciiClass? (String.ofList name) with
    | ':' :: ']' :: rest, some ranges =>
      set { cur with rest := rest }
      return some (.ascii ranges negated)
    | _, _ => return none
  | _ => return none

/-- Reads the dashes at the front of a class, which stand for themselves. -/
def leadingDashes : Nat → Reader (List ClassItem)
  | 0 => return []
  | n + 1 => do
    if (← peek) == '-' then
      step
      return .literal ⟨'-', false⟩ :: (← leadingDashes n)
    return []

/-- Reads an opening bracket, the sign of a negation, and the dashes or the bracket after them that
stand for themselves. -/
def openClass : Reader (Bool × List ClassItem) := do
  step
  let negated := (← peek) == '^'
  if negated then step
  let dashes ← leadingDashes (← get).rest.length
  if dashes.isEmpty && (← peek) == ']' then
    step
    return (negated, [.literal ⟨']', false⟩])
  return (negated, dashes)

/-- The operation that the next two characters write. -/
def classOp? : Reader (Option ClassOp) := do
  match (← get).rest with
  | '&' :: '&' :: _ => return some .intersection
  | '-' :: '-' :: _ => return some .difference
  | '~' :: '~' :: _ => return some .symmetricDifference
  | _ => return none

/-- The class that an operation whose right-hand side was still missing makes of it. -/
def complete (pending : Option (ClassOp × ClassBody)) (rhs : ClassBody) : ClassBody :=
  match pending with
  | some (op, lhs) => .operation op lhs rhs
  | none => rhs

/-- Reads a class up to and with its closing bracket. Operations bind equally and to the left. -/
def classBody : Nat → Option (ClassOp × ClassBody) → List ClassItem → Reader ClassBody
  | 0, _, _ => failure
  | fuel + 1, pending, items => do
    skipBlanks
    match ← peek with
    | '[' =>
      match ← asciiItem? with
      | some item => classBody fuel pending (items ++ [item])
      | none =>
        let (negated, first) ← openClass
        let body ← classBody fuel none first
        classBody fuel pending (items ++ [.bracketed negated body])
    | ']' =>
      advance 1
      return complete pending (.union items)
    | _ =>
      match ← classOp? with
      | some op =>
        advance 2
        classBody fuel (some (op, complete pending (.union items))) []
      | none =>
        let item ← classRange
        classBody fuel pending (items ++ [item])

/-! ## Groups -/

/-- Whether a character may stand in the name of a group. -/
def isNameChar (first : Bool) (c : Char) : Bool :=
  if first then c == '_' || Unicode.Recent.alphabetic.contains c
  else c == '_' || c == '.' || c == '[' || c == ']' || Unicode.Recent.alphanumeric.contains c

/-- Reads the name of a group and the bracket after it. No two groups have one name. -/
def groupName : Reader Unit := do
  let cur ← get
  let name := cur.rest.takeWhile (· != '>')
  let isName := match name with
    | [] => false
    | c :: cs => isNameChar true c && cs.all (isNameChar false)
  if !isName || cur.names.contains name then failure
  set { cur with rest := cur.rest.drop name.length, names := name :: cur.names }
  expect '>'

/-- The flag that a letter stands for. -/
def flagOf? : Char → Option Flag
  | 'i' => some .caseInsensitive
  | 'm' => some .multiLine
  | 's' => some .dotMatchesNewLine
  | 'U' => some .swapGreed
  | 'u' => some .unicode
  | 'R' => some .carriageReturn
  | 'x' => some .ignoreWhiteSpace
  | _ => none

/-- Reads the letters of a flag group up to the sign that ends it. No letter occurs twice, and a
letter follows the sign that switches flags off. -/
def flagItems : Nat → List FlagItem → Reader (List FlagItem)
  | 0, _ => failure
  | fuel + 1, items => do
    let c ← peek
    if c == ':' || c == ')' then
      if items.getLast? == some .negation then failure
      return items
    let item ← if c == '-' then pure FlagItem.negation else match flagOf? c with
      | some f => pure (.flag f)
      | none => failure
    if items.contains item then failure
    advance 1
    flagItems fuel (items ++ [item])

/-- What an opening parenthesis begins. -/
inductive Opening where
  | group (kind : GroupKind)
  | flags (items : List FlagItem)

/-- The number of the next capturing group. -/
def nextGroup : Reader GroupKind := do
  let cur ← get
  set { cur with groupCount := cur.groupCount + 1 }
  return .capturing (cur.groupCount + 1)

/-- Reads an opening parenthesis and what tells the kind of the group. Conditions on the text
around a match are refused. -/
def opening : Reader Opening := do
  advance 1
  skipBlanks
  let rest := (← get).rest
  if [['?', '='], ['?', '!'], ['?', '<', '='], ['?', '<', '!']].any (·.isPrefixOf rest) then failure
  if (← takes ['?', 'P', '<']) || (← takes ['?', '<']) then
    let kind ← nextGroup
    groupName
    return .group kind
  if ← takes ['?'] then
    let items ← flagItems ((← get).rest.length + 1) []
    let last ← peek
    advance 1
    if last == ':' then return .group (.flagged items)
    if items.isEmpty then failure
    return .flags items
  return .group (← nextGroup)

/-! ## Expressions -/

/-- The expression of parts that follow each other, given in reverse. -/
def concatOf : List Syntax → Syntax
  | [] => .empty
  | [part] => part
  | parts => .concat parts.reverse

/-- The expression of branches, given in reverse. -/
def alternationOf : List Syntax → Syntax
  | [branch] => branch
  | branches => .alternation branches.reverse

/-- Reads the sign of a reluctant repetition. -/
def greedy : Reader Bool := do
  return !(← takes ['?'])

/-- Reads a count in braces: how often at least, how often at most, and whether it is greedy. -/
def counts : Reader (Nat × Option Nat × Bool) := do
  step
  let least ← decimal
  let most ← if (← peek) == ',' then do
      step
      if (← peek) == '\x7d' then pure none else some <$> decimal
    else pure (some least)
  if (← peek) != '\x7d' then failure
  stepOver
  let greedy ← greedy
  if most.any (· < least) then failure
  return (least, most, greedy)

/-- Puts a repetition around the last part, which must not be empty or a flag group. -/
def repeatLast (least : Nat) (most : Option Nat) (greedy : Bool) :
    List Syntax → Reader (List Syntax)
  | [] | .empty :: _ | .flags _ :: _ => failure
  | part :: parts => return .repetition least most greedy part :: parts

/-- Reads branches until a closing parenthesis or the end. The branches and the parts of the
current branch that were read are given in reverse. -/
def branches : Nat → List Syntax → List Syntax → Reader Syntax
  | 0, _, _ => failure
  | fuel + 1, done, parts => do
    skipBlanks
    match ← peek? with
    | none | some ')' => return alternationOf (concatOf parts :: done)
    | some '|' =>
      advance 1
      branches fuel (concatOf parts :: done) []
    | some '(' =>
      let extended := (← get).extended
      match ← opening with
      | .flags items =>
        let on := (flagState items .ignoreWhiteSpace).getD extended
        modify fun cur ↦ { cur with extended := on }
        branches fuel done (.flags items :: parts)
      | .group kind =>
        let on := match kind with
          | .flagged items => (flagState items .ignoreWhiteSpace).getD extended
          | .capturing _ => extended
        modify fun cur ↦ { cur with extended := on }
        let body ← branches fuel [] []
        expect ')'
        modify fun cur ↦ { cur with extended := extended }
        branches fuel done (.group kind body :: parts)
    | some '[' =>
      let (negated, first) ← openClass
      let body ← classBody fuel none first
      branches fuel done (.bracketed negated body :: parts)
    | some '?' =>
      advance 1
      branches fuel done (← repeatLast 0 (some 1) (← greedy) parts)
    | some '*' =>
      advance 1
      branches fuel done (← repeatLast 0 none (← greedy) parts)
    | some '+' =>
      advance 1
      branches fuel done (← repeatLast 1 none (← greedy) parts)
    | some '\x7b' =>
      let (least, most, greedy) ← counts
      branches fuel done (← repeatLast least most greedy parts)
    | some '.' =>
      advance 1
      branches fuel done (.dot :: parts)
    | some '^' =>
      advance 1
      branches fuel done (.assertion .startLine :: parts)
    | some '$' =>
      advance 1
      branches fuel done (.assertion .endLine :: parts)
    | some '\\' =>
      let part := match ← escape with
        | .literal l => Syntax.literal l
        | .assertion a => .assertion a
        | .dot => .dot
        | .letter kind negated => .letter kind negated
        | .property name negated => .property name negated
      branches fuel done (part :: parts)
    | some c =>
      advance 1
      branches fuel done (.literal ⟨c, false⟩ :: parts)

end Reader

/-- The expression that a text writes, if it writes one that does not nest too deeply. -/
def Syntax.ofString? (text : String) : Option Syntax := do
  let chars := text.toList
  let (e, cur) ← (Reader.branches (2 * chars.length + 2) [] []).run ⟨chars, 0, [], false⟩
  if cur.rest.isEmpty && e.nesting ≤ maxNesting then some e else none

end Highlighter.Regex
