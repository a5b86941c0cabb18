import Highlighter.Regex.Expr
import Highlighter.Regex.Syntax
import Highlighter.Unicode.ClassName

/-!
# Flags and what they make of a syntax tree

Flags and class names are spelling: given the flags in force, a syntax tree stands for an
expression. It stands for none where it names an unknown class, or could match part of a character.
-/

namespace Highlighter.Regex

/-- The flags in force, apart from the one that concerns reading. -/
structure Mode where
  caseInsensitive : Bool
  multiLine : Bool
  dotMatchesNewLine : Bool
  swapGreed : Bool
  unicode : Bool
  carriageReturn : Bool
deriving DecidableEq, Repr

namespace Mode

/-- The flags at the start: anchors match at lines, and classes know all characters. -/
def initial : Mode := ⟨false, true, false, false, true, false⟩

/-- The flags after a list of flag letters. -/
def set (m : Mode) (items : List FlagItem) : Mode where
  caseInsensitive := (flagState items .caseInsensitive).getD m.caseInsensitive
  multiLine := (flagState items .multiLine).getD m.multiLine
  dotMatchesNewLine := (flagState items .dotMatchesNewLine).getD m.dotMatchesNewLine
  swapGreed := (flagState items .swapGreed).getD m.swapGreed
  unicode := (flagState items .unicode).getD m.unicode
  carriageReturn := (flagState items .carriageReturn).getD m.carriageReturn

/-! ## Classes -/

/-- Adds case variants to a set where case is ignored. -/
def fold (m : Mode) (s : CharSet) : CharSet :=
  if !m.caseInsensitive then s
  else if m.unicode then Unicode.caseClosure s
  else Unicode.asciiCaseClosure s

/-- Adds case variants and then negates. Without Unicode a set beyond ASCII is one of bytes, and a
byte is no character. -/
def finish (m : Mode) (negated : Bool) (s : CharSet) : Option CharSet :=
  let s := m.fold s
  let s := if negated then s.complement else s
  if m.unicode || s.isBelow 0x80 then some s else none

/-- The character of a literal, unless it is a byte that is no character. -/
def character (m : Mode) (l : Literal) : Option Char :=
  if m.unicode || !l.isByte || l.char.toNat < 0x80 then some l.char else none

/-- The character of a literal in a class. Without Unicode it must be one of ASCII. -/
def classCharacter (m : Mode) (l : Literal) : Option Char :=
  if m.unicode || l.char.toNat < 0x80 then some l.char else none

/-- The set of a class with a one-letter name. -/
def letterClass (m : Mode) (kind : LetterClass) (negated : Bool) : Option CharSet :=
  let s := match kind, m.unicode with
    | .digit, true => Unicode.decimalDigits
    | .space, true => Unicode.whiteSpace
    | .word, true => Unicode.wordCharacters
    | .digit, false => .range 0x30 0x39
    | .space, false => .ofRanges [(0x09, 0x0d), (0x20, 0x20)]
    | .word, false => .ofRanges [(0x30, 0x39), (0x41, 0x5a), (0x5f, 0x5f), (0x61, 0x7a)]
  let s := if negated then s.complement else s
  if m.unicode || s.isBelow 0x80 then some s else none

/-- The set of a class named by a property. -/
def propertyClass (m : Mode) (name : PropertyName) (negated : Bool) : Option CharSet :=
  if !m.unicode then none
  else match name with
    | .named n => (Unicode.namedSet? n).bind (m.finish negated)
    | .valued p v isEqual => (Unicode.valueSet? p v).bind (m.finish (negated == isEqual))

mutual

/-- The set of an item of a class. -/
def item (m : Mode) : ClassItem → Option CharSet
  | .literal l => (m.classCharacter l).map .single
  | .range first last => do
    let a ← m.classCharacter first
    let b ← m.classCharacter last
    return .range a.toNat b.toNat
  | .ascii ranges negated => m.finish negated (.ofRanges ranges)
  | .letter kind negated => m.letterClass kind negated
  | .property name negated => m.propertyClass name negated
  | .bracketed negated body => do m.finish negated (← m.body body)

/-- The set of the contents of a class. Operations see case variants. -/
def body (m : Mode) : ClassBody → Option CharSet
  | .union items => m.items items
  | .operation op lhs rhs => do
    let s := m.fold (← m.body lhs)
    let t := m.fold (← m.body rhs)
    match op with
    | .intersection => return s.inter t
    | .difference => return s.diff t
    | .symmetricDifference => return s.symmDiff t

/-- The set of what is in one of some items. -/
def items (m : Mode) : List ClassItem → Option CharSet
  | [] => some .empty
  | i :: is => do return (← m.item i).union (← m.items is)

end

/-! ## Other parts -/

/-- The set that a dot stands for. -/
def dot (m : Mode) : Option CharSet :=
  if !m.unicode then none
  else if m.dotMatchesNewLine then some .all
  else if m.carriageReturn then
    some (CharSet.ofRanges [(0x0a, 0x0a), (0x0d, 0x0d)]).complement
  else some (CharSet.range 0x0a 0x0a).complement

/-- The condition that an assertion stands for. -/
def assertion (m : Mode) : Assertion → Look
  | .startLine =>
    if m.multiLine then if m.carriageReturn then .anyLineStart else .lineStart else .textStart
  | .endLine =>
    if m.multiLine then if m.carriageReturn then .anyLineEnd else .lineEnd else .textEnd
  | .startText => .textStart
  | .endText => .textEnd
  | .wordBoundary => .boundary !m.unicode
  | .notWordBoundary => .noBoundary !m.unicode
  | .wordStart => .wordStart !m.unicode
  | .wordEnd => .wordEnd !m.unicode
  | .wordStartHalf => .wordStartHalf !m.unicode
  | .wordEndHalf => .wordEndHalf !m.unicode

end Mode

/-! ## Syntax trees -/

mutual

/-- The expression of a syntax tree under given flags, and the flags after it. Flags that are set
in a branch hold in the later ones too, up to the end of the group. -/
def Syntax.resolve : Syntax → Mode → Option (Expr × Mode)
  | .empty, m => some (.empty, m)
  | .flags items, m => some (.empty, m.set items)
  | .literal l, m => do return (.ofSet (m.fold (.single (← m.character l))), m)
  | .dot, m => do return (.ofSet (← m.dot), m)
  | .assertion a, m => some (.look (m.assertion a), m)
  | .letter kind negated, m => do return (.ofSet (← m.letterClass kind negated), m)
  | .property name negated, m => do return (.ofSet (← m.propertyClass name negated), m)
  | .bracketed negated body, m => do return (.ofSet (← m.finish negated (← m.body body)), m)
  | .repetition least most greedy body, m => do
    let (e, m) ← body.resolve m
    return (.repeated least most (greedy != m.swapGreed) e, m)
  | .group (.capturing index) body, m => do return (.group index (← body.resolve m).1, m)
  | .group (.flagged items) body, m => do return ((← body.resolve (m.set items)).1, m)
  | .concat parts, m => do let (es, m) ← resolveAll parts m; return (.ofParts es, m)
  | .alternation branches, m => do let (es, m) ← resolveAll branches m; return (.ofBranches es, m)

/-- The expressions of some syntax trees, each under the flags after the one before it. -/
def resolveAll : List Syntax → Mode → Option (List Expr × Mode)
  | [], m => some ([], m)
  | s :: rest, m => do
    let (e, m) ← s.resolve m
    let (es, m) ← resolveAll rest m
    return (e :: es, m)

end

end Highlighter.Regex
