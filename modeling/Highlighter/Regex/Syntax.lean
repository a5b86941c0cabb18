/-!
# Syntax of regular expressions

The tree that a written expression stands for, before flags and classes are resolved. It keeps the
nesting of the text, because expressions that nest too deeply are refused.
-/

namespace Highlighter.Regex

/-- A switch that changes how the expression after it is read. -/
inductive Flag where
  | caseInsensitive
  | multiLine
  | dotMatchesNewLine
  | swapGreed
  | unicode
  | carriageReturn
  | ignoreWhiteSpace
deriving DecidableEq, Repr

/-- The letters of a flag group: a flag, or the sign after which flags are switched off. -/
inductive FlagItem where
  | flag (f : Flag)
  | negation
deriving DecidableEq, Repr

/-- What a list of flag letters sets a flag to, if it mentions the flag. -/
def flagState (items : List FlagItem) (f : Flag) : Option Bool :=
  if items.contains (.flag f) then
    some (!(items.takeWhile (· != .flag f)).contains .negation)
  else none

/-- A single character. -/
structure Literal where
  /-- The character. -/
  char : Char
  /-- Whether it is written as two hexadecimal digits, which names a byte where the expression is
  about bytes. -/
  isByte : Bool
deriving DecidableEq, Repr

/-- A condition on a position. -/
inductive Assertion where
  | startLine
  | endLine
  | startText
  | endText
  | wordBoundary
  | notWordBoundary
  | wordStart
  | wordEnd
  | wordStartHalf
  | wordEndHalf
deriving DecidableEq, Repr

/-- The classes with a one-letter name. -/
inductive LetterClass where
  | digit
  | space
  | word
deriving DecidableEq, Repr

/-- A class named by a property of characters. -/
inductive PropertyName where
  /-- A single name. -/
  | named (name : List Char)
  /-- A property and its value, or all other values. -/
  | valued (property value : List Char) (isEqual : Bool)
deriving DecidableEq, Repr

/-- How two classes are combined. -/
inductive ClassOp where
  | intersection
  | difference
  | symmetricDifference
deriving DecidableEq, Repr

mutual

/-- What stands in a bracketed class. -/
inductive ClassItem where
  | literal (l : Literal)
  | range (first last : Literal)
  /-- A class of ASCII characters, as its ranges. -/
  | ascii (ranges : List (Nat × Nat)) (negated : Bool)
  | letter (kind : LetterClass) (negated : Bool)
  | property (name : PropertyName) (negated : Bool)
  | bracketed (negated : Bool) (body : ClassBody)

/-- The contents of a bracketed class. -/
inductive ClassBody where
  | union (items : List ClassItem)
  | operation (op : ClassOp) (lhs rhs : ClassBody)

end

/-- How a group is written. -/
inductive GroupKind where
  | capturing (index : Nat)
  | flagged (items : List FlagItem)
deriving DecidableEq, Repr

/-- A written expression. -/
inductive Syntax where
  | empty
  | flags (items : List FlagItem)
  | literal (l : Literal)
  | dot
  | assertion (a : Assertion)
  | letter (kind : LetterClass) (negated : Bool)
  | property (name : PropertyName) (negated : Bool)
  | bracketed (negated : Bool) (body : ClassBody)
  /-- At least `least` and, where there is a `most`, at most that many times. -/
  | repetition (least : Nat) (most : Option Nat) (greedy : Bool) (body : Syntax)
  | group (kind : GroupKind) (body : Syntax)
  | concat (parts : List Syntax)
  | alternation (branches : List Syntax)

/-! ## Nesting -/

mutual

/-- How deeply the brackets and operations of an item nest. -/
def ClassItem.nesting : ClassItem → Nat
  | .bracketed _ body => body.nesting + 1
  | _ => 0

/-- How deeply the contents of a class nest. A single item stands for itself. -/
def ClassBody.nesting : ClassBody → Nat
  | .union [] => 0
  | .union [item] => item.nesting
  | .union (item :: next :: items) => max item.nesting (itemsNesting (next :: items)) + 1
  | .operation _ lhs rhs => max lhs.nesting rhs.nesting + 1

/-- How deeply the deepest of some items nests. -/
def itemsNesting : List ClassItem → Nat
  | [] => 0
  | item :: items => max item.nesting (itemsNesting items)

end

mutual

/-- How deeply an expression nests. -/
def Syntax.nesting : Syntax → Nat
  | .bracketed _ body => body.nesting + 1
  | .repetition _ _ _ body => body.nesting + 1
  | .group _ body => body.nesting + 1
  | .concat parts => partsNesting parts + 1
  | .alternation branches => partsNesting branches + 1
  | _ => 0

/-- How deeply the deepest of some expressions nests. -/
def partsNesting : List Syntax → Nat
  | [] => 0
  | part :: parts => max part.nesting (partsNesting parts)

end

/-- The deepest nesting that is accepted. -/
def maxNesting : Nat := 250

end Highlighter.Regex
