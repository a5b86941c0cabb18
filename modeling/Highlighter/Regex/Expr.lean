import Highlighter.CharSet

/-!
# Expressions

An expression says how sets of characters, conditions on positions, groups and repetitions are put
together. Expressions are built by the functions of this module, which keep them in a normal form:
what follows each other is flat and has its neighbouring characters joined, a choice is flat too and
has what all its branches begin with in front of it, and a choice between characters is a set.

The form does not change what can be matched. It decides how much room an expression takes up, and
which of several ways through a loop is found first when an iteration may match the empty text.
-/

namespace Highlighter.Regex

/-- A condition on a position between two characters. -/
inductive Look where
  | textStart
  | textEnd
  | lineStart
  | lineEnd
  /-- The start of a line that a carriage return, a newline or both in this order end. -/
  | anyLineStart
  | anyLineEnd
  | boundary (ascii : Bool)
  | noBoundary (ascii : Bool)
  | wordStart (ascii : Bool)
  | wordEnd (ascii : Bool)
  | wordStartHalf (ascii : Bool)
  | wordEndHalf (ascii : Bool)
deriving DecidableEq, Repr

/-- A regular expression. -/
inductive Expr where
  /-- Matches the empty text. -/
  | empty
  /-- Matches some characters after one another. -/
  | text (chars : List Char)
  /-- Matches one character of a set. -/
  | chars (set : CharSet)
  /-- Matches the empty text where a condition holds. -/
  | look (l : Look)
  /-- Records what its body matches as a group. -/
  | group (index : Nat) (body : Expr)
  /-- Matches its parts after one another. -/
  | seq (parts : List Expr)
  /-- Matches one of its branches and prefers the earlier ones. -/
  | alt (branches : List Expr)
  /-- Matches its body at least `least` and at most `most` times, as often as possible if greedy
  and as seldom as possible otherwise. -/
  | rep (least : Nat) (most : Option Nat) (greedy : Bool) (body : Expr)

namespace Expr

/-! ## Comparing -/

mutual

/-- Whether two expressions are the same. -/
def same : Expr → Expr → Bool
  | .empty, .empty => true
  | .text s, .text t => s == t
  | .chars s, .chars t => s == t
  | .look l, .look k => l == k
  | .group i a, .group j b => i == j && a.same b
  | .seq as, .seq bs => sameAll as bs
  | .alt as, .alt bs => sameAll as bs
  | .rep m n g a, .rep m' n' g' b => m == m' && n == n' && g == g' && a.same b
  | _, _ => false

/-- Whether two lists of expressions are the same. -/
def sameAll : List Expr → List Expr → Bool
  | [], [] => true
  | a :: as, b :: bs => a.same b && sameAll as bs
  | _, _ => false

end

/-- What two lists of expressions both begin with. -/
def sharedFront : List Expr → List Expr → List Expr
  | a :: as, b :: bs => if a.same b then a :: sharedFront as bs else []
  | _, _ => []

/-! ## Sets -/

/-- The expression that matches one character of a set. -/
def ofSet (s : CharSet) : Expr :=
  match s.ranges.toList with
  | [(a, b)] => if a = b then .text [Char.ofNat a] else .chars s
  | _ => .chars s

/-! ## Sequences -/

/-- What an expression matches after one another. -/
def parts : Expr → List Expr
  | .empty => []
  | .seq parts => parts
  | e => [e]

/-- Joins neighbouring characters. -/
def joinTexts (es : List Expr) : List Expr :=
  es.foldr (fun e joined ↦
    match e, joined with
    | .text s, .text t :: rest => .text (s ++ t) :: rest
    | e, rest => e :: rest) []

/-- The expression that matches some expressions after one another. -/
def ofParts (es : List Expr) : Expr :=
  match joinTexts (es.flatMap parts) with
  | [] => .empty
  | [e] => e
  | es => .seq es

/-! ## Choices -/

/-- The branches that an expression chooses from. -/
def branches : Expr → List Expr
  | .alt branches => branches
  | e => [e]

/-- The character of an expression that matches no more than one. -/
def char? : Expr → Option Char
  | .text [c] => some c
  | _ => none

/-- The set of an expression that is one. -/
def set? : Expr → Option CharSet
  | .chars s => some s
  | _ => none

/-- The set that a choice between characters, or one between sets, amounts to. -/
def mergedSet? (branches : List Expr) : Option CharSet :=
  match branches.mapM char? with
  | some cs => some (.ofRanges (cs.map fun c ↦ (c.toNat, c.toNat)))
  | none => (branches.mapM set?).map (·.foldl .union .empty)

/-- The expression that matches one of some branches, of which none is a choice. -/
def choose : List Expr → Expr
  | [] => .chars .empty
  | [e] => e
  | branches => ((mergedSet? branches).map ofSet).getD (.alt branches)

/-- What the first branch matches after one another, if all branches are sequences and begin with
it, and none of it otherwise. -/
def sharedParts : List Expr → List Expr
  | .seq parts :: rest =>
    rest.foldl (fun shared e ↦
      match e with
      | .seq parts => sharedFront shared parts
      | _ => []) parts
  | _ => []

/-- The expression that matches one of some expressions. What all branches begin with is matched
before one of them is chosen. -/
def ofBranches (es : List Expr) : Expr :=
  match choose (es.flatMap branches) with
  | .alt branches =>
    let shared := sharedParts branches
    if shared.isEmpty then .alt branches
    else
      let rests := branches.map fun e ↦ ofParts (e.parts.drop shared.length)
      ofParts (shared ++ [choose (rests.flatMap Expr.branches)])
  | e => e

/-! ## Repetitions -/

mutual

/-- Whether an expression matches the empty text only. -/
def onlyEmpty : Expr → Bool
  | .empty | .look _ => true
  | .text _ | .chars _ => false
  | .group _ body => body.onlyEmpty
  | .seq parts => allOnlyEmpty parts
  | .alt branches => allOnlyEmpty branches
  | .rep _ most _ body => most == some 0 || body.onlyEmpty

/-- Whether some expressions match the empty text only. -/
def allOnlyEmpty : List Expr → Bool
  | [] => true
  | e :: es => e.onlyEmpty && allOnlyEmpty es

end

/-- Repeats an expression. What is repeated no times matches the empty text, and repeating what is
empty once is enough. -/
def repeated (least : Nat) (most : Option Nat) (greedy : Bool) (body : Expr) : Expr :=
  let least' := if body.onlyEmpty then min least 1 else least
  let most' := if body.onlyEmpty then some (min (most.getD 1) 1) else most
  if most' == some 0 then .empty
  else if least' == 1 && most' == some 1 then body
  else .rep least' most' greedy body

/-! ## Measures -/

mutual

/-- The least number of characters that an expression matches, if it can match at all. -/
def leastLength : Expr → Option Nat
  | .empty | .look _ => some 0
  | .text s => some s.length
  | .chars s => if s.ranges.isEmpty then none else some 1
  | .group _ body => body.leastLength
  | .seq parts => totalLength parts
  | .alt branches => shortest branches
  | .rep least _ _ body => body.leastLength.map (least * ·)

/-- The least number of characters of parts that follow each other. -/
def totalLength : List Expr → Option Nat
  | [] => some 0
  | e :: es => do return (← e.leastLength) + (← totalLength es)

/-- The least number of characters of a branch, if all branches can match. -/
def shortest : List Expr → Option Nat
  | [] => none
  | [e] => e.leastLength
  | e :: e' :: es => do return min (← e.leastLength) (← shortest (e' :: es))

end

/-- Whether an expression takes at least one character whenever it matches. -/
def consumes (e : Expr) : Bool := e.leastLength.any (0 < ·)

mutual

/-- The largest number of a group in an expression. -/
def groupCount : Expr → Nat
  | .empty | .text _ | .chars _ | .look _ => 0
  | .group index body => max index body.groupCount
  | .seq parts => largestGroup parts
  | .alt branches => largestGroup branches
  | .rep _ _ _ body => body.groupCount

/-- The largest number of a group in some expressions. -/
def largestGroup : List Expr → Nat
  | [] => 0
  | e :: es => max e.groupCount (largestGroup es)

end

end Expr

end Highlighter.Regex
