import Highlighter.Style.Basic

/-!
# Themes

A theme assigns styles to scopes. A scope is a list of segments, and a selector matches the scopes
that begin with its segments. Where several selectors match, the most specific one wins, or else
the first one, depending on the policy.
-/

namespace Highlighter

/-! ## Selectors -/

/-- The segments of a scope. -/
def scopeSegments (scope : String) : List String := Words.pieces '.' scope

/-- The beginning of a scope, in which `*` stands for any one segment. -/
structure Selector where
  segments : List String
deriving DecidableEq, Repr

namespace Selector

/-- Reads a selector, with white space around it. -/
def ofString (text : String) : Selector := ⟨scopeSegments (Words.trim text)⟩

/-- The text of a selector. -/
def text (s : Selector) : String := ".".intercalate s.segments

/-- How specifically segments match those of a scope: the number of segments that are not `*`. -/
def specificityOf : List String → List String → Option Nat
  | [], _ => some 0
  | _ :: _, [] => none
  | s :: ss, t :: ts =>
    if s = "*" then specificityOf ss ts
    else if s = t then (specificityOf ss ts).map (· + 1)
    else none

/-- How specifically a selector matches a scope, if it does. -/
def specificity (s : Selector) (scope : List String) : Option Nat :=
  specificityOf s.segments scope

end Selector

/-! ## Themes -/

/-- A selector and the style that it assigns. -/
structure ThemeRule where
  selector : Selector
  style : Style
deriving DecidableEq

/-- A theme. -/
structure Theme where
  name : Option String := none
  /-- The style of text that no rule is for. -/
  base : Style := .empty
  rules : List ThemeRule := []
deriving DecidableEq, Inhabited

/-- Which of several matching rules wins. -/
inductive SelectorPolicy where
  /-- The most specific one, and the last of these. -/
  | bestMatch
  /-- The first one. -/
  | firstMatch
deriving DecidableEq, Repr

/-- A style and how specifically it was assigned. -/
structure Resolved where
  style : Style
  specificity : Int
deriving DecidableEq

namespace Theme

/-- Adds a rule. -/
def withRule (t : Theme) (selector : String) (style : Style) : Theme :=
  { t with rules := t.rules ++ [⟨.ofString selector, style⟩] }

/-- The base style, which is less specific than any rule. -/
def baseStyle (t : Theme) : Resolved := ⟨t.base, -1⟩

/-- The styles of the rules that match a scope, in the order of the rules. The empty scope is
matched by none. -/
def matching (t : Theme) (scope : String) : List Resolved :=
  if scope.isEmpty then []
  else t.rules.filterMap fun r ↦
    (r.selector.specificity (scopeSegments scope)).map fun n ↦ ⟨r.style, n⟩

/-- The more specific of two styles, and the second one of equals. -/
def better (best : Option Resolved) (r : Resolved) : Option Resolved :=
  match best with
  | some b => if b.specificity ≤ r.specificity then some r else some b
  | none => some r

/-- The style of a scope. -/
def resolve (t : Theme) (policy : SelectorPolicy) (scope : String) : Resolved :=
  let found := match policy with
    | .firstMatch => (t.matching scope).head?
    | .bestMatch => (t.matching scope).foldl better none
  found.getD t.baseStyle

end Theme

end Highlighter
