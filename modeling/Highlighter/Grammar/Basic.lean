import Highlighter.SortedMap

/-!
# Grammars

A grammar is a tree of patterns and a repository of named ones. What a pattern says about itself is
its `Rule`; the pattern adds the patterns below it and what it assigns to capture groups. A rule is
kept as it was written, so it may set too much or too little to be applied. `Rule.strategy` tells
how a rule is applied, or what is wrong with it.
-/

namespace Highlighter

/-! ## Errors -/

/-- Why a grammar cannot be used. -/
inductive GrammarError where
  /-- An expression does not compile. -/
  | invalidRegex (source : String)
  /-- A rule begins a block and does not end it. -/
  | missingEnd (begins : String)
  /-- A rule ends a block and does not begin it. -/
  | missingBegin (ends : String)
  /-- A rule is to be applied in more than one way. -/
  | conflictingStrategies (rule : String)
deriving DecidableEq, Repr

/-- The text of an error. -/
def GrammarError.message : GrammarError → String
  | invalidRegex source => "invalid regex `" ++ source ++ "`"
  | missingEnd begins => "rule with begin `" ++ begins ++ "` has no end pattern"
  | missingBegin ends => "rule with end `" ++ ends ++ "` has no begin pattern"
  | conflictingStrategies rule =>
    "rule `" ++ rule ++ "` sets more than one of match, begin/end and include"

/-! ## Rules -/

/-- What an `include` refers to. -/
inductive RuleRef where
  /-- An entry of the repository, written `#name` or as a bare name. -/
  | repository (name : String)
  /-- The patterns of the whole grammar, written `$self` or `$base`. -/
  | self
  /-- Another grammar. -/
  | external (scope : String)
deriving DecidableEq, Repr

/-- Reads the target of an `include`. A bare name has neither a dot nor a number sign. -/
def RuleRef.ofString (target : String) : RuleRef :=
  if target = "$self" ∨ target = "$base" then .self
  else match target.toList with
    | '#' :: name => .repository (String.ofList name)
    | chars =>
      if chars.contains '.' || chars.contains '#' then .external target else .repository target

/-- How a rule is applied to a region. -/
inductive Strategy where
  /-- Tags the matches of an expression. -/
  | single (source : String)
  /-- Tags what an opening and a closing match enclose. -/
  | block (begins ends : String)
  /-- Applies what it refers to. -/
  | reference (target : RuleRef)
  /-- Applies the patterns below it. -/
  | group
deriving DecidableEq, Repr

/-- The expressions that a rule needs to be applied. -/
def Strategy.sources : Strategy → List String
  | single source => [source]
  | block begins ends => [begins, ends]
  | reference _ | group => []

/-- What a pattern says about itself, as written. -/
structure Rule where
  /-- The scope of what is matched. -/
  name : Option String := none
  /-- The scope of the interior of a block. -/
  contentName : Option String := none
  /-- The expression of a single match. -/
  regex : Option String := none
  /-- The expression that opens a block. -/
  beginRegex : Option String := none
  /-- The expression that closes a block. -/
  endRegex : Option String := none
  /-- What is included. -/
  target : Option String := none
  /-- A number that is not zero if the rule and what is below it is left out. -/
  disabledNumber : UInt8 := 0
  comment : Option String := none
deriving DecidableEq, Repr, Inhabited

namespace Rule

/-- Whether a rule and what is below it is left out. -/
def isDisabled (r : Rule) : Bool := r.disabledNumber != 0

/-- The expressions of a rule. -/
def regexes (r : Rule) : List String :=
  [r.regex, r.beginRegex, r.endRegex].filterMap id

/-- A label for a rule: its name, its comment, or the first thing it sets. -/
def describe (r : Rule) : String :=
  ([r.name, r.comment, r.regex, r.beginRegex, r.endRegex, r.target].filterMap id).headD "<group>"

/-- The block of a rule. -/
def block? (r : Rule) : Except GrammarError (Option Strategy) :=
  match r.beginRegex, r.endRegex with
  | some b, some e => .ok (some (.block b e))
  | some b, none => .error (.missingEnd b)
  | none, some e => .error (.missingBegin e)
  | none, none => .ok none

/-- The one way in which a rule is applied. -/
def strategy (r : Rule) : Except GrammarError Strategy := do
  let block ← r.block?
  let reference := r.target.map fun target ↦ .reference (.ofString target)
  match [r.regex.map .single, block, reference].filterMap id with
  | [] => .ok .group
  | [s] => .ok s
  | _ => .error (.conflictingStrategies r.describe)

end Rule

/-! ## Patterns -/

/-- What is assigned to a capture group: a scope, and patterns for the captured text. -/
structure Capture (ρ : Type) where
  name : Option String := none
  patterns : List ρ := []
deriving Inhabited

/-- A rule with the patterns below it and what it assigns to capture groups, each table in ascending
order of group. -/
structure Pattern extends Rule where
  patterns : List Pattern := []
  /-- For the groups of a single match, and of both ends of a block that says nothing more. -/
  captures : List (Nat × Capture Pattern) := []
  beginCaptures : List (Nat × Capture Pattern) := []
  endCaptures : List (Nat × Capture Pattern) := []
deriving Inhabited

namespace Pattern

/-- The patterns right below a pattern, and those that it assigns to capture groups. -/
def children (p : Pattern) : List Pattern :=
  p.patterns ++ (p.captures ++ p.beginCaptures ++ p.endCaptures).flatMap (·.2.patterns)

theorem sizeOf_lt_of_mem_children {p q : Pattern} (h : q ∈ p.children) : sizeOf q < sizeOf p := by
  obtain ⟨rule, patterns, captures, beginCaptures, endCaptures⟩ := p
  have hcapture : ∀ {l : List (Nat × Capture Pattern)} {c : Nat × Capture Pattern},
      c ∈ l → q ∈ c.2.patterns → sizeOf q < sizeOf l := by
    intro l ⟨group, name, patterns⟩ hc hq
    have := List.sizeOf_lt_of_mem hc
    have := List.sizeOf_lt_of_mem hq
    simp only [Prod.mk.sizeOf_spec, Capture.mk.sizeOf_spec] at *
    omega
  simp only [mk.sizeOf_spec]
  rcases List.mem_append.1 h with h | h
  · have := List.sizeOf_lt_of_mem h
    dsimp only at this
    omega
  · obtain ⟨c, hc, hq⟩ := List.mem_flatMap.1 h
    simp only [List.mem_append] at hc
    rcases hc with (hc | hc) | hc <;>
    · have := hcapture hc hq
      omega

/-- Tags the matches of an expression. -/
def single (source : String) : Pattern := { regex := some source }

/-- Tags what two expressions enclose. -/
def block (begins ends : String) : Pattern := { beginRegex := some begins, endRegex := some ends }

/-- Applies what it refers to. -/
def including (target : String) : Pattern := { target := some target }

/-- Applies the patterns below it. -/
def group (patterns : List Pattern) : Pattern := { patterns }

/-- Sets the scope. -/
def named (p : Pattern) (name : String) : Pattern := { p with name := some name }

/-- Sets the scope of a block's interior. -/
def withContentName (p : Pattern) (name : String) : Pattern := { p with contentName := some name }

/-- Sets the patterns below. -/
def withPatterns (p : Pattern) (patterns : List Pattern) : Pattern := { p with patterns }

/-- Assigns to a group of a single match. -/
def withCapture (p : Pattern) (group : Nat) (c : Capture Pattern) : Pattern :=
  { p with captures := insertEntry group c p.captures }

/-- Assigns to a group of an opening match. -/
def withBeginCapture (p : Pattern) (group : Nat) (c : Capture Pattern) : Pattern :=
  { p with beginCaptures := insertEntry group c p.beginCaptures }

/-- Assigns to a group of a closing match. -/
def withEndCapture (p : Pattern) (group : Nat) (c : Capture Pattern) : Pattern :=
  { p with endCaptures := insertEntry group c p.endCaptures }

/-- Leaves the pattern out. -/
def disabled (p : Pattern) : Pattern := { p with disabledNumber := 1 }

end Pattern

/-- Assigns a scope and nothing else. -/
def Capture.scope (name : String) : Capture Pattern := { name := some name }

/-! ## Grammars -/

/-- A grammar. -/
structure Grammar where
  /-- The name that the grammar is known by. -/
  scopeName : String := ""
  displayName : Option String := none
  /-- The extensions of the files that it is for. -/
  fileTypes : List String := []
  patterns : List Pattern := []
  /-- The patterns that can be included by name. -/
  repository : SortedMap String Pattern := .empty
deriving Inhabited

namespace Grammar

/-- The name that is shown: the display name, or else the scope name. -/
def name (g : Grammar) : String := g.displayName.getD g.scopeName

/-- The grammar with a scope name and nothing else. -/
def new (scopeName : String) : Grammar := { scopeName }

/-- Sets the display name. -/
def named (g : Grammar) (name : String) : Grammar := { g with displayName := some name }

/-- Adds a file type. -/
def withFileType (g : Grammar) (extension : String) : Grammar :=
  { g with fileTypes := g.fileTypes ++ [extension] }

/-- Adds a pattern. -/
def withPattern (g : Grammar) (p : Pattern) : Grammar := { g with patterns := g.patterns ++ [p] }

/-- Puts a pattern into the repository. -/
def withRule (g : Grammar) (name : String) (p : Pattern) : Grammar :=
  { g with repository := g.repository.insert name p }

/-- The patterns that a reference stands for. An entry that does not exist and another grammar
stand for none. -/
def resolve (g : Grammar) : RuleRef → List Pattern
  | .repository name => (g.repository.get? name).toList
  | .self => g.patterns
  | .external _ => []

end Grammar

end Highlighter
