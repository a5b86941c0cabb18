import Highlighter.Grammar.Basic
import Highlighter.Search.Match

/-!
# Compiling a grammar

Before a text is looked at, every enabled rule of a grammar is checked and each of its expressions
compiled, once per source text. A grammar with a faulty rule therefore fails as a whole, and with
the fault that comes first in the order of the rules. How expressions are compiled is a parameter.
-/

namespace Highlighter

/-! ## The enabled rules -/

mutual

/-- The rule of a pattern and of all that is below it, up to what is disabled. A rule comes before
what its captures hold, and that before the patterns below it. -/
def Pattern.enabledRules : Pattern → List Rule
  | ⟨rule, patterns, captures, beginCaptures, endCaptures⟩ =>
    if rule.isDisabled then []
    else rule :: (captureRules captures ++ captureRules beginCaptures ++ captureRules endCaptures
      ++ enabledRules patterns)

/-- The enabled rules of some patterns. -/
def enabledRules : List Pattern → List Rule
  | [] => []
  | p :: ps => p.enabledRules ++ enabledRules ps

/-- The enabled rules of the patterns that are assigned to capture groups. -/
def captureRules : List (Nat × Capture Pattern) → List Rule
  | [] => []
  | (_, ⟨_, patterns⟩) :: cs => enabledRules patterns ++ captureRules cs

end

/-- The enabled rules of a grammar: those of its patterns and then those of its repository. -/
def Grammar.enabledRules (g : Grammar) : List Rule :=
  Highlighter.enabledRules (g.patterns ++ g.repository.entries.map (·.2))

/-! ## The table -/

/-- Compiles the source text of an expression, or refuses it. -/
abbrev Engine := String → Option Searcher

/-- Compiled expressions by source text. -/
structure RuleTable where
  entries : List (String × Searcher)

namespace RuleTable

/-- The table without entries. -/
def empty : RuleTable := ⟨[]⟩

/-- The compiled form of a source text. -/
def get? (t : RuleTable) (source : String) : Option Searcher :=
  t.entries.lookup source

/-- The number of different source texts. -/
def size (t : RuleTable) : Nat := t.entries.length

/-- Compiles a source text, unless the table has it already. -/
def add (engine : Engine) (t : RuleTable) (source : String) : Except GrammarError RuleTable :=
  if (t.get? source).isSome then .ok t
  else match engine source with
    | some s => .ok ⟨t.entries ++ [(source, s)]⟩
    | none => .error (.invalidRegex source)

/-- Checks how a rule is applied and then compiles its expressions. -/
def addRule (engine : Engine) (t : RuleTable) (r : Rule) : Except GrammarError RuleTable := do
  let _ ← r.strategy
  r.regexes.foldlM (add engine) t

/-- The table of a grammar, or what is wrong with the first faulty rule. -/
def compile (engine : Engine) (g : Grammar) : Except GrammarError RuleTable :=
  g.enabledRules.foldlM (addRule engine) empty

end RuleTable

end Highlighter
