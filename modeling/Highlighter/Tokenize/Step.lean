import Highlighter.Grammar.RuleTable
import Highlighter.Search.Scan
import Highlighter.Token

/-!
# What a pattern does in a region

A pattern that is applied to a region takes some steps, one after the other: it marks parts of the
region, applies patterns to parts of it, or follows a reference. This module lists the steps of one
pattern in one region. It does not go on with the patterns that are applied and the references that
are followed, so nothing here is recursive, and whatever a pattern can do is seen from the list.
-/

namespace Highlighter

/-- Where the patterns below a single match are applied. -/
inductive NestedScope where
  /-- To what was matched. -/
  | confined
  /-- To the region that the rule itself was applied to. -/
  | wholeBuffer
deriving DecidableEq, Repr

/-- How a text is tokenized. -/
structure TokenizeOptions where
  /-- How many references may be nested. -/
  maxIncludeDepth : Nat := 64
  nestedScope : NestedScope := .confined
deriving DecidableEq, Repr

/-- A grammar with its compiled expressions, the text that it is applied to, and how. -/
structure Tokenizer where
  grammar : Grammar
  table : RuleTable
  text : Array Char
  options : TokenizeOptions

/-! ## Steps -/

/-- One thing that a pattern does. -/
inductive Step where
  /-- Marks a region. -/
  | mark (m : Mark)
  /-- Applies a pattern to a region. -/
  | apply (p : Pattern) (r : Region)
  /-- Applies what a reference stands for to a region. -/
  | follow (target : RuleRef) (r : Region)
  /-- Gives up, because the rule is faulty. -/
  | fail (e : GrammarError)

/-- Marks a region that is not empty, if there is a scope for it. -/
def markSteps (r : Region) (scope : Option String) : List Step :=
  (tag r scope).map .mark

/-- Applies some patterns to a region, one pattern after the other. -/
def applySteps (patterns : List Pattern) (r : Region) : List Step :=
  patterns.map (.apply · r)

/-! ## Groups -/

/-- What is assigned to a group. -/
def captureName? (captures : List (Nat × Capture Pattern)) (group : Nat) : Option String :=
  (captures.lookup group).bind (·.name)

/-- The patterns that are assigned to a group. -/
def capturePatterns (captures : List (Nat × Capture Pattern)) (group : Nat) : List Pattern :=
  ((captures.lookup group).map (·.patterns)).getD []

/-- The steps for the groups of a match: each group is marked as `mark` says, and then the patterns
assigned to it are applied to it. -/
def Match.groupSteps (m : Match) (captures : List (Nat × Capture Pattern))
    (mark : Nat → Region → List Step) : List Step :=
  m.participating.flatMap fun (group, r) ↦
    mark group r ++ applySteps (capturePatterns captures group) r

/-- Marks a group of a single match. A group without a scope of its own has the one of the rule, and
is not marked if it covers the whole match and has the scope of the whole match. -/
def singleMark (rule : Rule) (captures : List (Nat × Capture Pattern)) (whole : Region)
    (group : Nat) (r : Region) : List Step :=
  let scope (group : Nat) := (captureName? captures group).or rule.name
  if group = 0 ∨ r ≠ whole ∨ scope group ≠ scope 0 then markSteps r (scope group) else []

/-- Marks a group of an opening or closing match. Only the whole match has the scope of the rule
where it has none of its own. -/
def edgeMark (rule : Rule) (captures : List (Nat × Capture Pattern)) (group : Nat) (r : Region) :
    List Step :=
  markSteps r ((captureName? captures group).or (if group = 0 then rule.name else none))

/-- The table for one end of a block: the one for both ends if this end has none. -/
def edgeCaptures (own shared : List (Nat × Capture Pattern)) : List (Nat × Capture Pattern) :=
  if own.isEmpty then shared else own

/-! ## Matches and blocks -/

/-- The matches in a region that are not empty. The search sees the text before the region and not
the text after it. -/
def Searcher.matchesIn (finds : Searcher) (text : Array Char) (r : Region) : List Match :=
  (finds.matchesFrom (text.extract 0 r.stop) r.start).filter fun m ↦ !m.whole.isEmpty

/-- The blocks in a region. -/
def Searcher.blocksIn (opens closes : Searcher) (text : Array Char) (r : Region) :
    List (Block (text.extract 0 r.stop).size) :=
  opens.blocksFrom closes (text.extract 0 r.stop) r.start

namespace Pattern

/-- The steps for one match of a single expression. -/
def matchSteps (p : Pattern) (nested : NestedScope) (m : Match) : List Step :=
  m.groupSteps p.captures (singleMark p.toRule p.captures m.whole)
    ++ if nested = .confined then applySteps p.patterns m.whole else []

/-- The steps for the matches that a single expression has in a region. -/
def singleSteps (p : Pattern) (nested : NestedScope) (found : List Match) (r : Region) :
    List Step :=
  found.flatMap (p.matchSteps nested)
    ++ if nested = .wholeBuffer ∧ !found.isEmpty then applySteps p.patterns r else []

/-- The opening and the closing match of a block, each with its table. -/
def edges {size : Nat} (p : Pattern) (b : Block size) :
    List (Match × List (Nat × Capture Pattern)) :=
  (b.opening, edgeCaptures p.beginCaptures p.captures)
    :: b.closing.toList.map fun m ↦ (m.1, edgeCaptures p.endCaptures p.captures)

/-- The steps for one block. -/
def blockSteps {size : Nat} (p : Pattern) (b : Block size) : List Step :=
  markSteps b.whole p.name
    ++ markSteps b.interior p.contentName
    ++ ((p.edges b).flatMap fun e ↦ e.1.groupSteps e.2 (edgeMark p.toRule e.2))
    ++ applySteps p.patterns b.interior

end Pattern

/-- The steps of a pattern in a region. A rule that is disabled takes none, and neither does one
whose expressions are not in the table. -/
def Tokenizer.steps (k : Tokenizer) (p : Pattern) (r : Region) : List Step :=
  if p.isDisabled then []
  else match p.strategy with
    | .error e => [.fail e]
    | .ok .group => applySteps p.patterns r
    | .ok (.reference target) => [.follow target r]
    | .ok (.single source) =>
      match k.table.get? source with
      | some finds => p.singleSteps k.options.nestedScope (finds.matchesIn k.text r) r
      | none => []
    | .ok (.block begins ends) =>
      match k.table.get? begins, k.table.get? ends with
      | some opens, some closes => (opens.blocksIn closes k.text r).flatMap p.blockSteps
      | _, _ => []

end Highlighter
