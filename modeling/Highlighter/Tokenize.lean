import Highlighter.Tokenize.Takes

/-!
# Tokenizing a text

To apply a pattern to a region is a call. A call takes the steps of its pattern, and each step may
make further calls, whose marks come where the step stands. Marks may overlap, and a mark made later
lies over an earlier one.

Each call knows the references that are being followed, with the region of each. A reference is not
followed if it is already being followed on the same region, or if as many are being followed as may
be nested.
-/

namespace Highlighter

/-- A reference that is being followed, and the region that it is followed on. -/
abbrev Frame := RuleRef × Region

/-- A pattern that is applied to a region. -/
structure Call where
  /-- The references that are being followed, the last one first. -/
  following : List Frame
  pattern : Pattern
  region : Region

/-- What a step adds to the result: a mark, or the reason to give up. -/
def Step.outcome : Step → List (Except GrammarError Mark)
  | mark m => [.ok m]
  | fail e => [.error e]
  | apply _ _ | follow _ _ => []

namespace Tokenizer

variable (k : Tokenizer)

/-- Whether a reference may be followed on a region while others are being followed. -/
def Follows (following : List Frame) (f : Frame) : Prop :=
  f ∉ following ∧ following.length < k.options.maxIncludeDepth

instance (following : List Frame) (f : Frame) : Decidable (k.Follows following f) :=
  inferInstanceAs (Decidable (_ ∧ _))

/-- The calls that a step makes. -/
def callsOf (following : List Frame) : Step → List Call
  | .mark _ | .fail _ => []
  | .apply p r => [⟨following, p, r⟩]
  | .follow target r =>
    if k.Follows following (target, r) then
      (k.grammar.resolve target).map fun p ↦ ⟨(target, r) :: following, p, r⟩
    else []

theorem mem_callsOf {following : List Frame} {s : Step} {c : Call} :
    c ∈ k.callsOf following s ↔ (∃ p r, s = .apply p r ∧ c = ⟨following, p, r⟩) ∨
      ∃ target r p, s = .follow target r ∧ k.Follows following (target, r) ∧
        p ∈ k.grammar.resolve target ∧ c = ⟨(target, r) :: following, p, r⟩ := by
  constructor
  · intro hc
    cases s with
    | mark m => simp [callsOf] at hc
    | fail e => simp [callsOf] at hc
    | apply p r => exact .inl ⟨p, r, rfl, List.mem_singleton.1 hc⟩
    | follow target r =>
      simp only [callsOf] at hc
      split at hc
      · next hf =>
        obtain ⟨p, hp, rfl⟩ := List.mem_map.1 hc
        exact .inr ⟨target, r, p, rfl, hf, hp, rfl⟩
      · simp at hc
  · rintro (⟨p, r, rfl, rfl⟩ | ⟨target, r, p, rfl, hf, hp, rfl⟩)
    · exact List.mem_singleton.2 rfl
    · rw [callsOf, if_pos hf]
      exact List.mem_map.2 ⟨p, hp, rfl⟩

/-- A call follows no more references than the call that makes it, or not too many. -/
theorem length_following_le {following : List Frame} {s : Step} {c : Call}
    (hc : c ∈ k.callsOf following s) :
    c.following.length ≤ max k.options.maxIncludeDepth following.length := by
  rcases k.mem_callsOf.1 hc with ⟨p, r, rfl, rfl⟩ | ⟨target, r, p, rfl, hf, -, rfl⟩
  · exact Nat.le_max_right _ _
  · exact Nat.le_trans hf.2 (Nat.le_max_left _ _)

end Tokenizer

/-- How much is left of a call where at most `bound` references are ever followed: how many more
these may become, and the pattern. -/
noncomputable def Call.rest (bound : Nat) (c : Call) : Nat × Nat :=
  (bound - c.following.length, sizeOf c.pattern)

namespace Tokenizer

variable (k : Tokenizer)

theorem rest_lt_of_mem_callsOf {bound : Nat} {c c' : Call} {s : Step}
    (hs : s ∈ k.steps c.pattern c.region) (hc : c' ∈ k.callsOf c.following s)
    (hbound : c'.following.length ≤ max bound c.following.length) :
    Prod.Lex (· < ·) (· < ·) (c'.rest bound) (c.rest bound) := by
  rcases k.mem_callsOf.1 hc with ⟨p, r, rfl, rfl⟩ | ⟨target, r, p, rfl, -, -, rfl⟩
  · exact .right _ (Pattern.sizeOf_lt_of_mem_children (mem_steps_iff.1 hs).mem_children)
  · refine .left _ _ ?_
    simp only [List.length_cons] at hbound ⊢
    omega

/-- What a call results in: the marks of its steps and of the calls that these make, in order, and
the reasons to give up. -/
def run (c : Call) : List (Except GrammarError Mark) :=
  (k.steps c.pattern c.region).attach.flatMap fun ⟨s, _⟩ ↦
    s.outcome ++ (k.callsOf c.following s).attach.flatMap fun ⟨c', _⟩ ↦ run c'
termination_by c.rest k.options.maxIncludeDepth
decreasing_by exact k.rest_lt_of_mem_callsOf ‹_› ‹_› (k.length_following_le ‹_›)

theorem run_eq (c : Call) :
    k.run c = (k.steps c.pattern c.region).flatMap fun s ↦
      s.outcome ++ (k.callsOf c.following s).flatMap k.run := by
  rw [run]
  simp

/-- The calls for the whole text: each pattern of the grammar is applied to it. -/
def topCalls : List Call :=
  k.grammar.patterns.map fun p ↦ ⟨[], p, ⟨0, k.text.size, Nat.zero_le _⟩⟩

/-- The marks in the text, or the first reason to give up. -/
def marks : Except GrammarError (List Mark) :=
  (k.topCalls.flatMap k.run).mapM id

end Tokenizer

/-- What applies a grammar with its table to a text. -/
abbrev Grammar.tokenizer (g : Grammar) (table : RuleTable) (s : Source)
    (options : TokenizeOptions) : Tokenizer :=
  ⟨g, table, s.chars, options⟩

/-- The tokens of a text in the order in which the rules make them, or what is wrong with the
grammar. -/
def tokenize (engine : Engine) (g : Grammar) (text : String) (options : TokenizeOptions) :
    Except GrammarError (List Token) := do
  let table ← RuleTable.compile engine g
  let s := Source.ofString text
  let marks ← (g.tokenizer table s options).marks
  return marks.map s.token

end Highlighter
