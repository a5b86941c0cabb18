import Highlighter.Proofs.Tokenize.Evaluation
import Highlighter.Proofs.Tokenize.Simplification

/-!
# Groups are transparent

A plain group in a list of patterns can be replaced by the patterns below it, put in its place. The
list may be that of the grammar, or one below a pattern of the grammar or of the repository, at any
depth and also in what is assigned to a capture group. `Grammar.Splices` says that a grammar becomes
another one by a single such replacement. Both grammars tokenize every text alike
(`tokenize_eq_of_splices`).
-/

namespace Highlighter

/-! ## Replacing a group -/

mutual

/-- In a list of patterns, one plain group is replaced by the patterns below it: one in the list, or
one below a pattern of the list. -/
inductive PatternsSplice : List Pattern → List Pattern → Prop
  | here {p : Pattern} (hp : p.IsPlainGroup) (before after : List Pattern) :
      PatternsSplice (before ++ p :: after) (before ++ p.patterns ++ after)
  | inside {p p' : Pattern} (hp : p.Splices p') (before after : List Pattern) :
      PatternsSplice (before ++ p :: after) (before ++ p' :: after)

/-- In a list of patterns below a pattern, one plain group is replaced. -/
inductive Pattern.Splices : Pattern → Pattern → Prop
  | patterns {p : Pattern} {ps : List Pattern} (h : PatternsSplice p.patterns ps) :
      Pattern.Splices p { p with patterns := ps }
  | captures {p : Pattern} {cs : List (Nat × Capture Pattern)} (h : TableSplices p.captures cs) :
      Pattern.Splices p { p with captures := cs }
  | beginCaptures {p : Pattern} {cs : List (Nat × Capture Pattern)}
      (h : TableSplices p.beginCaptures cs) : Pattern.Splices p { p with beginCaptures := cs }
  | endCaptures {p : Pattern} {cs : List (Nat × Capture Pattern)}
      (h : TableSplices p.endCaptures cs) : Pattern.Splices p { p with endCaptures := cs }

/-- In the patterns that a table assigns to one capture group, one plain group is replaced. -/
inductive TableSplices : List (Nat × Capture Pattern) → List (Nat × Capture Pattern) → Prop
  | mk {ps ps' : List Pattern} (h : PatternsSplice ps ps') (group : Nat) (name : Option String)
      (before after : List (Nat × Capture Pattern)) :
      TableSplices (before ++ (group, ⟨name, ps⟩) :: after)
        (before ++ (group, ⟨name, ps'⟩) :: after)

end

/-- In a list of patterns of a grammar, one plain group is replaced by the patterns below it. -/
inductive Grammar.Splices : Grammar → Grammar → Prop
  | patterns {g : Grammar} {ps : List Pattern} (h : PatternsSplice g.patterns ps) :
      Grammar.Splices g { g with patterns := ps }
  | rule {g : Grammar} {repository : SortedMap String Pattern} {p p' : Pattern}
      (h : p.Splices p') (name : String) (before after : List (String × Pattern))
      (hentries : g.repository.entries = before ++ (name, p) :: after)
      (hentries' : repository.entries = before ++ (name, p') :: after) :
      Grammar.Splices g { g with repository }

/-! ## Replacing a group has no effect -/

mutual

theorem PatternsSplice.simplifyTo {ps ps' : List Pattern} (h : PatternsSplice ps ps') :
    PatternsSimplifyTo ps ps' := by
  match h with
  | .here hp before after =>
    rw [List.append_assoc]
    exact (PatternsSimplifyTo.refl before).append (.splice hp (.refl _) (.refl after))
  | .inside hp before after =>
    exact (PatternsSimplifyTo.refl before).append (.cons hp.simplifiesTo (.refl after))

theorem Pattern.Splices.simplifiesTo {p p' : Pattern} (h : p.Splices p') : p.SimplifiesTo p' := by
  match h with
  | .patterns h => exact .mk rfl h.simplifyTo (.refl _) (.refl _) (.refl _)
  | .captures h => exact .mk rfl (.refl _) h.simplifiesTo (.refl _) (.refl _)
  | .beginCaptures h => exact .mk rfl (.refl _) (.refl _) h.simplifiesTo (.refl _)
  | .endCaptures h => exact .mk rfl (.refl _) (.refl _) (.refl _) h.simplifiesTo

theorem TableSplices.simplifiesTo {cs cs' : List (Nat × Capture Pattern)}
    (h : TableSplices cs cs') : TableSimplifiesTo cs cs' := by
  match h with
  | .mk h group name before after =>
    exact TableSimplifiesTo.append_left (.cons h.simplifyTo (.refl after)) before

end

theorem Grammar.Splices.simplifiesTo {g g' : Grammar} (h : g.Splices g') : g.SimplifiesTo g' := by
  cases h with
  | patterns h => exact ⟨h.simplifyTo, .refl _⟩
  | rule h name before after hentries hentries' =>
    refine ⟨.refl _, ?_⟩
    rw [hentries, hentries']
    exact RulesSimplifyTo.append_left (.cons h.simplifiesTo (.refl after)) before

/-- **Groups are transparent.** Replacing a plain group by the patterns below it leaves the tokens
of every text, or the fault of the grammar, as they are. -/
theorem tokenize_eq_of_splices {g g' : Grammar} (h : g.Splices g') (engine : Engine)
    (text : String) (options : TokenizeOptions) :
    tokenize engine g' text options = tokenize engine g text options :=
  h.simplifiesTo.tokenize_eq engine text options

/-- A grammar whose rule applies some patterns to what it matched. -/
def capturingGrammar (ps : List Pattern) : Grammar :=
  (Grammar.new "source.test").withPattern (.including "#a")
    |>.withRule "a" (((Pattern.single "x").named "variable").withCapture 0 { patterns := ps })

/-- Patterns that lead back to the rule. -/
def returningPatterns : List Pattern := [.including "#a", (Pattern.single "x").named "letter"]

/-- The tokens of a letter in a longer text. The rule is applied to the text and to the letter, and
then not again. -/
def returningTokens : List Token :=
  [⟨0, 1, "variable", "x"⟩, ⟨0, 1, "variable", "x"⟩, ⟨0, 1, "letter", "x"⟩, ⟨0, 1, "letter", "x"⟩]

theorem tokenize_capturingGrammar_eq_of_splices :
    (capturingGrammar [.group returningPatterns]).Splices (capturingGrammar returningPatterns) ∧
    tokenize letterEngine (capturingGrammar [.group returningPatterns]) "x." {} =
      .ok returningTokens ∧
    tokenize letterEngine (capturingGrammar returningPatterns) "x." {} = .ok returningTokens := by
  have hgroup : (Pattern.group returningPatterns).IsPlainGroup := ⟨rfl, rfl, rfl, rfl, rfl⟩
  have hsplices : (capturingGrammar [.group returningPatterns]).Splices
      (capturingGrammar returningPatterns) :=
    .rule (.captures (.mk (.here hgroup [] []) 0 none [] [])) "a" [] [] rfl rfl
  have htokens : tokenize letterEngine (capturingGrammar [.group returningPatterns]) "x." {} =
      .ok returningTokens := tokenize_eq_ok_of_tokenizeUpTo (n := 7) (by decide +kernel)
  exact ⟨hsplices, htokens, (tokenize_eq_of_splices hsplices _ _ _).trans htokens⟩

end Highlighter
