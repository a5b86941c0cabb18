import Highlighter.Span
import Highlighter.Tokenize

/-!
# Highlighting

A grammar, a theme and a text together give styled spans.
-/

namespace Highlighter

/-- How a text is highlighted. -/
structure HighlightOptions where
  tokenize : TokenizeOptions := {}
  selectorPolicy : SelectorPolicy := .bestMatch
deriving DecidableEq, Repr

/-- The styled spans of a text, or what is wrong with the grammar. -/
def highlight (engine : Engine) (g : Grammar) (t : Theme) (text : String)
    (options : HighlightOptions) : Except GrammarError (List Span) := do
  let tokens ← tokenize engine g text options.tokenize
  return spansOf t options.selectorPolicy text.utf8ByteSize tokens

theorem highlight_eq_ok_iff {engine : Engine} {g : Grammar} {t : Theme} {text : String}
    {options : HighlightOptions} {spans : List Span} :
    highlight engine g t text options = .ok spans ↔
      ∃ tokens, tokenize engine g text options.tokenize = .ok tokens ∧
        spansOf t options.selectorPolicy text.utf8ByteSize tokens = spans := by
  unfold highlight
  cases tokenize engine g text options.tokenize with
  | error e => simp [bind, Except.bind]
  | ok tokens => simp [bind, Except.bind, pure, Except.pure]

end Highlighter
