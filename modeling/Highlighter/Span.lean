import Highlighter.Theme.Basic
import Highlighter.Token

/-!
# Styled spans

Tokens may overlap; spans do not. Each offset of a text has the style of the token over it with
the most specific style, and of the last of equals; where there is no token it has the base style.
The style changes only where a token starts or stops. The spans are therefore found in one sweep
over these offsets, which keeps the tokens that have started in a pile, the top one first, and looks
only at the top: a token that has stopped is taken off when it comes to lie there. Neighbours of
equal style are joined.
-/

namespace Highlighter

/-- A styled range of a text. -/
structure Span where
  /-- The byte offset of the first character. -/
  start : Nat
  /-- The byte offset after the last character. -/
  stop : Nat
  style : Style
deriving DecidableEq

namespace Span

/-- The length in bytes, which is zero for a range that runs backwards. -/
def length (s : Span) : Nat := s.stop - s.start

/-- Whether there is nothing in the range. -/
def isEmpty (s : Span) : Bool := s.stop ≤ s.start

/-- Whether an offset lies in the range. -/
def contains (s : Span) (offset : Nat) : Bool := s.start ≤ offset && offset < s.stop

end Span

/-! ## Layers -/

/-- What a token paints: a range, cut off at the end of the text, and a style with its rank. -/
structure Layer where
  start : Nat
  stop : Nat
  /-- The place of the token among the tokens. -/
  place : Nat
  resolved : Resolved

namespace Layer

/-- Whether a layer lies over another one: it ranks higher, or as high and comes later. -/
def IsOver (l m : Layer) : Prop :=
  m.resolved.specificity < l.resolved.specificity ∨
    m.resolved.specificity = l.resolved.specificity ∧ m.place < l.place

instance (l m : Layer) : Decidable (l.IsOver m) := inferInstanceAs (Decidable (_ ∨ _ ∧ _))

/-- Puts a layer into a pile of layers, over those that it lies over. -/
def pile (l : Layer) : List Layer → List Layer
  | [] => [l]
  | m :: ms => if l.IsOver m then l :: m :: ms else m :: l.pile ms

end Layer

/-- Resolves a scope, and remembers what it is resolved to. -/
def Theme.recall (t : Theme) (policy : SelectorPolicy) (known : List (String × Resolved))
    (scope : String) : Resolved × List (String × Resolved) :=
  match known.lookup scope with
  | some r => (r, known)
  | none => (t.resolve policy scope, (scope, t.resolve policy scope) :: known)

/-- The layers of some tokens in the order of the tokens, without those that paint nothing. The
tokens are counted from `place` on, and each scope is resolved once. -/
def layersFrom (t : Theme) (policy : SelectorPolicy) (size : Nat) :
    Nat → List (String × Resolved) → List Token → List Layer
  | _, _, [] => []
  | place, known, k :: ks =>
    if min k.start size < min k.stop size then
      let (resolved, known) := t.recall policy known k.scope
      ⟨min k.start size, min k.stop size, place, resolved⟩
        :: layersFrom t policy size (place + 1) known ks
    else layersFrom t policy size (place + 1) known ks

/-- The layers of some tokens. -/
def layers (t : Theme) (policy : SelectorPolicy) (size : Nat) (tokens : List Token) : List Layer :=
  layersFrom t policy size 0 [] tokens

/-- The offsets at which the style can change, in ascending order. -/
def cuts (size : Nat) (ls : List Layer) : List Nat :=
  ((0 :: size :: ls.flatMap fun l ↦ [l.start, l.stop]).mergeSort (· ≤ ·)).eraseReps

/-! ## The sweep -/

/-- What is known of the layers when a sweep over a text has come to an offset. -/
structure Sweep where
  /-- The layers that start further on, the next one first. -/
  waiting : List Layer
  /-- The layers that have started, the top one first. The top one has not stopped; those below it
  may have. -/
  active : List Layer

namespace Sweep

/-- The sweep before it has begun. -/
def ofLayers (ls : List Layer) : Sweep := ⟨ls.mergeSort (·.start ≤ ·.start), []⟩

/-- Takes up the layers that start at or before an offset. -/
def takeUp (s : Sweep) (offset : Nat) : Sweep where
  waiting := s.waiting.dropWhile (·.start ≤ offset)
  active := (s.waiting.takeWhile (·.start ≤ offset)).foldl (fun ls l ↦ l.pile ls) s.active

/-- Takes layers that stop at or before an offset off the top. -/
def takeOff (s : Sweep) (offset : Nat) : Sweep :=
  { s with active := s.active.dropWhile (·.stop ≤ offset) }

/-- The sweep when it has come to an offset. -/
def moveTo (s : Sweep) (offset : Nat) : Sweep := (s.takeUp offset).takeOff offset

/-- The style of the top layer, or the base style. -/
def style (s : Sweep) (t : Theme) : Style :=
  (s.active.head?.map (·.resolved)).getD t.baseStyle |>.style

end Sweep

/-- Adds a span at the end of some spans, which are listed from the last one on. It is joined to a
neighbour of equal style. -/
def addSpan (spans : List Span) (s : Span) : List Span :=
  match spans with
  | [] => [s]
  | last :: rest =>
    if last.stop = s.start ∧ last.style = s.style then { last with stop := s.stop } :: rest
    else s :: last :: rest

/-- The spans between cuts, after those that have been found. -/
def sweepSpans (t : Theme) : Sweep → List Span → List Nat → List Span
  | s, found, start :: stop :: cs =>
    let s := s.moveTo start
    sweepSpans t s (addSpan found ⟨start, stop, s.style t⟩) (stop :: cs)
  | _, found, _ => found.reverse

/-- The spans of a text of some size in bytes. -/
def spansOf (t : Theme) (policy : SelectorPolicy) (size : Nat) (tokens : List Token) : List Span :=
  let ls := layers t policy size tokens
  sweepSpans t (.ofLayers ls) [] (cuts size ls)

end Highlighter
