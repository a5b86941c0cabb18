import Highlighter.Span
import Mathlib.Data.List.Basic

/-!
# The style of an offset

What style an offset of a text has is said of the tokens alone: it is that of the token over it with
the greatest rank, where tokens of equal rank go by their place in the list, and the base style
where there is no token. An offset has at most one style (`IsStyleAt.unique`).

The layers are the same tokens as the sweep sees them, cut off at the end of the text and resolved.
That scopes are resolved once and then remembered has no influence (`layersFrom_eq`).
-/

namespace Highlighter

variable {t : Theme} {policy : SelectorPolicy} {size : Nat} {tokens : List Token}

/-! ## Styles -/

/-- Whether a token covers an offset, when it is cut off at the end of the text. -/
def Token.Covers (k : Token) (size offset : Nat) : Prop :=
  min k.start size ≤ offset ∧ offset < min k.stop size

/-- How specific the style of a token is. -/
def Theme.rank (t : Theme) (policy : SelectorPolicy) (k : Token) : Int :=
  (t.resolve policy k.scope).specificity

/-- Which style an offset has. -/
inductive IsStyleAt (t : Theme) (policy : SelectorPolicy) (size : Nat) (tokens : List Token)
    (offset : Nat) : Style → Prop
  /-- No token covers the offset. -/
  | base (h : ∀ k ∈ tokens, ¬k.Covers size offset) : IsStyleAt t policy size tokens offset t.base
  /-- A token covers the offset, and no other one that does has a greater rank, or the same rank and
  a later place. -/
  | token {place : Nat} {k : Token} (hk : tokens[place]? = some k) (hc : k.Covers size offset)
      (htop : ∀ (place' : Nat) (k' : Token), tokens[place']? = some k' → k'.Covers size offset →
        t.rank policy k' < t.rank policy k ∨
          t.rank policy k' = t.rank policy k ∧ place' ≤ place) :
      IsStyleAt t policy size tokens offset (t.resolve policy k.scope).style

/-- An offset has at most one style. -/
theorem IsStyleAt.unique {offset : Nat} {style style' : Style}
    (h : IsStyleAt t policy size tokens offset style)
    (h' : IsStyleAt t policy size tokens offset style') : style = style' := by
  cases h with
  | base h =>
    cases h' with
    | base => rfl
    | token hk' hc' => exact absurd hc' (h _ (List.mem_of_getElem? hk'))
  | @token place k hk hc htop =>
    cases h' with
    | base h' => exact absurd hc (h' _ (List.mem_of_getElem? hk))
    | @token place' k' hk' hc' htop' =>
      -- Each of the two tokens is at least as great as the other one, so they have the same place.
      have hplace : place = place' := by
        have := htop place' k' hk' hc'
        have := htop' place k hk hc
        omega
      subst hplace
      rw [hk] at hk'
      rw [Option.some.inj hk']

/-! ## Scopes that are remembered -/

/-- Whether what is remembered of scopes is what they are resolved to. -/
def IsKnown (t : Theme) (policy : SelectorPolicy) (known : List (String × Resolved)) : Prop :=
  ∀ scope r, known.lookup scope = some r → r = t.resolve policy scope

theorem isKnown_nil : IsKnown t policy [] := by simp [IsKnown]

theorem recall_eq {known : List (String × Resolved)} (h : IsKnown t policy known)
    (scope : String) : (t.recall policy known scope).1 = t.resolve policy scope := by
  unfold Theme.recall
  split
  · next r hr => exact h scope r hr
  · rfl

theorem isKnown_recall {known : List (String × Resolved)} (h : IsKnown t policy known)
    (scope : String) : IsKnown t policy (t.recall policy known scope).2 := by
  unfold Theme.recall
  split
  · exact h
  · intro scope' r hr
    rw [List.lookup_cons] at hr
    split at hr
    · next heq =>
      rw [eq_of_beq heq]
      exact (Option.some.inj hr).symm
    · exact h scope' r hr

/-! ## Layers -/

namespace Layer

/-- Whether a layer covers an offset. -/
def Covers (l : Layer) (offset : Nat) : Prop := l.start ≤ offset ∧ offset < l.stop

/-- The layer of a token that has a place among the tokens. -/
def ofToken (t : Theme) (policy : SelectorPolicy) (size : Nat) (k : Token) (place : Nat) : Layer :=
  ⟨min k.start size, min k.stop size, place, t.resolve policy k.scope⟩

/-- Whether a layer has an extent. -/
def paints (l : Layer) : Bool := l.start < l.stop

theorem IsOver.trans {l m n : Layer} (h : l.IsOver m) (h' : m.IsOver n) : l.IsOver n := by
  unfold IsOver at *
  omega

theorem IsOver.asymm {l m : Layer} (h : l.IsOver m) : ¬m.IsOver l := by
  unfold IsOver at *
  omega

end Layer

/-- Without anything remembered, the layers are the tokens that paint something, each by itself. -/
theorem layersFrom_eq {known : List (String × Resolved)} (h : IsKnown t policy known)
    (place : Nat) : layersFrom t policy size place known tokens =
      ((tokens.zipIdx place).map fun e ↦ .ofToken t policy size e.1 e.2).filter Layer.paints := by
  induction tokens generalizing place known with
  | nil => rfl
  | cons k ks ih =>
    rw [layersFrom, List.zipIdx_cons, List.map_cons]
    by_cases hlt : min k.start size < min k.stop size
    · have hpaints : (Layer.ofToken t policy size k place).paints = true := decide_eq_true hlt
      rw [if_pos hlt, List.filter_cons_of_pos hpaints, ← ih (isKnown_recall h k.scope),
        Layer.ofToken, ← recall_eq h]
    · have hpaints : (Layer.ofToken t policy size k place).paints ≠ true :=
        fun h' ↦ hlt (of_decide_eq_true h')
      rw [if_neg hlt, List.filter_cons_of_neg hpaints, ih h]

theorem mem_layers_iff {l : Layer} : l ∈ layers t policy size tokens ↔
    ∃ place k, tokens[place]? = some k ∧ min k.start size < min k.stop size ∧
      l = .ofToken t policy size k place := by
  rw [layers, layersFrom_eq isKnown_nil]
  simp only [List.mem_filter, List.mem_map, Layer.paints, decide_eq_true_iff]
  constructor
  · rintro ⟨⟨⟨k, place⟩, hk, rfl⟩, hlt⟩
    exact ⟨place, k, List.mem_zipIdx_iff_getElem?.mp hk, hlt, rfl⟩
  · rintro ⟨place, k, hk, hlt, rfl⟩
    exact ⟨⟨(k, place), List.mem_zipIdx_iff_getElem?.mpr hk, rfl⟩, hlt⟩

theorem start_lt_stop_of_mem_layers {l : Layer} (h : l ∈ layers t policy size tokens) :
    l.start < l.stop := by
  obtain ⟨place, k, -, hlt, rfl⟩ := mem_layers_iff.mp h
  exact hlt

theorem stop_le_of_mem_layers {l : Layer} (h : l ∈ layers t policy size tokens) :
    l.stop ≤ size := by
  obtain ⟨place, k, -, -, rfl⟩ := mem_layers_iff.mp h
  exact Nat.min_le_right _ _

theorem ofToken_mem_layers {place offset : Nat} {k : Token} (hk : tokens[place]? = some k)
    (hc : k.Covers size offset) : .ofToken t policy size k place ∈ layers t policy size tokens :=
  mem_layers_iff.mpr ⟨place, k, hk, Nat.lt_of_le_of_lt hc.1 hc.2, rfl⟩

/-- The style of an offset, seen from the layers: one that covers it and has no other such layer
over it. -/
theorem IsStyleAt.of_top {l : Layer} {offset : Nat} (hl : l ∈ layers t policy size tokens)
    (hc : l.Covers offset)
    (htop : ∀ m ∈ layers t policy size tokens, m.Covers offset → ¬m.IsOver l) :
    IsStyleAt t policy size tokens offset l.resolved.style := by
  obtain ⟨place, k, hk, -, rfl⟩ := mem_layers_iff.mp hl
  refine .token hk hc fun place' k' hk' hc' ↦ ?_
  have hnot := htop _ (ofToken_mem_layers hk' hc') hc'
  simp only [Layer.IsOver, Layer.ofToken] at hnot
  unfold Theme.rank
  omega

theorem IsStyleAt.of_not_covers {offset : Nat}
    (h : ∀ l ∈ layers t policy size tokens, ¬l.Covers offset) :
    IsStyleAt t policy size tokens offset t.base := by
  refine .base fun k hk hc ↦ ?_
  obtain ⟨place, hplace⟩ := List.getElem?_of_mem hk
  exact h _ (ofToken_mem_layers hplace hc) hc

end Highlighter
