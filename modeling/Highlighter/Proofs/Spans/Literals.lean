import Highlighter.Highlight
import Highlighter.Proofs.Spans.Sweep
import Highlighter.Proofs.Tokenize.Literals

/-!
# The style of literals

A token lies over others where it has a greater rank, and among equals where it comes later. So
literals, which come last, lie over whatever does not have a greater rank. If their escapes have a
greater rank than they have, and nothing has a greater rank than escapes, then the style of an
offset in a literal is that of an escape, or of something with a greater rank than literals, or of
the literal itself (`LiteralsLast.isShownAt`).
-/

namespace Highlighter

/-! ## What is shown at an offset -/

instance (k : Token) (size offset : Nat) : Decidable (k.Covers size offset) :=
  inferInstanceAs (Decidable (_ ∧ _))

/-- Whether spans show a style at an offset. -/
def IsShownAt (spans : List Span) (offset : Nat) (style : Style) : Prop :=
  (∃ s ∈ spans, s.contains offset) ∧ ∀ s ∈ spans, s.contains offset → s.style = style

theorem Span.contains_iff {s : Span} {offset : Nat} :
    s.contains offset = true ↔ s.start ≤ offset ∧ offset < s.stop := by
  simp [contains]

theorem Tiles.exists_contains {start stop offset : Nat} {ss : List Span} (h : Tiles start stop ss)
    (hle : start ≤ offset) (hlt : offset < stop) : ∃ s ∈ ss, s.contains offset := by
  induction ss generalizing start with
  | nil =>
    obtain rfl : start = stop := h
    omega
  | cons s ss ih =>
    obtain ⟨rfl, -, hrest⟩ := h
    by_cases hstop : offset < s.stop
    · exact ⟨s, by simp, Span.contains_iff.mpr ⟨hle, hstop⟩⟩
    · obtain ⟨s', hs', hcontains⟩ := ih hrest (Nat.le_of_not_lt hstop)
      exact ⟨s', List.mem_cons_of_mem s hs', hcontains⟩

theorem isShownAt_spansOf {t : Theme} {policy : SelectorPolicy} {size offset : Nat}
    {tokens : List Token} {style : Style} (hlt : offset < size)
    (hstyle : IsStyleAt t policy size tokens offset style) :
    IsShownAt (spansOf t policy size tokens) offset style := by
  have hdisplays := displays_spansOf t policy size tokens
  refine ⟨hdisplays.tiles.exists_contains (Nat.zero_le offset) hlt, fun s hs hcontains ↦ ?_⟩
  obtain ⟨hle, hlt⟩ := Span.contains_iff.mp hcontains
  exact (hdisplays.hasStyle s hs offset hle hlt).unique hstyle

/-- Whether a token with one of some scopes covers an offset. -/
def IsCovered (tokens : List Token) (size offset : Nat) (scopes : List String) : Prop :=
  ∃ k ∈ tokens, k.scope ∈ scopes ∧ k.Covers size offset

instance (tokens : List Token) (size offset : Nat) (scopes : List String) :
    Decidable (IsCovered tokens size offset scopes) :=
  inferInstanceAs (Decidable (∃ k ∈ tokens, k.scope ∈ scopes ∧ k.Covers size offset))

/-! ## Tokens over a literal -/

/-- Whether escapes have a greater rank than literals and the greatest of all, and of the others
only the names have a greater rank than literals. -/
structure RanksLiterals (rank : String → Int) (literals others names : List String)
    (escape : String) : Prop where
  lt_escape : ∀ scope ∈ literals, rank scope < rank escape
  le_escape : ∀ scope ∈ others, rank scope ≤ rank escape
  lt_name : ∀ scope ∈ literals, ∀ name ∈ names, rank scope < rank name
  le_literal : ∀ scope ∈ literals, ∀ other ∈ others, other ∉ names → rank other ≤ rank scope

/-- Literals have one rank, escapes and names a greater one, and whatever else there is has at most
the rank of literals. -/
theorem RanksLiterals.of_eq {rank : String → Int} {literals others names : List String}
    {escape : String} {low high : Int} (hlt : low < high)
    (hliterals : ∀ scope ∈ literals, rank scope = low) (hescape : rank escape = high)
    (hnames : ∀ name ∈ names, rank name = high)
    (hothers : ∀ other ∈ others, other ∈ names ∨ rank other ≤ low) :
    RanksLiterals rank literals others names escape where
  lt_escape := fun scope hscope ↦ by rwa [hliterals scope hscope, hescape]
  le_escape := by
    intro other hother
    rw [hescape]
    rcases hothers other hother with hname | hle
    · exact Int.le_of_eq (hnames other hname)
    · exact Int.le_trans hle (Int.le_of_lt hlt)
  lt_name := fun scope hscope name hname ↦ by rwa [hliterals scope hscope, hnames name hname]
  le_literal := fun scope hscope other hother hnot ↦
    hliterals scope hscope ▸ (hothers other hother).resolve_left hnot

/-- Whether a token covers an offset, and no other one that does lies over it. -/
structure IsTopAt (t : Theme) (policy : SelectorPolicy) (size : Nat) (tokens : List Token)
    (offset place : Nat) (k : Token) : Prop where
  getElem? : tokens[place]? = some k
  covers : k.Covers size offset
  top : ∀ (place' : Nat) (k' : Token), tokens[place']? = some k' → k'.Covers size offset →
    t.rank policy k' < t.rank policy k ∨ t.rank policy k' = t.rank policy k ∧ place' ≤ place

section Top

variable {t : Theme} {policy : SelectorPolicy} {size offset place : Nat} {tokens : List Token}
  {k e : Token} {literals others names : List String} {escape : String}

theorem IsTopAt.rank_le (h : IsTopAt t policy size tokens offset place k) (he : e ∈ tokens)
    (hc : e.Covers size offset) : t.rank policy e ≤ t.rank policy k := by
  obtain ⟨place', hplace'⟩ := List.getElem?_of_mem he
  rcases h.top place' e hplace' hc with hlt | ⟨heq, -⟩
  · exact Int.le_of_lt hlt
  · exact Int.le_of_eq heq

theorem IsTopAt.isStyleAt (h : IsTopAt t policy size tokens offset place k) :
    IsStyleAt t policy size tokens offset (t.resolve policy k.scope).style :=
  .token h.getElem? h.covers h.top

/-- Where a token covers an offset, there is one that no other one lies over. -/
theorem exists_isTopAt (he : e ∈ tokens) (hc : e.Covers size offset) :
    ∃ place k, IsTopAt t policy size tokens offset place k := by
  have hlt : offset < size := Nat.lt_of_lt_of_le hc.2 (Nat.min_le_right _ _)
  have hdisplays := displays_spansOf t policy size tokens
  obtain ⟨s, hs, hcontains⟩ := hdisplays.tiles.exists_contains (Nat.zero_le offset) hlt
  obtain ⟨hle, hlt⟩ := Span.contains_iff.mp hcontains
  have hstyle := hdisplays.hasStyle s hs offset hle hlt
  generalize s.style = style at hstyle
  cases hstyle with
  | base hnone => exact absurd hc (hnone e he)
  | token hk hc htop => exact ⟨_, _, hk, hc, htop⟩

namespace LiteralsLast

/-- Literals and escapes lie over others of the same rank. -/
theorem rank_lt (h : LiteralsLast literals others escape tokens)
    (htop : IsTopAt t policy size tokens offset place k) (hk : k.scope ∈ others) (he : e ∈ tokens)
    (hscope : e.scope ∈ escape :: literals) (hc : e.Covers size offset) :
    t.rank policy e < t.rank policy k := by
  obtain ⟨front, back, rfl, hfront, hback⟩ := h.parts
  have hlt : place < front.length := by
    by_contra hle
    have hget := htop.getElem?
    rw [List.getElem?_append_right (Nat.le_of_not_lt hle)] at hget
    exact h.disjoint k.scope (hback k (List.mem_of_getElem? hget)) hk
  rcases List.mem_append.mp he with he | he
  · exact absurd (hfront e he) (h.disjoint e.scope hscope)
  · obtain ⟨i, hi⟩ := List.getElem?_of_mem he
    have hplace : (front ++ back)[front.length + i]? = some e := by
      rw [List.getElem?_append_right (Nat.le_add_right _ _), Nat.add_sub_cancel_left, hi]
    -- The token comes later, so it cannot lie below at the same rank.
    rcases htop.top _ e hplace hc with hrank | ⟨-, hle⟩
    · exact hrank
    · omega

theorem scope_cases (h : LiteralsLast literals others escape tokens)
    (htop : IsTopAt t policy size tokens offset place k) :
    k.scope ∈ others ∨ k.scope = escape ∨ k.scope ∈ literals := by
  obtain ⟨front, back, rfl, hfront, hback⟩ := h.parts
  rcases List.mem_append.mp (List.mem_of_getElem? htop.getElem?) with hk | hk
  · exact .inl (hfront k hk)
  · exact .inr (List.mem_cons.mp (hback k hk))

/-- Escapes lie over everything else. -/
theorem scope_eq_escape (h : LiteralsLast literals others escape tokens)
    (hranks : RanksLiterals (t.resolve policy · |>.specificity) literals others names escape)
    (htop : IsTopAt t policy size tokens offset place k)
    (hescape : IsCovered tokens size offset [escape]) : k.scope = escape := by
  obtain ⟨e, he, hscope, hc⟩ := hescape
  obtain heq : e.scope = escape := List.mem_singleton.mp hscope
  rcases h.scope_cases htop with hothers | hk | hliteral
  · have hlt := h.rank_lt htop hothers he (List.mem_cons.mpr (.inl heq)) hc
    rw [Theme.rank, heq] at hlt
    exact absurd hlt (Int.not_lt_of_ge (hranks.le_escape k.scope hothers))
  · exact hk
  · have hle := htop.rank_le he hc
    rw [Theme.rank, heq] at hle
    exact absurd hle (Int.not_le_of_gt (hranks.lt_escape k.scope hliteral))

/-- Of the others only names lie over literals. -/
theorem scope_mem_names (h : LiteralsLast literals others escape tokens)
    (hranks : RanksLiterals (t.resolve policy · |>.specificity) literals others names escape)
    (htop : IsTopAt t policy size tokens offset place k) (hothers : k.scope ∈ others)
    (hliteral : IsCovered tokens size offset literals) : k.scope ∈ names := by
  obtain ⟨e, he, hscope, hc⟩ := hliteral
  by_contra hnot
  have hlt := h.rank_lt htop hothers he (List.mem_cons_of_mem escape hscope) hc
  exact Int.not_lt_of_ge (hranks.le_literal e.scope hscope k.scope hothers hnot) hlt

end LiteralsLast

/-- Names lie over literals. -/
theorem RanksLiterals.scope_not_mem
    (hranks : RanksLiterals (t.resolve policy · |>.specificity) literals others names escape)
    (htop : IsTopAt t policy size tokens offset place k)
    (hnames : IsCovered tokens size offset names) : k.scope ∉ literals := by
  obtain ⟨e, he, hscope, hc⟩ := hnames
  exact fun hliteral ↦
    Int.not_le_of_gt (hranks.lt_name k.scope hliteral e.scope hscope) (htop.rank_le he hc)

theorem Token.Covers.between (h : k.Covers size offset) : k.start ≤ offset ∧ offset < k.stop := by
  unfold Covers at h
  omega

/-- **The style of an offset in a literal** is that of an escape, if one covers the offset, or else
that of a name, or else that of the literal. -/
theorem LiteralsLast.isShownAt (h : LiteralsLast literals others escape tokens)
    (hranks : RanksLiterals (t.resolve policy · |>.specificity) literals others names escape)
    (hk : k ∈ tokens) (hscope : k.scope ∈ literals) (hc : k.Covers size offset) :
    (IsCovered tokens size offset [escape] →
      IsShownAt (spansOf t policy size tokens) offset (t.resolve policy escape).style) ∧
    (¬IsCovered tokens size offset [escape] → IsCovered tokens size offset names →
      ∃ e ∈ tokens, e.scope ∈ names ∧ e.Covers size offset ∧
        IsShownAt (spansOf t policy size tokens) offset (t.resolve policy e.scope).style) ∧
    (¬IsCovered tokens size offset (escape :: names) →
      IsShownAt (spansOf t policy size tokens) offset (t.resolve policy k.scope).style) := by
  obtain ⟨place, top, htop⟩ : ∃ place top, IsTopAt t policy size tokens offset place top :=
    exists_isTopAt hk hc
  have hlt : offset < size := Nat.lt_of_lt_of_le hc.2 (Nat.min_le_right _ _)
  have hshown := isShownAt_spansOf hlt htop.isStyleAt
  have hmem := List.mem_of_getElem? htop.getElem?
  have hname := fun hothers ↦ h.scope_mem_names hranks htop hothers ⟨k, hk, hscope, hc⟩
  have hcases : top.scope = escape ∨ top.scope ∈ names ∨ top.scope ∈ literals := by
    rcases h.scope_cases htop with hothers | hescape | hliteral
    · exact .inr (.inl (hname hothers))
    · exact .inl hescape
    · exact .inr (.inr hliteral)
  refine ⟨fun hescape ↦ ?_, fun hescape hnames ↦ ?_, fun hnone ↦ ?_⟩
  · rwa [h.scope_eq_escape hranks htop hescape] at hshown
  · rcases hcases with heq | hnames' | hliteral
    · exact absurd ⟨top, hmem, List.mem_singleton.mpr heq, htop.covers⟩ hescape
    · exact ⟨top, hmem, hnames', htop.covers, hshown⟩
    · exact absurd hliteral (hranks.scope_not_mem htop hnames)
  · rcases hcases with heq | hnames | hliteral
    · exact absurd ⟨top, hmem, List.mem_cons.mpr (.inl heq), htop.covers⟩ hnone
    · exact absurd ⟨top, hmem, List.mem_cons_of_mem escape hnames, htop.covers⟩ hnone
    · obtain ⟨hle, hlt⟩ := hc.between
      obtain ⟨hleTop, hltTop⟩ := htop.covers.between
      rwa [h.unique top hmem k hk hliteral hscope offset hleTop hltTop hle hlt] at hshown

end Top

/-! ## Highlighted texts -/

/-- Whether a text is highlighted, and each offset in a literal is shown in the style of an escape,
if one covers the offset, or else in that of a name, or else in that of the literal. -/
def ShowsLiterals (engine : Engine) (g : Grammar) (t : Theme) (text : String)
    (literals names : List String) (escape : String) : Prop :=
  ∃ tokens spans, tokenize engine g text {} = .ok tokens ∧
    highlight engine g t text {} = .ok spans ∧
    ∀ k ∈ tokens, k.scope ∈ literals → ∀ offset, k.Covers text.utf8ByteSize offset →
      (IsCovered tokens text.utf8ByteSize offset [escape] →
        IsShownAt spans offset (t.resolve .bestMatch escape).style) ∧
      (¬IsCovered tokens text.utf8ByteSize offset [escape] →
        IsCovered tokens text.utf8ByteSize offset names →
        ∃ e ∈ tokens, e.scope ∈ names ∧ e.Covers text.utf8ByteSize offset ∧
          IsShownAt spans offset (t.resolve .bestMatch e.scope).style) ∧
      (¬IsCovered tokens text.utf8ByteSize offset (escape :: names) →
        IsShownAt spans offset (t.resolve .bestMatch k.scope).style)

/-- **The literals of a highlighted text**, for a grammar that ends in literals and a theme that
ranks its scopes. -/
theorem showsLiterals {engine : Engine} {g : Grammar} {t : Theme} {literals : Pattern}
    {others names : List String} {escape : String}
    (hg : g.EndsInLiterals literals others escape)
    (hstrategy : ∀ rule ∈ g.enabledRules, rule.strategy.isOk = true)
    (hengine : engine.Suits g literals)
    (hranks : RanksLiterals (t.resolve .bestMatch · |>.specificity) literals.scopes others names
      escape) (text : String) : ShowsLiterals engine g t text literals.scopes names escape := by
  obtain ⟨table, hcompile⟩ := RuleTable.exists_compile_eq_ok hstrategy hengine.compiles
  obtain ⟨tokens, htokens, -⟩ := exists_tokenize_eq_ok hcompile text {}
  refine ⟨tokens, _, htokens, highlight_eq_ok_iff.mpr ⟨tokens, htokens, rfl⟩, ?_⟩
  intro k hk hscope offset hc
  exact (literalsLast_tokenize hg hengine hcompile htokens).isShownAt hranks hk hscope hc

end Highlighter
