import Highlighter.Highlight
import Highlighter.Proofs.Spans.Sweep
import Highlighter.Proofs.Tokenize.Evaluation
import Highlighter.Proofs.Tokenize.Tokens
import Highlighter.Render

/-!
# What is written for a text

The spans of a text can be written as they are, without anything left out or put in between
(`render_highlight`). Three facts meet here. Spans tile a text. The style changes only where a token
starts or stops, so spans end where tokens do (`Displays.stop_eq`). And tokens end between
characters. What is left is an induction on the spans, by which spans that tile a text and end
between characters are written one by one (`Source.piecesFrom_eq_map`), and make up the text
(`Tiles.isSlice_join`).
-/

namespace Highlighter

/-! ## Where spans end -/

section Ends

variable {t : Theme} {policy : SelectorPolicy} {size start stop : Nat} {tokens : List Token}
  {s : Span} {ss : List Span}

/-- The style changes only where a layer starts or stops. -/
theorem IsStyleAt.exists_layer_of_ne {offset : Nat} {style style' : Style}
    (h : IsStyleAt t policy size tokens offset style)
    (h' : IsStyleAt t policy size tokens (offset + 1) style') (hne : style ≠ style') :
    ∃ l ∈ layers t policy size tokens, offset + 1 = l.start ∨ offset + 1 = l.stop := by
  by_contra hnone
  have hstart : ∀ l ∈ layers t policy size tokens, l.start ≤ offset ∨ offset + 2 ≤ l.start := by
    intro l hl
    have hne : offset + 1 ≠ l.start := fun heq ↦ hnone ⟨l, hl, .inl heq⟩
    omega
  have hstop : ∀ l ∈ layers t policy size tokens, l.stop ≤ offset ∨ offset + 2 ≤ l.stop := by
    intro l hl
    have hne : offset + 1 ≠ l.stop := fun heq ↦ hnone ⟨l, hl, .inr heq⟩
    omega
  have hnext := h.of_between hstart hstop (Nat.le_succ offset) (Nat.lt_succ_self _)
  exact hne (hnext.unique h')

/-- A span ends where all spans end, or where a layer starts or stops. -/
theorem Displays.stop_eq (h : Displays (IsStyleAt t policy size tokens) start stop ss)
    (hs : s ∈ ss) : s.stop = stop ∨
      ∃ l ∈ layers t policy size tokens, s.stop = l.start ∨ s.stop = l.stop := by
  induction ss generalizing start with
  | nil => simp at hs
  | cons first rest ih =>
    rcases List.mem_cons.mp hs with rfl | hs
    · cases rest with
      | nil => exact .inl h.tiles.2.2
      | cons next rest =>
        obtain ⟨-, hlt, hnext, hltNext, -⟩ := h.tiles
        obtain ⟨last, hlast⟩ := Nat.exists_eq_add_one_of_ne_zero (Nat.ne_zero_of_lt hlt)
        -- The last offset of the span and the first one of the next span differ in style.
        have hstyle := h.hasStyle s (by simp) last (by omega) (by omega)
        have hstyleNext := h.hasStyle next (by simp) (last + 1) (by omega) (by omega)
        refine .inr ?_
        rw [hlast]
        exact hstyle.exists_layer_of_ne hstyleNext (List.isChain_cons_cons.mp h.differ).1
    · exact ih h.tail hs

variable {P : Nat → Prop}

/-- What holds of the ends of a text and of the tokens holds of the end of each span. -/
theorem Displays.forall_stop (h : Displays (IsStyleAt t policy size tokens) start size ss)
    (hsize : P size) (htokens : ∀ k ∈ tokens, P k.start ∧ P k.stop) (hs : s ∈ ss) : P s.stop := by
  have hmin : ∀ offset, P offset → P (min offset size) := fun offset ho ↦ by
    rcases Nat.le_total offset size with hle | hle
    · rwa [Nat.min_eq_left hle]
    · rwa [Nat.min_eq_right hle]
  rcases h.stop_eq hs with heq | ⟨l, hl, heq⟩
  · rwa [heq]
  · obtain ⟨place, k, hk, -, rfl⟩ := mem_layers_iff.mp hl
    obtain ⟨hstart, hstop⟩ := htokens k (List.mem_of_getElem? hk)
    rcases heq with heq | heq
    · exact heq ▸ hmin k.start hstart
    · exact heq ▸ hmin k.stop hstop

/-- Each span but the first starts where another one ends. -/
theorem Tiles.forall_start (h : Tiles start stop ss) (hstart : P start)
    (hstop : ∀ s ∈ ss, P s.stop) (hs : s ∈ ss) : P s.start := by
  induction ss generalizing start with
  | nil => simp at hs
  | cons first rest ih =>
    obtain ⟨hfirst, -, hrest⟩ := h
    rcases List.mem_cons.mp hs with rfl | hs
    · rwa [hfirst]
    · exact ih hrest (hstop first (by simp)) (fun s hs ↦ hstop s (List.mem_cons_of_mem first hs)) hs

theorem Tiles.start_lt_stop (h : Tiles start stop ss) (hs : s ∈ ss) : s.start < s.stop := by
  induction ss generalizing start with
  | nil => simp at hs
  | cons first rest ih =>
    obtain ⟨-, hlt, hrest⟩ := h
    rcases List.mem_cons.mp hs with rfl | hs
    · exact hlt
    · exact ih hrest hs

end Ends

/-! ## Writing spans -/

/-- The part of a text in the range of a span. -/
def Span.part (text : String) (s : Span) : String :=
  String.Pos.Raw.extract text ⟨s.start⟩ ⟨s.stop⟩

section Write

variable {text : String} {start stop : Nat} {ss : List Span}

/-- Where tokens end between characters, so do spans. -/
theorem Displays.isSlice_part {t : Theme} {policy : SelectorPolicy} {tokens : List Token}
    (h : Displays (IsStyleAt t policy text.utf8ByteSize tokens) 0 text.utf8ByteSize ss)
    (htokens : ∀ k ∈ tokens, IsSlice text k.start k.stop k.text) :
    ∀ s ∈ ss, IsSlice text s.start s.stop (s.part text) := by
  have hwhole := IsSlice.whole text
  have hstop : ∀ s ∈ ss, String.Pos.Raw.IsValid text ⟨s.stop⟩ := fun s hs ↦
    h.forall_stop (P := fun offset ↦ String.Pos.Raw.IsValid text ⟨offset⟩) hwhole.stop_isValid
      (fun k hk ↦ ⟨(htokens k hk).start_isValid, (htokens k hk).stop_isValid⟩) hs
  intro s hs
  have hstart := h.tiles.forall_start (P := fun offset ↦ String.Pos.Raw.IsValid text ⟨offset⟩)
    hwhole.start_isValid hstop hs
  exact ⟨hstart, hstop s hs, Nat.le_of_lt (h.tiles.start_lt_stop hs), rfl⟩

theorem Source.region?_of_isSlice {s : Source} {part : String}
    (h : IsSlice s.text start stop part) :
    ∃ r, s.region? start stop = some r ∧ s.slice r = part ∧ (r.isEmpty = true ↔ start = stop) := by
  obtain ⟨r, hr, rfl, rfl, rfl⟩ := exists_region h
  refine ⟨r, region?_offset hr, rfl, Region.isEmpty_iff.trans ⟨congrArg s.offset, ?_⟩⟩
  exact offset_inj (Nat.le_trans r.start_le_stop hr) hr

/-- There is no piece between an offset and itself. -/
theorem Source.plain_self {s : Source} (h : String.Pos.Raw.IsValid s.text ⟨start⟩) :
    s.plain start start = [] := by
  obtain ⟨r, hr, -, hempty⟩ := region?_of_isSlice (IsSlice.empty h)
  rw [plain, hr]
  exact if_pos (hempty.mpr rfl)

/-- **Spans that tile a text and end between characters are written one by one.** -/
theorem Source.piecesFrom_eq_map {s : Source} (htiles : Tiles start s.text.utf8ByteSize ss)
    (hstart : String.Pos.Raw.IsValid s.text ⟨start⟩)
    (hslice : ∀ span ∈ ss, IsSlice s.text span.start span.stop (span.part s.text)) :
    s.piecesFrom start ss = ss.map fun span ↦ .styled span.style (span.part s.text) := by
  induction ss generalizing start with
  | nil =>
    rw [piecesFrom, byteSize_eq, ← show start = s.text.utf8ByteSize from htiles]
    exact plain_self hstart
  | cons span rest ih =>
    obtain ⟨rfl, -, hrest⟩ := htiles
    have hspan := hslice span (by simp)
    obtain ⟨r, hr, hpart, -⟩ := region?_of_isSlice hspan
    rw [piecesFrom, if_neg (Nat.lt_irrefl _), plain_self hstart, List.nil_append, hr]
    dsimp only
    rw [hpart, List.map_cons,
      ih hrest hspan.stop_isValid fun span hs ↦ hslice span (List.mem_cons_of_mem _ hs)]

theorem pieces_eq_map (htiles : Tiles 0 text.utf8ByteSize ss)
    (hslice : ∀ span ∈ ss, IsSlice text span.start span.stop (span.part text)) :
    pieces text ss = ss.map fun span ↦ .styled span.style (span.part text) := by
  have hwhole := IsSlice.whole text
  rw [← Source.text_ofString text] at htiles hslice hwhole
  calc pieces text ss
      = ss.map fun span ↦ .styled span.style (span.part (Source.ofString text).text) :=
        Source.piecesFrom_eq_map htiles hwhole.start_isValid hslice
    _ = ss.map fun span ↦ .styled span.style (span.part text) := by rw [Source.text_ofString]

/-- The parts of spans that follow each other make up the text in their range. -/
theorem Tiles.isSlice_join (h : Tiles start stop ss)
    (hstart : String.Pos.Raw.IsValid text ⟨start⟩)
    (hslice : ∀ span ∈ ss, IsSlice text span.start span.stop (span.part text)) :
    IsSlice text start stop (String.join (ss.map (·.part text))) := by
  induction ss generalizing start with
  | nil =>
    obtain rfl : start = stop := h
    exact .empty hstart
  | cons span rest ih =>
    obtain ⟨rfl, -, hrest⟩ := h
    have hspan := hslice span (by simp)
    rw [List.map_cons, String.join_cons]
    exact hspan.append
      (ih hrest hspan.stop_isValid fun span hs ↦ hslice span (List.mem_cons_of_mem _ hs))

end Write

/-! ## Highlighted texts -/

section Highlight

variable {engine : Engine} {g : Grammar} {t : Theme} {text : String} {options : HighlightOptions}
  {spans : List Span} {tokens : List Token}

/-- **A highlighted text is written span by span.** Each span ends between characters, and is
written as one piece in its style; there are no other pieces. Without the control sequences this is
the text. The styles are those of the tokens. -/
theorem render_highlight (h : highlight engine g t text options = .ok spans) :
    (∀ span ∈ spans, IsSlice text span.start span.stop (span.part text)) ∧
    pieces text spans = spans.map (fun span ↦ .styled span.style (span.part text)) ∧
    String.join ((pieces text spans).map Piece.text) = text ∧
    render text spans = String.join
      (spans.map fun span ↦ span.style.opening ++ span.part text ++ span.style.closing) ∧
    ∃ tokens, tokenize engine g text options.tokenize = .ok tokens ∧
      Displays (IsStyleAt t options.selectorPolicy text.utf8ByteSize tokens) 0
        text.utf8ByteSize spans := by
  obtain ⟨tokens, htokens, rfl⟩ := highlight_eq_ok_iff.mp h
  have hdisplays := displays_spansOf t options.selectorPolicy text.utf8ByteSize tokens
  have hslice := hdisplays.isSlice_part fun k hk ↦ isSlice_of_mem_tokenize htokens hk
  have hpieces := pieces_eq_map hdisplays.tiles hslice
  refine ⟨hslice, hpieces, ?_, ?_, tokens, htokens, hdisplays⟩
  · rw [hpieces, List.map_map]
    exact (hdisplays.tiles.isSlice_join (IsSlice.whole text).start_isValid hslice).eq_text
  · rw [render, hpieces, List.map_map]
    rfl

end Highlight

/-- A theme for the letter of the cyclic grammar. -/
def letterTheme : Theme := { rules := [⟨⟨["variable"]⟩, .ofList [("fontStyle", "italic")]⟩] }

/-- The tokens of a text with the letter at its end. -/
def letterTokens : List Token := [⟨3, 4, "variable", "x"⟩]

/-- The spans of this text. -/
def letterSpans : List Span := [⟨0, 3, .empty⟩, ⟨3, 4, .ofList [("fontStyle", "italic")]⟩]

theorem displays_letterSpans :
    Displays (IsStyleAt letterTheme .bestMatch 4 letterTokens) 0 4 letterSpans where
  tiles := ⟨rfl, by decide, rfl, by decide, rfl⟩
  hasStyle := by
    intro span hspan offset hle hlt
    rcases List.mem_pair.mp hspan with rfl | rfl
    · refine .base fun k hk hc ↦ ?_
      obtain rfl := List.mem_singleton.mp hk
      unfold Token.Covers at hc
      dsimp only at hlt hc
      omega
    · have hletter : letterTokens[0]? = some ⟨3, 4, "variable", "x"⟩ := rfl
      refine .token hletter ⟨hle, hlt⟩ fun place k hk _ ↦ ?_
      cases place with
      | zero =>
        obtain rfl := Option.some.inj hk
        exact .inr ⟨rfl, Nat.le_refl 0⟩
      | succ place => cases hk
  differ := by decide

theorem render_highlight_cyclicGrammar :
    highlight letterEngine cyclicGrammar letterTheme "é x" {} = .ok letterSpans ∧
    (∀ span ∈ letterSpans, IsSlice "é x" span.start span.stop (span.part "é x")) ∧
    pieces "é x" letterSpans =
      letterSpans.map (fun span ↦ .styled span.style (span.part "é x")) ∧
    String.join ((pieces "é x" letterSpans).map Piece.text) = "é x" ∧
    render "é x" letterSpans = String.join
      (letterSpans.map fun span ↦ span.style.opening ++ span.part "é x" ++ span.style.closing) ∧
    ∃ tokens, tokenize letterEngine cyclicGrammar "é x" {} = .ok tokens ∧
      Displays (IsStyleAt letterTheme .bestMatch 4 tokens) 0 4 letterSpans := by
  have htokens : tokenize letterEngine cyclicGrammar "é x" {} = .ok letterTokens :=
    tokenize_eq_ok_of_tokenizeUpTo (n := 6) (by decide +kernel)
  have hdisplays := displays_spansOf letterTheme .bestMatch 4 letterTokens
  have hspans : spansOf letterTheme .bestMatch 4 letterTokens = letterSpans :=
    hdisplays.unique (fun _ _ _ h h' ↦ h.unique h') displays_letterSpans
  have h : highlight letterEngine cyclicGrammar letterTheme "é x" {} = .ok letterSpans :=
    highlight_eq_ok_iff.mpr ⟨letterTokens, htokens, hspans⟩
  exact ⟨h, render_highlight h⟩

end Highlighter
