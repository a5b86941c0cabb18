import Highlighter.Proofs.Render.Pieces

/-!
# What is written for any spans

Spans that come from tokens tile their text. Spans from elsewhere may overlap, run backwards, or end
inside a character or behind the text. What is written for them is told by a cursor, the offset up
to which the text is written. A span that begins before the cursor is left out, and so is one that
does not fit into the text; only a span that is written moves the cursor.

Nothing of the text is lost or comes in another order. But when a span is met that does not fit,
the text before it has been written already, and as the cursor stays where it was, this text is
written again (`pieces_repeat_before_misfit`). This is the only way in which more than the text is
written, so how much more it is can be counted from the spans alone (`repeatedBytes`).
-/

namespace Highlighter

/-! ## The cursor -/

/-- Whether a span can be cut out of a text: it begins and ends between characters of the text, and
does not run backwards. -/
def Span.Fits (text : String) (s : Span) : Prop :=
  String.Pos.Raw.IsValid text ⟨s.start⟩ ∧ String.Pos.Raw.IsValid text ⟨s.stop⟩ ∧ s.start ≤ s.stop

instance (text : String) (s : Span) : Decidable (s.Fits text) :=
  inferInstanceAs (Decidable (_ ∧ _ ∧ _))

/-- The cursor after a span is met. -/
def cursorAfter (text : String) (cursor : Nat) (s : Span) : Nat :=
  if cursor ≤ s.start ∧ s.Fits text then s.stop else cursor

/-- Whether a span makes text be written again: it begins behind the cursor and between characters,
so that the text before it is written, and does not fit itself. -/
def Span.Repeats (text : String) (cursor : Nat) (s : Span) : Prop :=
  cursor < s.start ∧ String.Pos.Raw.IsValid text ⟨s.start⟩ ∧ ¬s.Fits text

instance (text : String) (cursor : Nat) (s : Span) : Decidable (s.Repeats text cursor) :=
  inferInstanceAs (Decidable (_ ∧ _ ∧ ¬_))

/-- How many bytes are written in excess of the text, from a cursor on. -/
def repeatedBytes (text : String) : Nat → List Span → Nat
  | _, [] => 0
  | cursor, s :: ss => (if s.Repeats text cursor then s.start - cursor else 0)
      + repeatedBytes text (cursorAfter text cursor s) ss

/-- Nothing is written in excess if and only if no span is met that makes text be written again. -/
theorem repeatedBytes_eq_zero_iff {text : String} {cursor : Nat} {ss : List Span} :
    repeatedBytes text cursor ss = 0 ↔
      ∀ before s after, ss = before ++ s :: after →
        ¬s.Repeats text (before.foldl (cursorAfter text) cursor) := by
  induction ss generalizing cursor with
  | nil =>
    refine ⟨fun _ before s after h ↦ ?_, fun _ ↦ rfl⟩
    exact absurd h.symm (List.append_ne_nil_of_right_ne_nil _ (List.cons_ne_nil _ _))
  | cons first rest ih =>
    rw [repeatedBytes, Nat.add_eq_zero_iff, ih]
    constructor
    · rintro ⟨hfirst, hrest⟩ before s after h
      cases before with
      | nil =>
        obtain ⟨rfl, -⟩ := List.cons.inj h
        intro (hrepeats : first.Repeats text cursor)
        rw [if_pos hrepeats] at hfirst
        exact Nat.sub_ne_zero_of_lt hrepeats.1 hfirst
      | cons first' before =>
        obtain ⟨rfl, htail⟩ := List.cons.inj h
        exact hrest before s after htail
    · intro h
      refine ⟨if_neg (h [] first rest rfl), fun before s after hrest ↦ ?_⟩
      exact h (first :: before) s after (by rw [hrest, List.cons_append])

/-! ## One span -/

theorem IsSlice.add_utf8ByteSize {text part : String} {start stop : Nat}
    (h : IsSlice text start stop part) : start + part.utf8ByteSize = stop := by
  rw [← Source.text_ofString text] at h
  obtain ⟨r, hr, rfl, rfl, rfl⟩ := Source.exists_region h
  rw [Source.offset_eq_add r.start_le_stop hr, ← Source.toList_slice, ← String.utf8ByteSize_ofList,
    String.ofList_toList]

theorem le_of_isValid {text : String} {offset : Nat} (h : String.Pos.Raw.IsValid text ⟨offset⟩) :
    offset ≤ text.utf8ByteSize :=
  h.le_rawEndPos

/-- The text of one piece alone. -/
theorem join_text_singleton (p : Piece) : String.join ([p].map Piece.text) = p.text := by
  rw [List.map_singleton, String.join_cons, String.join_nil, String.append_empty]

namespace Source

variable {s : Source} {cursor stop : Nat} {span : Span} {spans : List Span}

theorem fits_of_region?_eq_some {r : Region} (h : s.region? span.start span.stop = some r) :
    span.Fits s.text := by
  have hslice := isSlice_of_region?_eq_some h
  exact ⟨hslice.start_isValid, hslice.stop_isValid, hslice.start_le_stop⟩

/-- The text that is written between two offsets. -/
theorem isSlice_plain (hcursor : String.Pos.Raw.IsValid s.text ⟨cursor⟩)
    (hstop : String.Pos.Raw.IsValid s.text ⟨stop⟩) (hle : cursor ≤ stop) :
    IsSlice s.text cursor stop (String.join ((s.plain cursor stop).map Piece.text)) := by
  obtain ⟨r, hr, hpart, hempty⟩ := region?_of_isSlice ⟨hcursor, hstop, hle, rfl⟩
  rw [plain, hr]
  dsimp only
  by_cases h : r.isEmpty = true
  · obtain rfl := hempty.mp h
    rw [if_pos h]
    exact .empty hcursor
  · rw [if_neg h, join_text_singleton]
    exact ⟨hcursor, hstop, hle, hpart⟩

theorem plain_eq_nil (h : ¬String.Pos.Raw.IsValid s.text ⟨stop⟩) : s.plain cursor stop = [] := by
  rw [plain]
  cases hr : s.region? cursor stop with
  | none => rfl
  | some r => exact absurd (isSlice_of_region?_eq_some hr).stop_isValid h

/-- **What a span does.** It is written behind the text before it, or nothing is written for it, or
only the text before it is written, and the cursor stays where it is. -/
theorem piecesFrom_cons_cases (s : Source) (span : Span) (spans : List Span)
    (hcursor : String.Pos.Raw.IsValid s.text ⟨cursor⟩) :
    (∃ gap, IsSlice s.text cursor span.stop
        (String.join (gap.map Piece.text) ++ span.part s.text) ∧
      ¬span.Repeats s.text cursor ∧ cursorAfter s.text cursor span = span.stop ∧
      s.piecesFrom cursor (span :: spans) =
        gap ++ .styled span.style (span.part s.text) :: s.piecesFrom span.stop spans) ∨
    (¬span.Repeats s.text cursor ∧ cursorAfter s.text cursor span = cursor ∧
      s.piecesFrom cursor (span :: spans) = s.piecesFrom cursor spans) ∨
    (∃ gap, IsSlice s.text cursor span.start (String.join (gap.map Piece.text)) ∧
      span.Repeats s.text cursor ∧ cursorAfter s.text cursor span = cursor ∧
      s.piecesFrom cursor (span :: spans) = gap ++ s.piecesFrom cursor spans) := by
  rw [piecesFrom, cursorAfter]
  by_cases hlt : span.start < cursor
  · -- The span begins in front of the cursor: it is left out before anything is written.
    refine .inr (.inl ⟨fun h ↦ Nat.lt_asymm hlt h.1, if_neg fun h ↦ ?_, if_pos hlt⟩)
    exact Nat.not_le_of_lt hlt h.1
  · have hle := Nat.le_of_not_lt hlt
    rw [if_neg hlt]
    by_cases hfits : span.Fits s.text
    · have hpart : IsSlice s.text span.start span.stop (span.part s.text) :=
        ⟨hfits.1, hfits.2.1, hfits.2.2, rfl⟩
      obtain ⟨r, hr, hslice, -⟩ := region?_of_isSlice hpart
      refine .inl ⟨s.plain cursor span.start, ?_, fun h ↦ h.2.2 hfits, if_pos ⟨hle, hfits⟩, ?_⟩
      · exact (isSlice_plain hcursor hfits.1 hle).append hpart
      · rw [hr]
        dsimp only
        rw [hslice]
    · -- The text before the span is written before it turns out that the span does not fit.
      have hregion : s.region? span.start span.stop = none :=
        Option.eq_none_iff_forall_ne_some.mpr fun r hr ↦ hfits (fits_of_region?_eq_some hr)
      rw [hregion, if_neg fun h ↦ hfits h.2]
      dsimp only
      by_cases hrepeats : span.Repeats s.text cursor
      · exact .inr (.inr ⟨_, isSlice_plain hcursor hrepeats.2.1 hle, hrepeats, rfl, rfl⟩)
      · refine .inr (.inl ⟨hrepeats, rfl, ?_⟩)
        -- The text before the span is empty, or its end lies inside a character.
        by_cases hstart : String.Pos.Raw.IsValid s.text ⟨span.start⟩
        · have heq : cursor = span.start := by
            refine Nat.le_antisymm hle (Nat.le_of_not_lt fun h ↦ hrepeats ⟨h, hstart, hfits⟩)
          rw [heq, plain_self hstart, List.nil_append]
        · rw [plain_eq_nil hstart, List.nil_append]

/-! ## All spans -/

theorem isSlice_rest (hcursor : String.Pos.Raw.IsValid s.text ⟨cursor⟩) :
    IsSlice s.text cursor s.text.utf8ByteSize
      (String.join ((s.piecesFrom cursor []).map Piece.text)) := by
  rw [piecesFrom, byteSize_eq]
  exact isSlice_plain hcursor (IsSlice.whole s.text).stop_isValid (le_of_isValid hcursor)

/-- Nothing is lost, and nothing comes in another order. -/
theorem exists_sublist_piecesFrom (spans : List Span)
    (hcursor : String.Pos.Raw.IsValid s.text ⟨cursor⟩) :
    ∃ kept : List Piece, kept.Sublist (s.piecesFrom cursor spans) ∧
      IsSlice s.text cursor s.text.utf8ByteSize (String.join (kept.map Piece.text)) := by
  induction spans generalizing cursor with
  | nil => exact ⟨_, List.Sublist.refl _, isSlice_rest hcursor⟩
  | cons span spans ih =>
    rcases s.piecesFrom_cons_cases span spans hcursor with
      ⟨gap, hgap, -, -, hpieces⟩ | ⟨-, -, hpieces⟩ | ⟨gap, -, -, -, hpieces⟩
    · obtain ⟨kept, hkept, hslice⟩ := ih hgap.stop_isValid
      refine ⟨gap ++ .styled span.style (span.part s.text) :: kept, ?_, ?_⟩
      · rw [hpieces]
        exact (hkept.cons_cons _).append_left gap
      · rw [List.map_append, String.join_append, List.map_cons, String.join_cons,
          ← String.append_assoc]
        exact hgap.append hslice
    · rw [hpieces]
      exact ih hcursor
    · -- The gap is written again later, so it is not kept here.
      obtain ⟨kept, hkept, hslice⟩ := ih hcursor
      rw [hpieces]
      exact ⟨kept, hkept.trans (List.sublist_append_right gap _), hslice⟩

/-- What is written is longer than the text by what is written again. -/
theorem utf8ByteSize_join_piecesFrom (spans : List Span)
    (hcursor : String.Pos.Raw.IsValid s.text ⟨cursor⟩) :
    cursor + (String.join ((s.piecesFrom cursor spans).map Piece.text)).utf8ByteSize =
      s.text.utf8ByteSize + repeatedBytes s.text cursor spans := by
  induction spans generalizing cursor with
  | nil => exact (isSlice_rest hcursor).add_utf8ByteSize
  | cons span spans ih =>
    rcases s.piecesFrom_cons_cases span spans hcursor with
      ⟨gap, hgap, hrepeats, hafter, hpieces⟩ | ⟨hrepeats, hafter, hpieces⟩ |
      ⟨gap, hgap, hrepeats, hafter, hpieces⟩
    · have hsize := hgap.add_utf8ByteSize
      have hrest := ih hgap.stop_isValid
      rw [hpieces, repeatedBytes, if_neg hrepeats, hafter, List.map_append, String.join_append,
        List.map_cons, String.join_cons, ← String.append_assoc, String.utf8ByteSize_append]
      rw [Piece.text]
      omega
    · rw [hpieces, repeatedBytes, if_neg hrepeats, hafter, Nat.zero_add]
      exact ih hcursor
    · have hsize := hgap.add_utf8ByteSize
      have hrest := ih hcursor
      rw [hpieces, repeatedBytes, if_pos hrepeats, hafter, List.map_append, String.join_append,
        String.utf8ByteSize_append]
      omega

/-- Where nothing is written again, what is written is the text. -/
theorem isSlice_join_piecesFrom (hcursor : String.Pos.Raw.IsValid s.text ⟨cursor⟩)
    (h : repeatedBytes s.text cursor spans = 0) :
    IsSlice s.text cursor s.text.utf8ByteSize
      (String.join ((s.piecesFrom cursor spans).map Piece.text)) := by
  induction spans generalizing cursor with
  | nil => exact isSlice_rest hcursor
  | cons span spans ih =>
    rw [repeatedBytes, Nat.add_eq_zero_iff] at h
    rcases s.piecesFrom_cons_cases span spans hcursor with
      ⟨gap, hgap, -, hafter, hpieces⟩ | ⟨-, hafter, hpieces⟩ | ⟨-, -, hrepeats, -, -⟩
    · rw [hpieces, List.map_append, String.join_append, List.map_cons, String.join_cons,
        ← String.append_assoc]
      exact hgap.append (ih hgap.stop_isValid (hafter ▸ h.2))
    · rw [hpieces]
      exact ih hcursor (hafter ▸ h.2)
    · rw [if_pos hrepeats] at h
      exact absurd h.1 (Nat.sub_ne_zero_of_lt hrepeats.1)

end Source

theorem join_pieces_of_repeatedBytes_eq_zero {text : String} {spans : List Span}
    (h : repeatedBytes text 0 spans = 0) :
    String.join ((pieces text spans).map Piece.text) = text := by
  rw [← Source.text_ofString text] at h
  have hwhole := IsSlice.whole (Source.ofString text).text
  have hslice := (Source.isSlice_join_piecesFrom hwhole.start_isValid h).eq_text
  rwa [Source.text_ofString] at hslice

/-- Spans that fit are written without anything left out or repeated, whatever their order. -/
theorem join_pieces_of_fits {text : String} {spans : List Span}
    (h : ∀ s ∈ spans, s.Fits text) : String.join ((pieces text spans).map Piece.text) = text := by
  refine join_pieces_of_repeatedBytes_eq_zero (repeatedBytes_eq_zero_iff.mpr ?_)
  rintro before s after rfl hrepeats
  exact hrepeats.2.2 (h s (by simp))

/-- The spans of a highlighted text fit. -/
theorem join_pieces_of_highlight_eq_ok {engine : Engine} {g : Grammar} {t : Theme} {text : String}
    {options : HighlightOptions} {spans : List Span}
    (h : highlight engine g t text options = .ok spans) :
    String.join ((pieces text spans).map Piece.text) = text := by
  obtain ⟨tokens, htokens, rfl⟩ := highlight_eq_ok_iff.mp h
  refine join_pieces_of_fits fun s hs ↦ ?_
  have hdisplays := displays_spansOf t options.selectorPolicy text.utf8ByteSize tokens
  have hslice := hdisplays.isSlice_part (fun k hk ↦ isSlice_of_mem_tokenize htokens hk) s hs
  exact ⟨hslice.start_isValid, hslice.stop_isValid, hslice.start_le_stop⟩

/-- **What is written for any spans.** In the pieces for a text there are some that make up the
text, in order. What is written besides is as long as what is written again. So the pieces make up
the text exactly if no span is met that begins behind the cursor and between characters and does
not fit. -/
theorem join_pieces_eq_iff (text : String) (spans : List Span) :
    (∃ kept : List Piece, kept.Sublist (pieces text spans) ∧
      String.join (kept.map Piece.text) = text) ∧
    (String.join ((pieces text spans).map Piece.text)).utf8ByteSize =
      text.utf8ByteSize + repeatedBytes text 0 spans ∧
    (String.join ((pieces text spans).map Piece.text) = text ↔
      ∀ before s after, spans = before ++ s :: after →
        ¬s.Repeats text (before.foldl (cursorAfter text) 0)) := by
  have hwhole := IsSlice.whole text
  have hsize : (String.join ((pieces text spans).map Piece.text)).utf8ByteSize =
      text.utf8ByteSize + repeatedBytes text 0 spans := by
    rw [← Source.text_ofString text] at hwhole
    have h := Source.utf8ByteSize_join_piecesFrom spans hwhole.start_isValid
    rwa [Nat.zero_add, Source.text_ofString] at h
  refine ⟨?_, hsize, ?_⟩
  · rw [← Source.text_ofString text] at hwhole
    obtain ⟨kept, hkept, hslice⟩ := Source.exists_sublist_piecesFrom spans hwhole.start_isValid
    exact ⟨kept, hkept, hslice.eq_text.trans (Source.text_ofString text)⟩
  · rw [← repeatedBytes_eq_zero_iff]
    constructor
    · intro h
      rw [h] at hsize
      exact Nat.left_eq_add.mp hsize
    · exact join_pieces_of_repeatedBytes_eq_zero

/-- A span that ends behind its text makes the text before it be written twice. -/
theorem pieces_repeat_before_misfit :
    pieces "ab" [⟨1, 5, .empty⟩] = [.plain "a", .plain "ab"] ∧
      String.join ((pieces "ab" [⟨1, 5, .empty⟩]).map Piece.text) ≠ "ab" := by
  decide +kernel

end Highlighter
