import Highlighter.Proofs.Render.Pieces

/-!
# What a terminal shows

A control sequence changes the look of the text that comes after it, up to the next sequence. So a
terminal is told by what sequences do to a look (`Look.select`), and what it shows of a text is the
text with the looks that its parts have come to have (`shown`).

What is sent before text of a style leads from the look that a terminal begins with to the look of
the style, and what is sent after it leads back (`foldl_select_openings`, `foldl_select_closings`).
The piece after it therefore begins where the first one did, and from an induction on the pieces
each of them is shown in its own look (`shown_flatMap_sent`): text without a style as the terminal
shows text by itself.
-/

namespace Highlighter

/-! ## Looks -/

/-- How a terminal shows text. A colour is given by its channels; where there is none, it is the one
that the terminal has by itself. -/
structure Look where
  foreground : Option (Nat × Nat × Nat) := none
  background : Option (Nat × Nat × Nat) := none
  /-- The attributes in the order in which they were selected. -/
  attributes : List TerminalAttribute := []
deriving DecidableEq

/-- What parameters change. Those that no style needs change nothing here. -/
def Look.select (l : Look) : List Nat → Look
  | [0] => {}
  | [1] => { l with attributes := l.attributes ++ [.bold] }
  | [3] => { l with attributes := l.attributes ++ [.italic] }
  | [4] => { l with attributes := l.attributes ++ [.underlined] }
  | [38, 2, red, green, blue] => { l with foreground := some (red, green, blue) }
  | [39] => { l with foreground := none }
  | [48, 2, red, green, blue] => { l with background := some (red, green, blue) }
  | [49] => { l with background := none }
  | _ => l

/-- The channels of a colour that a terminal knows. -/
def Color.channels (c : Color) : Nat × Nat × Nat := (c.red.toNat, c.green.toNat, c.blue.toNat)

/-- The look of a style. -/
def Style.look (s : Style) : Look :=
  ⟨s.foreground.map Color.channels, s.background.map Color.channels, s.terminalAttributes⟩

/-- A style asks for each of its attributes, and for no other ones. -/
theorem Style.mem_terminalAttributes_iff {s : Style} {a : TerminalAttribute} :
    a ∈ s.terminalAttributes ↔ s.asksFor a = true := by
  rw [terminalAttributes, List.mem_filter]
  exact and_iff_right (by cases a <;> decide)

namespace Look

theorem foldl_select_attributes (as : List TerminalAttribute) (l : Look) :
    (as.map fun a ↦ [a.parameter]).foldl select l =
      { l with attributes := l.attributes ++ as } := by
  induction as generalizing l with
  | nil => rw [List.append_nil]; rfl
  | cons a as ih =>
    have hselect : l.select [a.parameter] = { l with attributes := l.attributes ++ [a] } := by
      cases a <;> rfl
    rw [List.map_cons, List.foldl_cons, hselect, ih, List.append_assoc]
    rfl

theorem foldl_select_background {l : Look} (h : l.background = none) (c : Option Color) :
    (c.map fun c ↦ 48 :: c.parameters).toList.foldl select l =
      { l with background := c.map Color.channels } := by
  cases c with
  | none => exact congrArg (fun b ↦ { l with background := b }) h
  | some c => rfl

theorem foldl_select_foreground {l : Look} (h : l.foreground = none) (c : Option Color) :
    (c.map fun c ↦ 38 :: c.parameters).toList.foldl select l =
      { l with foreground := c.map Color.channels } := by
  cases c with
  | none => exact congrArg (fun b ↦ { l with foreground := b }) h
  | some c => rfl

/-- **What is sent before text of a style** makes a terminal show it in the look of the style. -/
theorem foldl_select_openings (s : Style) : s.openings.foldl select {} = s.look := by
  rw [Style.openings, List.foldl_append, List.foldl_append, foldl_select_background rfl,
    foldl_select_foreground rfl, foldl_select_attributes]
  rfl

/-- **What is sent after text of a style** undoes all that was sent before it. -/
theorem foldl_select_closings (s : Style) : s.closings.foldl select s.look = {} := by
  rw [Style.closings, Style.look]
  cases hattributes : s.terminalAttributes with
  | nil => cases s.foreground <;> cases s.background <;> rfl
  | cons a as => rfl

end Look

/-! ## Pieces -/

/-- A part of what a terminal is sent. -/
inductive Sent where
  | text (t : String)
  /-- A control sequence with its parameters. -/
  | graphic (parameters : List Nat)

/-- How a part is written. -/
def Sent.written : Sent → String
  | text t => t
  | graphic parameters => Highlighter.graphic parameters

/-- What a terminal with a look shows of what it is sent: texts with their looks. -/
def shown (l : Look) : List Sent → List (Look × String)
  | [] => []
  | .text t :: rest => (l, t) :: shown l rest
  | .graphic parameters :: rest => shown (l.select parameters) rest

/-- A terminal goes through control sequences to the next text. -/
theorem shown_graphic_append (l : Look) (selections : List (List Nat)) (rest : List Sent) :
    shown l (selections.map .graphic ++ rest) = shown (selections.foldl Look.select l) rest := by
  induction selections generalizing l with
  | nil => rfl
  | cons parameters selections ih =>
    rw [List.map_cons, List.cons_append, shown, ih, List.foldl_cons]

/-- The parts that are sent for a piece. -/
def Piece.sent : Piece → List Sent
  | plain t => [.text t]
  | styled s t => s.openings.map .graphic ++ .text t :: s.closings.map .graphic

/-- The look that a piece asks for. -/
def Piece.look : Piece → Look
  | plain _ => {}
  | styled s _ => s.look

theorem Piece.join_sent (p : Piece) : String.join (p.sent.map Sent.written) = p.render := by
  cases p with
  | plain t =>
    rw [sent, List.map_singleton, String.join_cons, String.join_nil, String.append_empty]
    rfl
  | styled s t =>
    have hgraphic : Sent.written ∘ Sent.graphic = Highlighter.graphic := rfl
    rw [sent, List.map_append, List.map_cons, List.map_map, List.map_map, hgraphic,
      String.join_append, String.join_cons, render, Style.opening, Style.closing,
      String.append_assoc]
    rfl

/-- What is shown for a piece leaves a terminal as it was. -/
theorem shown_sent_append (p : Piece) (rest : List Sent) :
    shown {} (p.sent ++ rest) = (p.look, p.text) :: shown {} rest := by
  cases p with
  | plain t => rfl
  | styled s t =>
    rw [Piece.sent, List.append_assoc, shown_graphic_append, Look.foldl_select_openings,
      List.cons_append, shown, shown_graphic_append, Look.foldl_select_closings]
    rfl

/-- **Each piece is shown in its own look**, whatever comes before it. -/
theorem shown_flatMap_sent (ps : List Piece) :
    shown {} (ps.flatMap Piece.sent) = ps.map fun p ↦ (p.look, p.text) := by
  induction ps with
  | nil => rfl
  | cons p ps ih => rw [List.flatMap_cons, shown_sent_append, ih, List.map_cons]

/-! ## Texts -/

/-- The parts that are sent for a text. -/
def sent (text : String) (spans : List Span) : List Sent := (pieces text spans).flatMap Piece.sent

theorem join_sent (text : String) (spans : List Span) :
    String.join ((sent text spans).map Sent.written) = render text spans := by
  rw [render, sent]
  induction pieces text spans with
  | nil => rfl
  | cons p ps ih =>
    rw [List.flatMap_cons, List.map_append, String.join_append, ih, p.join_sent, List.map_cons,
      String.join_cons]

/-- **What a terminal shows of a highlighted text**: its spans, each in the look of its style. -/
theorem shown_sent_of_highlight {engine : Engine} {g : Grammar} {t : Theme} {text : String}
    {options : HighlightOptions} {spans : List Span}
    (h : highlight engine g t text options = .ok spans) :
    shown {} (sent text spans) = spans.map fun span ↦ (span.style.look, span.part text) := by
  obtain ⟨tokens, htokens, rfl⟩ := highlight_eq_ok_iff.mp h
  have hdisplays := displays_spansOf t options.selectorPolicy text.utf8ByteSize tokens
  have hslice := hdisplays.isSlice_part fun k hk ↦ isSlice_of_mem_tokenize htokens hk
  rw [sent, shown_flatMap_sent, pieces_eq_map hdisplays.tiles hslice, List.map_map]
  rfl

end Highlighter
