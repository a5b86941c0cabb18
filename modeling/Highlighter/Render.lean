import Highlighter.Span

/-!
# Rendering on a terminal

A text is cut into pieces along its spans, and each piece is written between the control sequences
of its style. Spans are expected in order and without overlaps. One that starts before the last one
written is left out, and so is one that does not begin and end between characters.
-/

namespace Highlighter

/-! ## Pieces -/

/-- A part of a text as it is written. -/
inductive Piece where
  | plain (text : String)
  | styled (style : Style) (text : String)
deriving DecidableEq

/-- The text of a piece. -/
def Piece.text : Piece → String
  | plain text => text
  | styled _ text => text

/-- The text between two byte offsets as an unstyled piece, if there is one. -/
def Source.plain (s : Source) (start stop : Nat) : List Piece :=
  match s.region? start stop with
  | some r => if r.isEmpty then [] else [.plain (s.slice r)]
  | none => []

/-- The pieces from a byte offset on. What lies before a span is written when the span is met,
also if the span itself cannot be written. -/
def Source.piecesFrom (s : Source) (pos : Nat) : List Span → List Piece
  | [] => s.plain pos s.byteSize
  | span :: spans =>
    if span.start < pos then s.piecesFrom pos spans
    else s.plain pos span.start ++
      match s.region? span.start span.stop with
      | some r => .styled span.style (s.slice r) :: s.piecesFrom span.stop spans
      | none => s.piecesFrom pos spans

/-- The pieces of a text. -/
def pieces (text : String) (spans : List Span) : List Piece :=
  (Source.ofString text).piecesFrom 0 spans

/-! ## Control sequences -/

/-- A way in which a terminal sets text apart. -/
inductive TerminalAttribute where
  | bold
  | italic
  | underlined
deriving DecidableEq, Repr

/-- Whether a style asks for an attribute. -/
def Style.asksFor (s : Style) : TerminalAttribute → Bool
  | .bold => s.isBold
  | .italic => s.isItalic
  | .underlined => s.isUnderlined

/-- The attributes that a style asks for. -/
def Style.terminalAttributes (s : Style) : List TerminalAttribute :=
  [TerminalAttribute.bold, .italic, .underlined].filter s.asksFor

/-- The sequence that selects a graphic rendition. -/
def graphic (parameters : List Nat) : String :=
  "\x1b[" ++ ";".intercalate (parameters.map DecimalLayout.digitText) ++ "m"

/-- The parameters for a colour; a terminal knows no alpha channel. -/
def Color.parameters (c : Color) : List Nat := [2, c.red.toNat, c.green.toNat, c.blue.toNat]

/-- The parameter of an attribute. -/
def TerminalAttribute.parameter : TerminalAttribute → Nat
  | bold => 1
  | italic => 3
  | underlined => 4

/-- What is selected before text of a style: the background, the foreground and the attributes. -/
def Style.openings (s : Style) : List (List Nat) :=
  (s.background.map fun c ↦ 48 :: c.parameters).toList
    ++ (s.foreground.map fun c ↦ 38 :: c.parameters).toList
    ++ s.terminalAttributes.map fun a ↦ [a.parameter]

/-- What is selected after text of a style. Attributes are reset together with the colours. -/
def Style.closings (s : Style) : List (List Nat) :=
  if s.terminalAttributes.isEmpty then
    (s.background.map fun _ ↦ [49]).toList ++ (s.foreground.map fun _ ↦ [39]).toList
  else [[0]]

/-- What is written before text of a style. -/
def Style.opening (s : Style) : String := String.join (s.openings.map graphic)

/-- What is written after text of a style. -/
def Style.closing (s : Style) : String := String.join (s.closings.map graphic)

/-- What a terminal is sent for a piece. -/
def Piece.render : Piece → String
  | plain text => text
  | styled style text => style.opening ++ text ++ style.closing

/-- What a terminal is sent for a text with styled spans. -/
def render (text : String) (spans : List Span) : String :=
  String.join ((pieces text spans).map Piece.render)

end Highlighter
