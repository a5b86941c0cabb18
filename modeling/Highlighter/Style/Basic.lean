import Highlighter.Decimal.Layout
import Highlighter.Decimal.Reader
import Highlighter.SortedMap
import Highlighter.Style.Color

/-!
# Styles

A style is an open table of attributes, as theme documents have them. It is kept as it is, and what
a terminal understands of it is read off on demand: colours, the size, slant and weight of the font,
and whether the text is underlined.
-/

namespace Highlighter

/-! ## Fonts -/

/-- The slant of a font. -/
inductive FontStyle where
  | normal
  | italic
  | oblique
deriving DecidableEq, Repr

/-- The weight of a font. -/
inductive FontWeight where
  | thin
  | extraLight
  | light
  | semiLight
  | normal
  | medium
  | semiBold
  | bold
  | extraBold
  | black
  | extraBlack
deriving DecidableEq, Repr

namespace FontWeight

/-- The weights from the lightest to the heaviest, with their names and numbers. -/
def table : List (FontWeight × String × String) :=
  [(thin, "thin", "100"), (extraLight, "extralight", "200"), (light, "light", "300"),
    (semiLight, "semilight", "350"), (normal, "normal", "400"), (medium, "medium", "500"),
    (semiBold, "semibold", "600"), (bold, "bold", "700"), (extraBold, "extrabold", "800"),
    (black, "black", "900"), (extraBlack, "extrablack", "950")]

/-- Reads a weight: its name in letters of either case, or its number. -/
def ofString? (text : String) : Option FontWeight :=
  let text := Words.asciiLower (Words.trim text)
  (table.find? fun (_, name, number) ↦ text == name || text == number).map (·.1)

/-- Whether a terminal shows the weight as bold: from half bold on. -/
def isBold : FontWeight → Bool
  | semiBold | bold | extraBold | black | extraBlack => true
  | _ => false

end FontWeight

/-! ## Styles -/

/-- A table of attributes. -/
structure Style where
  attributes : SortedMap String String
deriving DecidableEq

namespace Style

/-- The style without attributes. -/
def empty : Style := ⟨.empty⟩

instance : Inhabited Style := ⟨empty⟩

/-- The style of a list of attributes, in which a later value of a key replaces an earlier one. -/
def ofList (l : List (String × String)) : Style := ⟨.ofList l⟩

/-- Sets an attribute. -/
def set (s : Style) (key value : String) : Style := ⟨s.attributes.insert key value⟩

/-- The value of an attribute. -/
def get? (s : Style) (key : String) : Option String := s.attributes.get? key

/-- The attributes in ascending order of key. -/
def toList (s : Style) : List (String × String) := s.attributes.entries

/-- Whether there are no attributes. -/
def isEmpty (s : Style) : Bool := s.attributes.isEmpty

/-! ## Views -/

/-- The colour of the text. -/
def foreground (s : Style) : Option Color := (s.get? "foreground").bind Color.ofString?

/-- The colour behind the text. -/
def background (s : Style) : Option Color := (s.get? "background").bind Color.ofString?

/-- The colour of a selection. -/
def selection (s : Style) : Option Color := (s.get? "selection").bind Color.ofString?

/-- The size of the font. -/
def fontSize (s : Style) : Option BinaryNumber :=
  (s.get? "fontSize").bind fun t ↦ BinaryFormat.single.read? (Words.trimChars t.toList)

/-- The words of the font style. -/
def fontStyleWords (s : Style) : List String := Words.words ((s.get? "fontStyle").getD "")

/-- The slant that a word stands for. -/
def FontStyle.ofWord? : String → Option FontStyle
  | "italic" => some .italic
  | "oblique" => some .oblique
  | "normal" => some .normal
  | _ => none

/-- The slant of the font: that of the last word that stands for one. -/
def fontStyle (s : Style) : Option FontStyle :=
  (s.fontStyleWords.filterMap FontStyle.ofWord?).getLast?

/-- The weight of the font. The font style may ask for bold where no weight is given. -/
def fontWeight (s : Style) : Option FontWeight :=
  match (s.get? "fontWeight").bind FontWeight.ofString? with
  | some w => some w
  | none => if s.fontStyleWords.contains "bold" then some .bold else none

/-- Whether the text is bold. -/
def isBold (s : Style) : Bool := s.fontWeight.any FontWeight.isBold

/-- Whether the text is slanted. -/
def isItalic (s : Style) : Bool :=
  s.fontStyle == some .italic || s.fontStyle == some .oblique

/-- Whether the text is underlined. -/
def isUnderlined (s : Style) : Bool := s.fontStyleWords.contains "underline"

/-- Font sizes are written out from `1e-4` up to `1e16`. -/
def fontSizeLayout : DecimalLayout := ⟨-4, 16, false⟩

end Style

/-- The text of a font size. -/
def BinaryNumber.fontSizeText (n : BinaryNumber) : String :=
  Style.fontSizeLayout.numberText .single n

end Highlighter
