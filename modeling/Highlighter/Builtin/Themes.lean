import Highlighter.Theme.Basic

/-!
# Built-in themes

The themes that are there without any file share their rules and differ in their colours. Comments
and strings have rules of two segments as well, so that they have the same rank as operators and
numbers; the built-in grammars mark them last.
-/

namespace Highlighter.Builtin

/-- The colours of a theme. -/
structure Palette where
  foreground : String
  background : String
  comment : String
  string : String
  escape : String
  number : String
  constant : String
  keyword : String
  control : String
  operator : String
  storage : String
  function : String
  typeName : String
  preprocessor : String
  decoration : String
  invalid : String

/-- The style that sets the colour of the text. -/
def colored (color : String) : Style := .ofList [("foreground", color)]

/-- The theme of a palette. -/
def themeOf (name : String) (p : Palette) : Theme :=
  let rule (selector : String) (style : Style) : ThemeRule := ⟨.ofString selector, style⟩
  { name := some name
    base := (colored p.foreground).set "background" p.background
    rules := [
      rule "comment" ((colored p.comment).set "fontStyle" "italic"),
      rule "comment.line" ((colored p.comment).set "fontStyle" "italic"),
      rule "comment.block" ((colored p.comment).set "fontStyle" "italic"),
      rule "string" (colored p.string),
      rule "string.quoted" (colored p.string),
      rule "constant" (colored p.constant),
      rule "constant.numeric" (colored p.number),
      rule "constant.character.escape" (colored p.escape),
      rule "keyword" ((colored p.keyword).set "fontStyle" "bold"),
      rule "keyword.control" ((colored p.control).set "fontStyle" "bold"),
      rule "keyword.operator" (colored p.operator),
      rule "storage" (colored p.storage),
      rule "support.type" (colored p.typeName),
      rule "support.type.property-name" (colored p.function),
      rule "entity.name.type" (colored p.typeName),
      rule "entity.name.function" (colored p.function),
      rule "meta.preprocessor" (colored p.preprocessor),
      rule "meta.attribute" (colored p.decoration),
      rule "invalid.illegal" ((colored p.invalid).set "fontStyle" "underline")] }

/-- The dark theme. -/
def dark : Theme := themeOf "dark" {
  foreground := "#ABB2BF"
  background := "#282C34"
  comment := "#7F848E"
  string := "#98C379"
  escape := "#E5C07B"
  number := "#56B6C2"
  constant := "#E06C75"
  keyword := "#C678DD"
  control := "#C678DD"
  operator := "#D7DAE0"
  storage := "#C678DD"
  function := "#61AFEF"
  typeName := "#E5C07B"
  preprocessor := "#FF79C6"
  decoration := "#82AAFF"
  invalid := "#FF5555" }

/-- The light theme. -/
def light : Theme := themeOf "light" {
  foreground := "#383A42"
  background := "#FAFAFA"
  comment := "#A0A1A7"
  string := "#50A14F"
  escape := "#C18401"
  number := "#0184BC"
  constant := "#E45649"
  keyword := "#A626A4"
  control := "#A626A4"
  operator := "#383A42"
  storage := "#A626A4"
  function := "#4078F2"
  typeName := "#C18401"
  preprocessor := "#D73A49"
  decoration := "#4078F2"
  invalid := "#CA1243" }

/-- A dark theme with more colours. -/
def darkPlus : Theme := themeOf "dark-plus" {
  foreground := "#D4D4D4"
  background := "#1E1E1E"
  comment := "#6A9955"
  string := "#CE9178"
  escape := "#D7BA7D"
  number := "#B5CEA8"
  constant := "#569CD6"
  keyword := "#569CD6"
  control := "#C586C0"
  operator := "#D4D4D4"
  storage := "#569CD6"
  function := "#DCDCAA"
  typeName := "#4EC9B0"
  preprocessor := "#C586C0"
  decoration := "#4EC9B0"
  invalid := "#F44747" }

/-- A light theme with more colours. -/
def lightPlus : Theme := themeOf "light-plus" {
  foreground := "#000000"
  background := "#FFFFFF"
  comment := "#008000"
  string := "#A31515"
  escape := "#EE0000"
  number := "#098658"
  constant := "#0000FF"
  keyword := "#0000FF"
  control := "#AF00DB"
  operator := "#000000"
  storage := "#0000FF"
  function := "#795E26"
  typeName := "#267F99"
  preprocessor := "#AF00DB"
  decoration := "#267F99"
  invalid := "#CD3131" }

/-- A dark theme with bright colours. -/
def monokai : Theme := themeOf "monokai" {
  foreground := "#F8F8F2"
  background := "#272822"
  comment := "#75715E"
  string := "#E6DB74"
  escape := "#AE81FF"
  number := "#AE81FF"
  constant := "#AE81FF"
  keyword := "#F92672"
  control := "#F92672"
  operator := "#F92672"
  storage := "#F92672"
  function := "#A6E22E"
  typeName := "#66D9EF"
  preprocessor := "#F92672"
  decoration := "#A6E22E"
  invalid := "#F8F8F0" }

/-- All built-in themes. -/
def themes : List Theme := [dark, light, darkPlus, lightPlus, monokai]

end Highlighter.Builtin
