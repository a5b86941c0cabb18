import Highlighter.Builtin.Grammars
import Highlighter.Builtin.Themes
import Highlighter.Registry

/-!
# The built-in registry
-/

namespace Highlighter.Builtin

/-- The registry that holds all built-in grammars and themes. -/
def registry : Registry :=
  themes.foldl Registry.addTheme (grammars.foldl Registry.addGrammar .empty)

end Highlighter.Builtin
