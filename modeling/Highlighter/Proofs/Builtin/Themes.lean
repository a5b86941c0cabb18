import Highlighter.Builtin.Themes
import Highlighter.Proofs.Text.Words
import Highlighter.Proofs.Theme.Ranks

/-!
# Ranks in the built-in themes

The built-in themes have the same selectors, so they rank scopes alike, and a statement on ranks is
checked once for all of them (`Builtin.specificity_resolve`).
-/

namespace Highlighter.Builtin

variable {t : Theme}

/-- The selectors of the built-in themes, as text. -/
def selectorTexts : List String :=
  ["comment", "comment.line", "comment.block", "string", "string.quoted", "constant",
    "constant.numeric", "constant.character.escape", "keyword", "keyword.control",
    "keyword.operator", "storage", "support.type", "support.type.property-name",
    "entity.name.type", "entity.name.function", "meta.preprocessor", "meta.attribute",
    "invalid.illegal"]

/-- The selectors of the built-in themes, in segments. -/
def selectors : List Selector :=
  [⟨["comment"]⟩, ⟨["comment", "line"]⟩, ⟨["comment", "block"]⟩, ⟨["string"]⟩,
    ⟨["string", "quoted"]⟩, ⟨["constant"]⟩, ⟨["constant", "numeric"]⟩,
    ⟨["constant", "character", "escape"]⟩, ⟨["keyword"]⟩, ⟨["keyword", "control"]⟩,
    ⟨["keyword", "operator"]⟩, ⟨["storage"]⟩, ⟨["support", "type"]⟩,
    ⟨["support", "type", "property-name"]⟩, ⟨["entity", "name", "type"]⟩,
    ⟨["entity", "name", "function"]⟩, ⟨["meta", "preprocessor"]⟩, ⟨["meta", "attribute"]⟩,
    ⟨["invalid", "illegal"]⟩]

theorem map_ofString_selectorTexts : selectorTexts.map Selector.ofString = selectors := by
  have hseen : ∀ text ∈ selectorTexts, ∀ c ∈ text.toList, 32 < c.toNat ∧ c.toNat < 133 := by
    simp [selectorTexts]
  have hsegments : selectorTexts.map (fun text ↦ ⟨scopeSegments text⟩) = selectors := by
    decide
  rw [← hsegments]
  refine List.map_congr_left fun text htext ↦ ?_
  have hblank : ∀ c ∈ text.toList, Words.isBlank c = false := fun c hc ↦
    Words.isBlank_eq_false (hseen text htext c hc).1 (hseen text htext c hc).2
  rw [Selector.ofString, Words.trim_eq_self hblank]

theorem darkPlus_mem_themes : darkPlus ∈ themes := by simp [themes]

theorem selectors_of_mem_themes (ht : t ∈ themes) : t.selectors = selectors := by
  rw [← map_ofString_selectorTexts]
  simp only [themes, List.mem_cons, List.not_mem_nil, or_false] at ht
  rcases ht with rfl | rfl | rfl | rfl | rfl <;> rfl

/-- A built-in theme with its selectors in segments, which has nothing to be trimmed. -/
def segmented (t : Theme) : Theme :=
  { t with rules := List.zipWith ThemeRule.mk selectors (t.rules.map (·.style)) }

theorem segmented_eq (ht : t ∈ themes) : segmented t = t := by
  have hrules : List.zipWith ThemeRule.mk t.selectors (t.rules.map (·.style)) = t.rules := by
    rw [Theme.selectors, List.zipWith_map, List.zipWith_self, List.map_id']
  rw [segmented, ← selectors_of_mem_themes ht, hrules]

/-- The rank of a scope in the built-in themes. -/
def rank (scope : String) : Int := rankIn selectors scope

/-- **The built-in themes rank scopes alike.** -/
theorem specificity_resolve (ht : t ∈ themes) (scope : String) :
    (t.resolve .bestMatch scope).specificity = rank scope := by
  rw [Theme.specificity_resolve, selectors_of_mem_themes ht, rank]

example : rank "comment.block.c" = 2 ∧ rank "constant.character.escape.c" = 3 := by decide

end Highlighter.Builtin
