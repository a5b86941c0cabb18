import Highlighter.Unicode.Property
import Highlighter.Unicode.Script

/-!
# Breaks between graphemes, words and sentences

Three properties say where a text may be broken, and each of them puts a character into at most one
class. The classes of a property are described in an order: a character belongs to the first class
whose description it fits, so that a description need not repeat what the ones before it take away.
-/

namespace Highlighter.Unicode

/-- The classes of a property in their order, each with its names and its description. -/
abbrev BreakClasses := List (List String × CharSet)

/-- The characters of a class: those that fit its description and none before it. -/
def BreakClasses.named? (name : String) : BreakClasses → Option CharSet
  | [] => none
  | (names, described) :: rest =>
    if names.contains name then some described else (named? name rest).map (·.diff described)

/-! ## Graphemes -/

/-- Consonants that stand before the syllable that they are spoken in. -/
def precedingConsonants : CharSet := rangeTable
  "d4e 111c2-111c3 113d1 1193f 11941 11a3a 11a84-11a89 11d46 11f02"

/-- Spacing marks that do not belong to the character before them. -/
def separateMarks : CharSet := rangeTable
  "102b-102c 1038 1062-1064 1067-106d 1083 1087-108c 108f 109a-109c 1a61 1a63-1a64 aa7b aa7d
   11720-11721"

/-- The classes for breaks between graphemes. -/
def graphemeClasses : BreakClasses := [
  (["cr"], .range 0x0d 0x0d),
  (["lf"], .range 0x0a 0x0a),
  (["zwj"], .range 0x200d 0x200d),
  (["ex", "extend"], graphemeExtend.union emojiModifier),
  (["pp", "prepend"], prependedConcatenationMark.union precedingConsonants),
  (["cn", "control"],
    (ofCategories ["Zl", "Zp", "Cc", "Cf"]).union ((ofCategories ["Cn"]).inter defaultIgnorable)),
  (["ri", "regionalindicator"], regionalIndicator),
  (["l"], rangeTable "1100-115f a960-a97c"),
  (["v"], rangeTable "1160-11a7 d7b0-d7c6 16d63 16d67-16d6a"),
  (["t"], rangeTable "11a8-11ff d7cb-d7fb"),
  (["lv"], rangeTable "ac00-d788/1c"),
  (["lvt"], .range 0xac00 0xd7a3),
  (["sm", "spacingmark"],
    ((ofCategories ["Mc"]).union (rangeTable "e33 eb3")).diff separateMarks)]

/-! ## Words -/

/-- Characters of scripts whose words are told apart by dictionaries. -/
def dictionaryScripts : CharSet := rangeTable
  "e01-e3a e40-e4e e81-e82 e84 e86-e8a e8c-ea3 ea5 ea7-ebd ec0-ec4 ec6 ec8-ece edc-edf 1000-103f
   1050-108f 109a-109f 1780-17d3 17d7 17dc-17dd 1950-196d 1970-1974 1980-19ab 19b0-19c9 19da
   19de-19df 1a20-1a5e 1a60-1a7c 1aa0-1aad a9e0-a9ef a9fa-a9fe aa60-aac2 aadb-aadf 11700-1171a
   1171d-1172b 1173a-1173b 1173f-11746"

/-- Characters that are part of words like letters. -/
def wordSymbols : CharSet := rangeTable
  "2c2-2c5 2d2-2d7 2de-2df 2e5-2eb 2ed 2ef-2ff 55a-55c 55e 58a 5f3 70f a708-a716 a720-a721
   a789-a78a ab5b"

/-- Digits and the signs around them. -/
def numeric : CharSet :=
  ((ofCategories ["Nd"]).union (rangeTable "66b-66c")).union
    (prependedConcatenationMark.diff (.range 0x70f 0x70f))

/-- The classes for breaks between words. -/
def wordClasses : BreakClasses := [
  (["cr"], .range 0x0d 0x0d),
  (["lf"], .range 0x0a 0x0a),
  (["nl", "newline"], rangeTable "b-c 85 2028-2029"),
  (["zwj"], .range 0x200d 0x200d),
  (["extend"], (graphemeExtend.union (ofCategories ["Mc"])).union emojiModifier),
  (["ri", "regionalindicator"], regionalIndicator),
  (["mn", "midnum"],
    rangeTable "2c 3b 37e 589 60c-60d 66c 7f8 2044 fe10 fe14 fe50 fe54 ff0c ff1b"),
  (["nu", "numeric"], numeric),
  (["fo", "format"], (ofCategories ["Cf"]).diff (rangeTable "70f 200b")),
  (["ka", "katakana"],
    (ofScript "Kana").union (rangeTable "3031-3035 309b-309c 30a0 30fc ff70")),
  (["hl", "hebrewletter"], (ofScript "Hebr").inter (ofCategories ["Lo"])),
  (["dq", "doublequote"], .range 0x22 0x22),
  (["sq", "singlequote"], .range 0x27 0x27),
  (["mb", "midnumlet"], rangeTable "2e 2018-2019 2024 fe52 ff07 ff0e"),
  (["ml", "midletter"], rangeTable "3a b7 387 55f 5f4 2027 fe13 fe55 ff1a"),
  (["ex", "extendnumlet"], (ofCategories ["Pc"]).union (.range 0x202f 0x202f)),
  (["wsegspace"], (ofCategories ["Zs"]).diff (rangeTable "a0 2007 202f")),
  (["le", "aletter"],
    (((alphabetic.union wordSymbols).diff ideographic).diff dictionaryScripts).diff
      (ofScript "Hira"))]

/-! ## Sentences -/

/-- The classes for breaks between sentences. -/
def sentenceClasses : BreakClasses := [
  (["cr"], .range 0x0d 0x0d),
  (["lf"], .range 0x0a 0x0a),
  (["ex", "extend"], (graphemeExtend.union (ofCategories ["Mc"])).union (.range 0x200d 0x200d)),
  (["se", "sep"], rangeTable "85 2028-2029"),
  (["nu", "numeric"], numeric),
  (["fo", "format"], ofCategories ["Cf"]),
  (["sp"], whiteSpace),
  (["lo", "lower"], lowercase.diff (rangeTable "10d0-10fa 10fd-10ff")),
  (["up", "upper"],
    ((ofCategories ["Lt"]).union uppercase).diff (rangeTable "1c90-1cba 1cbd-1cbf")),
  (["le", "oletter"], alphabetic.union (.range 0x5f3 0x5f3)),
  (["at", "aterm"], rangeTable "2e 2024 fe52 ff0e"),
  (["sc", "scontinue"],
    rangeTable
      "2c-2d 3a-3b 37e 55d 60c-60d 7f8 1802 1808 2013-2014 3001 fe10-fe11 fe13-fe14 fe31-fe32
       fe50-fe51 fe54-fe55 fe58 fe63 ff0c-ff0d ff1a-ff1b ff64"),
  (["st", "sterm"], sentenceTerminal),
  (["cl", "close"],
    (ofCategories ["Ps", "Pe", "Pi", "Pf"]).union
      (rangeTable "22 27 275b-2760 2e00-2e01 2e06-2e08 2e0b 1f676-1f678"))]

end Highlighter.Unicode
