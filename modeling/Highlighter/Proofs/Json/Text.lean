import Highlighter.Json.Reader
import Mathlib.Tactic.Common

/-!
# Written strings

A string of a JSON document can be written in several ways: most characters stand for themselves,
and any character can be escaped. `JsonText.Writes` tells all the ways. Whatever the way, what is
written is read up to the closing quote (`JsonToken.stringBody_append`) and stands for the
characters that were to be written (`JsonText.Writes.decode?_eq_some`).
-/

namespace Highlighter

namespace JsonText

/-- The ways to write characters between the quotes of a string. -/
inductive Writes : List Char → List Char → Prop
  | nil : Writes [] []
  /-- A character stands for itself, unless it is a quote, a backslash or a control character. -/
  | plain {c : Char} {cs w : List Char} (hc : ' ' ≤ c) (hquote : c ≠ '"') (hslash : c ≠ '\\')
      (h : Writes cs w) : Writes (c :: cs) (c :: w)
  /-- A letter stands for a character. -/
  | escape {letter c : Char} {cs w : List Char} (hletter : escaped? letter = some c)
      (h : Writes cs w) : Writes (c :: cs) ('\\' :: letter :: w)
  /-- Four digits give the number of a character. -/
  | number {c x₁ x₂ x₃ x₄ : Char} {cs w : List Char}
      (hnumber : Hex.number? [x₁, x₂, x₃, x₄] = some c.toNat) (h : Writes cs w) :
      Writes (c :: cs) ('\\' :: 'u' :: x₁ :: x₂ :: x₃ :: x₄ :: w)
  /-- A pair of surrogates gives the number of a character that needs more digits. -/
  | pair {c x₁ x₂ x₃ x₄ y₁ y₂ y₃ y₄ : Char} {cs w : List Char} (hc : 0x10000 ≤ c.toNat)
      (hhigh : Hex.number? [x₁, x₂, x₃, x₄] = some (0xd800 + (c.toNat - 0x10000) / 0x400))
      (hlow : Hex.number? [y₁, y₂, y₃, y₄] = some (0xdc00 + (c.toNat - 0x10000) % 0x400))
      (h : Writes cs w) : Writes (c :: cs)
        ('\\' :: 'u' :: x₁ :: x₂ :: x₃ :: x₄ :: '\\' :: 'u' :: y₁ :: y₂ :: y₃ :: y₄ :: w)

/-- What may stand between the quotes of a string. The characters of escapes need not be there. -/
inductive IsBody : List Char → Prop
  | nil : IsBody []
  | plain {c : Char} {w : List Char} (hc : ' ' ≤ c) (hquote : c ≠ '"') (hslash : c ≠ '\\')
      (h : IsBody w) : IsBody (c :: w)
  | escape {letter : Char} {w : List Char} (hletter : (escaped? letter).isSome) (h : IsBody w) :
      IsBody ('\\' :: letter :: w)
  | number {x₁ x₂ x₃ x₄ : Char} {w : List Char}
      (hnumber : (Hex.number? [x₁, x₂, x₃, x₄]).isSome) (h : IsBody w) :
      IsBody ('\\' :: 'u' :: x₁ :: x₂ :: x₃ :: x₄ :: w)

variable {cs w : List Char}

theorem Writes.isBody (h : Writes cs w) : IsBody w := by
  induction h with
  | nil => exact .nil
  | plain hc hquote hslash _ ih => exact .plain hc hquote hslash ih
  | escape hletter _ ih => exact .escape (Option.isSome_of_eq_some hletter) ih
  | number hnumber _ ih => exact .number (Option.isSome_of_eq_some hnumber) ih
  | pair _ hhigh hlow _ ih =>
    exact .number (Option.isSome_of_eq_some hhigh) (.number (Option.isSome_of_eq_some hlow) ih)

/-- Whether a character may be written as it is. -/
def isUnescaped (c : Char) : Bool := 32 ≤ c.toNat && c != '"' && c != '\\'

/-- Characters can be written as they are, unless some of them must be escaped. -/
theorem writes_self (h : cs.all isUnescaped) : Writes cs cs := by
  induction cs with
  | nil => exact .nil
  | cons c cs ih =>
    simp only [List.all_cons, isUnescaped, Bool.and_eq_true, decide_eq_true_eq, bne_iff_ne] at h
    obtain ⟨⟨⟨hc, hquote⟩, hslash⟩, hcs⟩ := h
    exact .plain hc hquote hslash (ih hcs)

/-- A way to write characters, with as few escapes as there can be. -/
def write : List Char → List Char
  | [] => []
  | c :: cs =>
    if c < ' ' then
      '\\' :: 'u' :: '0' :: '0' :: Nat.digitChar (c.toNat / 16) :: Nat.digitChar (c.toNat % 16) ::
        write cs
    else if c = '"' ∨ c = '\\' then '\\' :: c :: write cs
    else c :: write cs

/-- Control characters can be written by their numbers. -/
theorem number?_digitChar {c : Char} (hc : c < ' ') :
    Hex.number? ['0', '0', Nat.digitChar (c.toNat / 16), Nat.digitChar (c.toNat % 16)] =
      some c.toNat := by
  have hall : ∀ n : Fin 32, Hex.number? ['0', '0', Nat.digitChar (n / 16), Nat.digitChar (n % 16)] =
      some n.val := by decide
  exact hall ⟨c.toNat, hc⟩

theorem writes_write (cs : List Char) : Writes cs (write cs) := by
  induction cs with
  | nil => exact .nil
  | cons c cs ih =>
    rw [write]
    split
    · next hcontrol => exact .number (number?_digitChar hcontrol) ih
    split
    · next hescape => exact .escape (by rcases hescape with rfl | rfl <;> rfl) ih
    · next hcontrol hescape =>
      rw [not_or] at hescape
      exact .plain (Char.not_lt.1 hcontrol) hescape.1 hescape.2 ih

/-- All characters can be written. -/
theorem exists_writes (cs : List Char) : ∃ w, Writes cs w := ⟨_, writes_write cs⟩

/-! ## What written strings stand for -/

theorem escaped?_ne_u {letter c : Char} (h : escaped? letter = some c) : letter ≠ 'u' := by
  rintro rfl
  cases h

/-- The number of a character is no surrogate. -/
theorem toNat_lt_or_lt_toNat (c : Char) : c.toNat < 0xd800 ∨ 0xdfff < c.toNat := by
  have h := c.valid
  simp only [UInt32.isValidChar, Nat.isValidChar] at h
  change c.val.toNat < 0xd800 ∨ 0xdfff < c.val.toNat
  omega

theorem toNat_lt (c : Char) : c.toNat < 0x110000 := by
  have h := c.valid
  simp only [UInt32.isValidChar, Nat.isValidChar] at h
  change c.val.toNat < 0x110000
  omega

theorem pairChar_eq {c : Char} (hc : 0x10000 ≤ c.toNat) :
    pairChar (0xd800 + (c.toNat - 0x10000) / 0x400) (0xdc00 + (c.toNat - 0x10000) % 0x400) = c := by
  have hnumber : 0x10000 + (0xd800 + (c.toNat - 0x10000) / 0x400 - 0xd800) * 0x400 +
      (0xdc00 + (c.toNat - 0x10000) % 0x400 - 0xdc00) = c.toNat := by
    have := Nat.div_add_mod (c.toNat - 0x10000) 0x400
    omega
  rw [pairChar, hnumber, Char.ofNat_toNat]

theorem Writes.decodeChars_eq_some (h : Writes cs w) : decodeChars w = some cs := by
  induction h with
  | nil => rfl
  | plain hc hquote hslash _ ih =>
    rw [decodeChars, ih]
    · rfl
    · simp [hslash]
    · simp [hslash]
  | @escape letter c cs w hletter _ ih =>
    rw [decodeChars, ih, hletter]
    · rfl
    · simp [escaped?_ne_u hletter]
  | @number c x₁ x₂ x₃ x₄ cs w hnumber _ ih =>
    rw [decodeChars, hnumber]
    simp [toNat_lt_or_lt_toNat c, ih]
  | @pair c x₁ x₂ x₃ x₄ y₁ y₂ y₃ y₄ cs w hc hhigh hlow _ ih =>
    have hlt := toNat_lt c
    have hsurrogate : ¬(0xd800 + (c.toNat - 0x10000) / 0x400 < 0xd800 ∨
        0xdfff < 0xd800 + (c.toNat - 0x10000) / 0x400) := by omega
    have hpair : 0xd800 + (c.toNat - 0x10000) / 0x400 ≤ 0xdbff ∧
        0xdc00 ≤ 0xdc00 + (c.toNat - 0x10000) % 0x400 ∧
        0xdc00 + (c.toNat - 0x10000) % 0x400 ≤ 0xdfff := by omega
    rw [decodeChars, hhigh]
    simp only [if_neg hsurrogate, hlow, if_pos hpair, pairChar_eq hc, ih, Option.map_some]

/-- What is written for a text stands for that text. -/
theorem Writes.decode?_eq_some {s : String} (h : Writes s.toList w) : decode? w = some s := by
  rw [decode?, h.decodeChars_eq_some, Option.map_some, String.ofList_toList]

end JsonText

/-! ## Strings in a document -/

namespace JsonToken

/-- A string is read up to its closing quote. -/
theorem stringBody_append {w : List Char} (h : JsonText.IsBody w) (rest : List Char) :
    ∃ hrest, stringBody (w ++ '"' :: rest) = some (w, ⟨rest, hrest⟩) := by
  induction h with
  | nil => exact ⟨by simp, by change stringBody ('"' :: rest) = _; rw [stringBody]⟩
  | @plain c w hc hquote hslash _ ih =>
    obtain ⟨hrest, ih⟩ := ih
    refine ⟨Nat.le_succ_of_le hrest, ?_⟩
    change stringBody (c :: (w ++ '"' :: rest)) = _
    rw [stringBody, if_neg (Char.not_lt.2 hc), ih]
    · rfl
    all_goals simp [hquote, hslash]
  | @escape letter w hletter _ ih =>
    obtain ⟨hrest, ih⟩ := ih
    have hu : letter ≠ 'u' := by
      obtain ⟨c, hc⟩ := Option.isSome_iff_exists.1 hletter
      exact JsonText.escaped?_ne_u hc
    refine ⟨Nat.le_succ_of_le (Nat.le_succ_of_le hrest), ?_⟩
    change stringBody ('\\' :: letter :: (w ++ '"' :: rest)) = _
    rw [stringBody, if_pos hletter, ih]
    · rfl
    · simp [hu]
  | @number x₁ x₂ x₃ x₄ w hnumber _ ih =>
    obtain ⟨hrest, ih⟩ := ih
    refine ⟨by simp only [List.cons_append, List.length_cons]; omega, ?_⟩
    change stringBody ('\\' :: 'u' :: x₁ :: x₂ :: x₃ :: x₄ :: (w ++ '"' :: rest)) = _
    rw [stringBody, if_pos hnumber, ih]
    rfl

end JsonToken

end Highlighter
