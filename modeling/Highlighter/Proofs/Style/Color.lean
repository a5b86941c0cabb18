import Highlighter.Proofs.Text.Words
import Highlighter.Style.Color

/-!
# Written colours

A colour is written with a number sign and three, six or eight characters after it. Three characters
are digits, one for each channel. Six or eight characters are pairs, one for each channel, and here
reading is not strict: a pair is two digits, or a plus sign and a digit. `Color.IsWritten` tells how
colours are written, with digits only or with signs as well. Reading accepts exactly what is written
with signs (`Color.ofString?_eq_some_iff`), so it is strict for texts without a plus sign and for no
others (`Color.ofString?_eq_some_iff_isWritten`).
-/

namespace Highlighter

/-! ## Digits -/

namespace Hex

/-- The digits in ascending order, in lower case. -/
def lowerDigits : List Char := "0123456789abcdef".toList

/-- The digits in ascending order, in upper case. -/
def upperDigits : List Char := "0123456789ABCDEF".toList

/-- A character is the hexadecimal digit of a value, in either case. -/
def IsDigit (n : Nat) (c : Char) : Prop :=
  lowerDigits[n]? = some c ∨ upperDigits[n]? = some c

instance (n : Nat) (c : Char) : Decidable (IsDigit n c) := inferInstanceAs (Decidable (_ ∨ _))

variable {n : Nat} {c : Char}

theorem value?_eq_some_of_isDigit (h : IsDigit n c) : value? c = some n := by
  have hlower : ∀ n : Fin 16, lowerDigits[n.val]?.bind value? = some n.val := by decide
  have hupper : ∀ n : Fin 16, upperDigits[n.val]?.bind value? = some n.val := by decide
  rcases h with hc | hc
  · have hn : n < 16 := (List.getElem?_eq_some_iff.mp hc).1
    simpa [hc] using hlower ⟨n, hn⟩
  · have hn : n < 16 := (List.getElem?_eq_some_iff.mp hc).1
    simpa [hc] using hupper ⟨n, hn⟩

theorem toNat_of_value?_eq_some (h : value? c = some n) : 32 < c.toNat ∧ c.toNat < 128 := by
  have hbetween {first last : Char} (hc : first ≤ c ∧ c ≤ last) (hfirst : 32 < first.toNat)
      (hlast : last.toNat < 128) : 32 < c.toNat ∧ c.toNat < 128 :=
    ⟨Nat.lt_of_lt_of_le hfirst hc.1, Nat.lt_of_le_of_lt hc.2 hlast⟩
  unfold value? at h
  split at h
  · next hc => exact hbetween hc (by decide) (by decide)
  split at h
  · next hc => exact hbetween hc (by decide) (by decide)
  split at h
  · next hc => exact hbetween hc (by decide) (by decide)
  · cases h

/-- **The characters that have a value are the digits.** -/
theorem value?_eq_some_iff : value? c = some n ↔ IsDigit n c := by
  refine ⟨fun h ↦ ?_, value?_eq_some_of_isDigit⟩
  -- All characters that have a value are in ASCII, where they can be tried.
  have hall : ∀ code : Fin 128, ∀ n ∈ value? (Char.ofNat code), IsDigit n (Char.ofNat code) := by
    decide
  have hdigit := hall ⟨c.toNat, (toNat_of_value?_eq_some h).2⟩
  rw [Char.ofNat_toNat] at hdigit
  exact hdigit n h

theorem IsDigit.lt (h : IsDigit n c) : n < 16 := by
  rcases h with h | h <;> exact (List.getElem?_eq_some_iff.mp h).1

theorem IsDigit.isBlank_eq_false (h : IsDigit n c) : Words.isBlank c = false := by
  have hc := toNat_of_value?_eq_some (value?_eq_some_of_isDigit h)
  exact Words.isBlank_eq_false hc.1 (Nat.lt_trans hc.2 (by decide))

end Hex

/-! ## Channels -/

namespace Color

/-- One digit writes a channel, as if it stood there twice. -/
def IsShort (c : Char) (v : UInt8) : Prop := ∃ n, Hex.IsDigit n c ∧ v.toNat = 17 * n

/-- Two digits write a channel. -/
def IsPair (a b : Char) (v : UInt8) : Prop :=
  ∃ m n, Hex.IsDigit m a ∧ Hex.IsDigit n b ∧ v.toNat = 16 * m + n

/-- Two digits write a channel, or a plus sign and a digit do. -/
def IsSignedPair (a b : Char) (v : UInt8) : Prop :=
  IsPair a b v ∨ a = '+' ∧ Hex.IsDigit v.toNat b

variable {a b : Char} {v : UInt8}

theorem ofNat_eq_iff {n : Nat} (h : n < 256) : UInt8.ofNat n = v ↔ v.toNat = n := by
  rw [← UInt8.toNat_inj, UInt8.toNat_ofNat_of_lt' h, eq_comm]

theorem shortChannel?_eq_some_iff : shortChannel? a = some v ↔ IsShort a v := by
  have hvalue (n : Nat) (hn : Hex.IsDigit n a) : UInt8.ofNat (n * 17) = v ↔ v.toNat = 17 * n := by
    have := hn.lt
    rw [ofNat_eq_iff (by omega), Nat.mul_comm]
  simp only [shortChannel?, Option.bind_eq_bind, Option.bind_eq_some_iff, Hex.value?_eq_some_iff,
    Option.pure_def, Option.some.injEq, IsShort]
  exact exists_congr fun n ↦ and_congr_right fun hn ↦ hvalue n hn

theorem not_isDigit_plus {n : Nat} : ¬Hex.IsDigit n '+' := by
  rw [← Hex.value?_eq_some_iff]
  exact nofun

theorem channel?_plus : channel? '+' b = (Hex.value? b).map UInt8.ofNat := by
  rw [channel?, if_pos rfl]
  cases Hex.value? b <;> rfl

theorem channel?_of_ne_plus (ha : a ≠ '+') : channel? a b =
    (Hex.value? a).bind fun m ↦ (Hex.value? b).map fun n ↦ UInt8.ofNat (m * 16 + n) := by
  rw [channel?, if_neg ha]
  cases Hex.value? a <;> cases Hex.value? b <;> rfl

theorem channel?_eq_some_iff : channel? a b = some v ↔ IsSignedPair a b v := by
  by_cases ha : a = '+'
  · subst ha
    have hpair : ¬IsPair '+' b v := fun ⟨_, _, hm, _⟩ ↦ not_isDigit_plus hm
    have hvalue (n : Nat) (hn : Hex.IsDigit n b) : UInt8.ofNat n = v ↔ v.toNat = n :=
      ofNat_eq_iff (Nat.lt_trans hn.lt (by decide))
    simp only [channel?_plus, Option.map_eq_some_iff, Hex.value?_eq_some_iff, IsSignedPair, hpair,
      false_or, true_and]
    constructor
    · rintro ⟨n, hn, hv⟩
      exact (hvalue n hn).mp hv ▸ hn
    · intro hb
      exact ⟨v.toNat, hb, (hvalue _ hb).mpr rfl⟩
  · have hvalue (m n : Nat) (hm : Hex.IsDigit m a) (hn : Hex.IsDigit n b) :
        UInt8.ofNat (m * 16 + n) = v ↔ v.toNat = 16 * m + n := by
      have := hm.lt
      have := hn.lt
      rw [ofNat_eq_iff (by omega), Nat.mul_comm]
    simp only [channel?_of_ne_plus ha, Option.bind_eq_some_iff, Option.map_eq_some_iff,
      Hex.value?_eq_some_iff, IsSignedPair, IsPair, ha, false_and, or_false]
    constructor
    · rintro ⟨m, hm, n, hn, hv⟩
      exact ⟨m, n, hm, hn, (hvalue m n hm hn).mp hv⟩
    · rintro ⟨m, n, hm, hn, hv⟩
      exact ⟨m, hm, n, hn, (hvalue m n hm hn).mpr hv⟩

/-! ## Colours -/

/-- The ways to write a colour after the number sign, where `pair` tells how two characters write a
channel. -/
inductive Writes (pair : Char → Char → UInt8 → Prop) : List Char → Color → Prop
  | short {r g b : Char} {c : Color} (hred : IsShort r c.red) (hgreen : IsShort g c.green)
      (hblue : IsShort b c.blue) (halpha : c.alpha = 0xff) : Writes pair [r, g, b] c
  | long {r r' g g' b b' : Char} {c : Color} (hred : pair r r' c.red)
      (hgreen : pair g g' c.green) (hblue : pair b b' c.blue) (halpha : c.alpha = 0xff) :
      Writes pair [r, r', g, g', b, b'] c
  | withAlpha {r r' g g' b b' a a' : Char} {c : Color} (hred : pair r r' c.red)
      (hgreen : pair g g' c.green) (hblue : pair b b' c.blue) (halpha : pair a a' c.alpha) :
      Writes pair [r, r', g, g', b, b', a, a'] c

/-- A text writes a colour, with white space around it. -/
def IsWritten (pair : Char → Char → UInt8 → Prop) (s : String) (c : Color) : Prop :=
  ∃ before digits after, (∀ x ∈ before, Words.isBlank x = true) ∧
    (∀ x ∈ after, Words.isBlank x = true) ∧ s.toList = before ++ '#' :: digits ++ after ∧
    Writes pair digits c

variable {pair pair' : Char → Char → UInt8 → Prop} {digits : List Char} {c : Color} {s : String}

theorem Writes.mono (h : Writes pair digits c)
    (hpair : ∀ x ∈ digits, ∀ y v, pair x y v → pair' x y v) : Writes pair' digits c := by
  cases h with
  | short hred hgreen hblue halpha => exact .short hred hgreen hblue halpha
  | long hred hgreen hblue halpha =>
    exact .long (hpair _ (by simp) _ _ hred) (hpair _ (by simp) _ _ hgreen)
      (hpair _ (by simp) _ _ hblue) halpha
  | withAlpha hred hgreen hblue halpha =>
    exact .withAlpha (hpair _ (by simp) _ _ hred) (hpair _ (by simp) _ _ hgreen)
      (hpair _ (by simp) _ _ hblue) (hpair _ (by simp) _ _ halpha)

/-- **What is read after the number sign** is what is written with signs. -/
theorem ofHexChars?_eq_some_iff : ofHexChars? digits = some c ↔ Writes IsSignedPair digits c := by
  constructor
  · intro h
    unfold ofHexChars? at h
    split at h
    · obtain ⟨_, hred, _, hgreen, _, hblue, h⟩ := by
        simpa only [Option.bind_eq_bind, Option.bind_eq_some_iff] using h
      cases h
      exact .short (shortChannel?_eq_some_iff.mp hred) (shortChannel?_eq_some_iff.mp hgreen)
        (shortChannel?_eq_some_iff.mp hblue) rfl
    · obtain ⟨_, hred, _, hgreen, _, hblue, h⟩ := by
        simpa only [Option.bind_eq_bind, Option.bind_eq_some_iff] using h
      cases h
      exact .long (channel?_eq_some_iff.mp hred) (channel?_eq_some_iff.mp hgreen)
        (channel?_eq_some_iff.mp hblue) rfl
    · obtain ⟨_, hred, _, hgreen, _, hblue, _, halpha, h⟩ := by
        simpa only [Option.bind_eq_bind, Option.bind_eq_some_iff] using h
      cases h
      exact .withAlpha (channel?_eq_some_iff.mp hred) (channel?_eq_some_iff.mp hgreen)
        (channel?_eq_some_iff.mp hblue) (channel?_eq_some_iff.mp halpha)
    · cases h
  · intro h
    obtain ⟨red, green, blue, alpha⟩ := c
    cases h with
    | short hred hgreen hblue halpha =>
      cases halpha
      rw [ofHexChars?, shortChannel?_eq_some_iff.mpr hred, shortChannel?_eq_some_iff.mpr hgreen,
        shortChannel?_eq_some_iff.mpr hblue]
      rfl
    | long hred hgreen hblue halpha =>
      cases halpha
      rw [ofHexChars?, channel?_eq_some_iff.mpr hred, channel?_eq_some_iff.mpr hgreen,
        channel?_eq_some_iff.mpr hblue]
      rfl
    | withAlpha hred hgreen hblue halpha =>
      rw [ofHexChars?, channel?_eq_some_iff.mpr hred, channel?_eq_some_iff.mpr hgreen,
        channel?_eq_some_iff.mpr hblue, channel?_eq_some_iff.mpr halpha]
      rfl

theorem IsSignedPair.isBlank_eq_false (h : IsSignedPair a b v) :
    Words.isBlank a = false ∧ Words.isBlank b = false := by
  rcases h with ⟨m, n, hm, hn, -⟩ | ⟨rfl, hb⟩
  · exact ⟨hm.isBlank_eq_false, hn.isBlank_eq_false⟩
  · exact ⟨Words.isBlank_eq_false (by decide) (by decide), hb.isBlank_eq_false⟩

theorem IsShort.isBlank_eq_false (h : IsShort a v) : Words.isBlank a = false := by
  obtain ⟨n, hn, -⟩ := h
  exact hn.isBlank_eq_false

/-- There is no white space within a colour. -/
theorem Writes.isBlank_eq_false (h : Writes IsSignedPair digits c) :
    ∀ x ∈ '#' :: digits, Words.isBlank x = false := by
  have hsign : Words.isBlank '#' = false := Words.isBlank_eq_false (by decide) (by decide)
  cases h with
  | short hred hgreen hblue _ =>
    simp [hsign, hred.isBlank_eq_false, hgreen.isBlank_eq_false, hblue.isBlank_eq_false]
  | long hred hgreen hblue _ =>
    simp [hsign, hred.isBlank_eq_false, hgreen.isBlank_eq_false, hblue.isBlank_eq_false]
  | withAlpha hred hgreen hblue halpha =>
    simp [hsign, hred.isBlank_eq_false, hgreen.isBlank_eq_false, hblue.isBlank_eq_false,
      halpha.isBlank_eq_false]

/-- **A colour is read where one is written with signs,** and nowhere else. -/
theorem ofString?_eq_some_iff : ofString? s = some c ↔ IsWritten IsSignedPair s c := by
  constructor
  · intro h
    unfold ofString? at h
    split at h
    · next digits htrim =>
      obtain ⟨before, after, hbefore, hafter, hs⟩ := Words.exists_eq_append_trimChars s.toList
      exact ⟨before, digits, after, hbefore, hafter, htrim ▸ hs, ofHexChars?_eq_some_iff.mp h⟩
    · cases h
  · rintro ⟨before, digits, after, hbefore, hafter, hs, h⟩
    have hblank := h.isBlank_eq_false
    have htrim : Words.trimChars s.toList = '#' :: digits := by
      rw [hs]
      exact Words.trimChars_append hbefore hafter (List.cons_ne_nil _ _)
        (fun x hx ↦ hblank x (List.mem_of_mem_head? hx))
        fun x hx ↦ hblank x (List.mem_of_mem_getLast? hx)
    rw [ofString?, htrim]
    exact ofHexChars?_eq_some_iff.mpr h

theorem IsWritten.mono (h : IsWritten pair s c)
    (hpair : ∀ x ∈ s.toList, ∀ y v, pair x y v → pair' x y v) : IsWritten pair' s c := by
  obtain ⟨before, digits, after, hbefore, hafter, hs, h⟩ := h
  refine ⟨before, digits, after, hbefore, hafter, hs, h.mono fun x hx ↦ hpair x ?_⟩
  rw [hs]
  simp [hx]

/-- **Reading a colour.** A colour is read exactly from white space, a number sign, three, six or
eight hexadecimal digits and white space, where in the longer forms a plus sign may stand for the
first digit of a pair. From a text without a plus sign it is read exactly if all of these are
digits. -/
theorem ofString?_eq_some_iff_isWritten (s : String) (c : Color) :
    (ofString? s = some c ↔ IsWritten IsSignedPair s c) ∧
      ('+' ∉ s.toList → (ofString? s = some c ↔ IsWritten IsPair s c)) := by
  refine ⟨ofString?_eq_some_iff, fun hplus ↦ ofString?_eq_some_iff.trans ⟨?_, ?_⟩⟩
  · intro h
    refine h.mono fun x hx y v hpair ↦ hpair.resolve_right ?_
    rintro ⟨rfl, -⟩
    exact hplus hx
  · intro h
    exact h.mono fun x _ y v hpair ↦ .inl hpair

theorem ofString?_digits :
    '+' ∉ " #fF0080".toList ∧ IsWritten IsPair " #fF0080" ⟨255, 0, 128, 255⟩ ∧
      ofString? " #fF0080" = some ⟨255, 0, 128, 255⟩ := by
  have hplus : '+' ∉ " #fF0080".toList := by decide
  have hspace : Words.isBlank ' ' = true := by
    rw [Words.isBlank_eq]
    decide +kernel
  have hwritten : IsWritten IsPair " #fF0080" ⟨255, 0, 128, 255⟩ := by
    refine ⟨[' '], "fF0080".toList, [], List.forall_mem_singleton.mpr hspace,
      List.forall_mem_nil _, rfl, .long ?_ ?_ ?_ rfl⟩
    · exact ⟨15, 15, by decide, by decide, rfl⟩
    · exact ⟨0, 0, by decide, by decide, rfl⟩
    · exact ⟨8, 0, by decide, by decide, rfl⟩
  exact ⟨hplus, hwritten, ((ofString?_eq_some_iff_isWritten _ _).2 hplus).mpr hwritten⟩

/-- Where nothing is white space, a colour takes the whole text. -/
theorem IsWritten.exists_of_not_blank (h : IsWritten pair s c)
    (hs : ∀ x ∈ s.toList, Words.isBlank x = false) :
    ∃ digits, s.toList = '#' :: digits ∧ Writes pair digits c := by
  obtain ⟨before, digits, after, hbefore, hafter, heq, h⟩ := h
  have hnil {l : List Char} (hl : ∀ x ∈ l, Words.isBlank x = true)
      (hsubset : ∀ x ∈ l, x ∈ s.toList) : l = [] := by
    refine List.eq_nil_iff_forall_not_mem.mpr fun x hx ↦ ?_
    exact Bool.noConfusion ((hs x (hsubset x hx)).symm.trans (hl x hx))
  obtain rfl := hnil hbefore fun x hx ↦ by simp [heq, hx]
  obtain rfl := hnil hafter fun x hx ↦ by simp [heq, hx]
  exact ⟨digits, by simpa using heq, h⟩

/-- A plus sign is read for a digit, although it is none. -/
theorem ofString?_plusSigns :
    ofString? "#+1+2+3" = some ⟨1, 2, 3, 255⟩ ∧ ∀ c, ¬IsWritten IsPair "#+1+2+3" c := by
  constructor
  · refine ofString?_eq_some_iff.mpr ⟨[], "+1+2+3".toList, [], List.forall_mem_nil _,
      List.forall_mem_nil _, rfl, .long ?_ ?_ ?_ rfl⟩
    · exact .inr ⟨rfl, by decide⟩
    · exact .inr ⟨rfl, by decide⟩
    · exact .inr ⟨rfl, by decide⟩
  · intro c h
    have hall : "#+1+2+3".toList.all (!Words.isBlank ·) := by
      rw [Words.isBlank_eq]
      decide +kernel
    obtain ⟨digits, hdigits, h⟩ := h.exists_of_not_blank fun x hx ↦ by
      simpa using List.all_eq_true.mp hall x hx
    obtain rfl : "+1+2+3".toList = digits := List.tail_eq_of_cons_eq hdigits
    cases h with
    | long hred _ _ _ =>
      obtain ⟨m, _, hm, -⟩ := hred
      exact not_isDigit_plus hm

end Color

end Highlighter
