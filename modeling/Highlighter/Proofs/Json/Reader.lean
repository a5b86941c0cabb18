import Highlighter.Proofs.Json.Text
import Mathlib.Data.List.Basic

/-!
# Written documents

A text is a way to write a document if it holds the document's tokens in order (`JsonTree.tokens`),
with white space wherever two of them meet (`JsonToken.Lays`). Reading such a text gives the
document back (`JsonTree.IsText.ofString?_eq_some`). Of the numbers, only integers from zero on are
written here.
-/

namespace Highlighter

/-! ## Numbers -/

namespace JsonNumber

/-- The digits of an integer from zero on. -/
def naturalDigits (n : Nat) : List Nat := (Nat.toDigits 10 n).map fun c ↦ c.toNat - '0'.toNat

/-- An integer from zero on. -/
def natural (n : Nat) : JsonNumber := ⟨false, naturalDigits n, none, none⟩

theorem ofDigits_naturalDigits (n : Nat) : ofDigits (naturalDigits n) = n := by
  rw [ofDigits, naturalDigits, List.foldl_map, ← Nat.ofDigitChars_eq_foldl]
  exact Nat.ofDigitChars_ten_toDigits

theorem value?_natural {n : Nat} (h : n < Nat.pow 2 64) :
    (natural n).value? = some (.natural n) := by
  have hlt : decide (n < Nat.pow 2 64) = true := decide_eq_true h
  simp only [value?, natural, ofDigits_naturalDigits, hlt]
  rfl

theorem naturalDigits_ne_nil (n : Nat) : naturalDigits n ≠ [] := by
  simp [naturalDigits]

theorem naturalDigits_of_ten_le {n : Nat} (h : 10 ≤ n) :
    naturalDigits n = naturalDigits (n / 10) ++ [n % 10] := by
  have hlast : (Nat.digitChar (n % 10)).toNat - '0'.toNat = n % 10 :=
    Nat.toNat_digitChar_sub_48_of_lt_ten (Nat.mod_lt n (by decide))
  rw [naturalDigits, Nat.toDigits_of_base_le (by decide) h, List.map_append, List.map_singleton,
    hlast, naturalDigits]

/-- Only zero begins with the digit zero. -/
theorem eq_zero_of_head?_naturalDigits {n : Nat} (h : (naturalDigits n).head? = some 0) :
    n = 0 := by
  induction n using Nat.strongRecOn with
  | ind n ih =>
    rcases Nat.lt_or_ge n 10 with hn | hn
    · rw [naturalDigits, Nat.toDigits_of_lt_base hn] at h
      simpa [Nat.toNat_digitChar_sub_48_of_lt_ten hn] using h
    · rw [naturalDigits_of_ten_le hn, List.head?_append_of_ne_nil _ (naturalDigits_ne_nil _)] at h
      have := ih (n / 10) (by omega) h
      omega

end JsonNumber

namespace JsonToken

/-- Digits are read up to the first character that is none. -/
theorem digits_append {ds rest : List Char} (hds : ∀ c ∈ ds, c.isDigit)
    (hrest : ∀ c ∈ rest.head?, ¬c.isDigit) :
    ∃ h, digits (ds ++ rest) = (ds.map fun c ↦ c.toNat - '0'.toNat, ⟨rest, h⟩) := by
  induction ds with
  | nil =>
    refine ⟨Nat.le_refl _, ?_⟩
    change digits rest = _
    cases rest with
    | nil => rfl
    | cons c rest => rw [digits, if_neg (hrest c rfl)]; rfl
  | cons d ds ih =>
    obtain ⟨h, ih⟩ := ih fun c hc ↦ hds c (List.mem_cons_of_mem _ hc)
    refine ⟨Nat.le_succ_of_le h, ?_⟩
    change digits (d :: (ds ++ rest)) = _
    rw [digits, if_pos (hds d List.mem_cons_self), ih]
    rfl

/-- A number in digits is read as such, where no digit follows. -/
theorem wholePart_toDigits (n : Nat) {rest : List Char} (hrest : ∀ c ∈ rest.head?, ¬c.isDigit) :
    ∃ h, wholePart (Nat.toDigits 10 n ++ rest) =
      some (JsonNumber.naturalDigits n, ⟨rest, h⟩) := by
  obtain ⟨h, hdigits⟩ := digits_append
    (fun c (hc : c ∈ Nat.toDigits 10 n) ↦
      Nat.isDigit_of_mem_toDigits (by decide) (by decide) hc) hrest
  refine ⟨h, ?_⟩
  change _ = (JsonNumber.naturalDigits n, _) at hdigits
  rw [wholePart, hdigits]
  split
  · next heq => exact absurd (congrArg Prod.fst heq) (JsonNumber.naturalDigits_ne_nil n)
  · next heq =>
    have heq := congrArg Prod.fst heq
    have hn := JsonNumber.eq_zero_of_head?_naturalDigits (congrArg List.head? heq)
    subst hn
    exact absurd (congrArg List.length heq) (by simp [JsonNumber.naturalDigits])
  · next heq =>
    rw [← heq]

/-! ## Tokens -/

/-- The ways to write a token. -/
inductive Writes : JsonToken → List Char → Prop
  | openArray : Writes openArray ['[']
  | closeArray : Writes closeArray [']']
  | openObject : Writes openObject ['\x7b']
  | closeObject : Writes closeObject ['\x7d']
  | comma : Writes comma [',']
  | colon : Writes colon [':']
  | null : Writes (scalar .null) ['n', 'u', 'l', 'l']
  | true : Writes (scalar (.bool true)) ['t', 'r', 'u', 'e']
  | false : Writes (scalar (.bool false)) ['f', 'a', 'l', 's', 'e']
  | natural (n : Nat) : Writes (scalar (.number (.natural n))) (Nat.toDigits 10 n)
  | string {w : List Char} (hw : JsonText.IsBody w) :
      Writes (scalar (.string w)) ('"' :: (w ++ ['"']))

/-- Whether a number can go on with a character. -/
def continuesNumber (c : Char) : Bool := c.isDigit || c == '.' || c == 'e' || c == 'E'

/-- The ways to write tokens one after another. White space may come before each of them and at the
end, and must come where a number would go on otherwise. -/
inductive Lays : List JsonToken → List Char → Prop
  | nil : Lays [] []
  | blank {ts : List JsonToken} {c : Char} {w : List Char} (hc : isBlank c) (h : Lays ts w) :
      Lays ts (c :: w)
  | token {t : JsonToken} {ts : List JsonToken} {v w : List Char} (hv : Writes t v)
      (hend : ∀ n, t = scalar (.number n) → ∀ c ∈ w.head?, ¬continuesNumber c) (h : Lays ts w) :
      Lays (t :: ts) (v ++ w)

theorem fractionPart_eq_none {rest : List Char} (hrest : ∀ c ∈ rest.head?, ¬continuesNumber c) :
    fractionPart rest = some (none, ⟨rest, Nat.le_refl _⟩) := by
  rw [fractionPart]
  rintro rest rfl
  exact hrest '.' rfl (by decide)

theorem exponentPart_eq_none {rest : List Char} (hrest : ∀ c ∈ rest.head?, ¬continuesNumber c) :
    exponentPart rest = some (none, ⟨rest, Nat.le_refl _⟩) := by
  cases rest with
  | nil => rfl
  | cons c rest =>
    have hc := hrest c rfl
    simp only [continuesNumber, Bool.or_eq_true, beq_iff_eq, not_or] at hc
    rw [exponentPart, if_neg (by simp [hc])]

theorem number_toDigits (n : Nat) {rest : List Char}
    (hrest : ∀ c ∈ rest.head?, ¬continuesNumber c) :
    ∃ h, number false (Nat.toDigits 10 n ++ rest) =
      some (scalar (.number (.natural n)), ⟨rest, h⟩) := by
  obtain ⟨h, hwhole⟩ := wholePart_toDigits n fun c hc hdigit ↦
    hrest c hc (by simp [continuesNumber, hdigit])
  refine ⟨h, ?_⟩
  simp only [number, hwhole, fractionPart_eq_none hrest, exponentPart_eq_none hrest,
    Option.bind_eq_bind, Option.bind_some]
  rfl

theorem isBlank_of_isDigit {c : Char} (hc : c.isDigit) : isBlank c = false := by
  rw [Bool.eq_false_iff]
  intro hblank
  simp only [isBlank, Bool.or_eq_true, beq_iff_eq] at hblank
  rcases hblank with ((rfl | rfl) | rfl) | rfl <;> exact absurd hc (by decide)

/-- A text that begins with a digit is read as a number. -/
theorem next_of_isDigit {c : Char} {rest : List Char} (hc : c.isDigit) {t : JsonToken}
    {left : List Char} (hleft : left.length ≤ rest.length)
    (hnumber : ∃ h, number false (c :: rest) = some (t, ⟨left, h⟩)) :
    next c rest = some (t, ⟨left, hleft⟩) := by
  obtain ⟨h, hnumber⟩ := hnumber
  rw [next]
  · rw [if_pos hc, hnumber]
    exact dif_pos hleft
  all_goals
    rintro rfl
    exact absurd hc (by decide)

/-- A written token is read as that token. -/
theorem next_of_writes {t : JsonToken} {v rest : List Char} (hv : Writes t v)
    (hend : ∀ n, t = scalar (.number n) → ∀ c ∈ rest.head?, ¬continuesNumber c) :
    ∃ c v' h, v = c :: v' ∧ isBlank c = false ∧ next c (v' ++ rest) = some (t, ⟨rest, h⟩) := by
  cases hv with
  | natural n =>
    obtain ⟨c, v, hv⟩ := List.exists_cons_of_ne_nil (Nat.toDigits_ne_nil (n := n) (b := 10))
    have hc : c.isDigit :=
      Nat.isDigit_of_mem_toDigits (b := 10) (n := n) (by decide) (by decide) (by simp [hv])
    have hnumber := number_toDigits n (hend _ rfl)
    rw [hv] at hnumber
    exact ⟨c, v, by simp, hv, isBlank_of_isDigit hc, next_of_isDigit hc _ hnumber⟩
  | @string w hw =>
    have hbody := stringBody_append hw rest
    rw [← List.singleton_append, ← List.append_assoc] at hbody
    obtain ⟨h, hbody⟩ := hbody
    refine ⟨'"', w ++ ['"'], h, rfl, rfl, ?_⟩
    rw [next, hbody]
    rfl
  | _ => exact ⟨_, _, by simp <;> omega, rfl, rfl, rfl⟩

theorem ofChars_eq_some {ts : List JsonToken} {w : List Char} (h : Lays ts w) :
    ofChars w = some ts := by
  induction h with
  | nil => rw [ofChars]
  | blank hc _ ih => rw [ofChars, if_pos hc, ih]
  | token hv hend _ ih =>
    obtain ⟨c, v, h, rfl, hc, hnext⟩ := next_of_writes hv hend
    rw [List.cons_append, ofChars, if_neg (by simp [hc]), hnext]
    simp [ih]

end JsonToken

/-! ## Trees -/

namespace JsonTree

mutual

/-- The tokens of a document. -/
def tokens : JsonTree → List JsonToken
  | .array [] => [.openArray, .closeArray]
  | .array (t :: ts) => .openArray :: (t.tokens ++ itemTokens ts)
  | .object [] => [.openObject, .closeObject]
  | .object ((k, t) :: ms) =>
    .openObject :: .scalar (.string k) :: .colon :: (t.tokens ++ memberTokens ms)
  | .null => [.scalar .null]
  | .bool b => [.scalar (.bool b)]
  | .number n => [.scalar (.number n)]
  | .string w => [.scalar (.string w)]

/-- The tokens of the items of an array that come after another one, and of its end. -/
def itemTokens : List JsonTree → List JsonToken
  | [] => [.closeArray]
  | t :: ts => .comma :: (t.tokens ++ itemTokens ts)

/-- The tokens of the members of an object that come after another one, and of its end. -/
def memberTokens : List (List Char × JsonTree) → List JsonToken
  | [] => [.closeObject]
  | (k, t) :: ms => .comma :: .scalar (.string k) :: .colon :: (t.tokens ++ memberTokens ms)

end

/-- The first item of an array is read as any other value. -/
theorem assemble_firstItem (t : JsonTree) (rest : List JsonToken) (stack : List JsonFrame) :
    assemble (t.tokens ++ rest) stack .firstItem =
      assemble (t.tokens ++ rest) (.array [] :: stack) .value := by
  rcases t with _ | _ | _ | _ | (_ | ⟨t, ts⟩) | (_ | ⟨⟨k, t⟩, ms⟩) <;> rfl

mutual

theorem assemble_tokens (t : JsonTree) (rest : List JsonToken) (stack : List JsonFrame) :
    assemble (t.tokens ++ rest) stack .value = assemble rest stack (.after t) := by
  match t with
  | .null | .bool _ | .number _ | .string _ | .array [] | .object [] => rfl
  | .array (t :: ts) =>
    simp only [tokens, List.cons_append, List.append_assoc, assemble]
    rw [assemble_firstItem, assemble_tokens t, assemble_itemTokens ts]
    rfl
  | .object ((k, t) :: ms) =>
    simp only [tokens, List.cons_append, List.append_assoc, assemble]
    rw [assemble_tokens t, assemble_memberTokens ms]
    rfl

theorem assemble_itemTokens (ts : List JsonTree) (rest : List JsonToken) (items : List JsonTree)
    (v : JsonTree) (stack : List JsonFrame) :
    assemble (itemTokens ts ++ rest) (.array items :: stack) (.after v) =
      assemble rest stack (.after (.array (items.reverse ++ v :: ts))) := by
  match ts with
  | [] => simp [itemTokens, assemble]
  | t :: ts =>
    simp only [itemTokens, List.cons_append, List.append_assoc, assemble]
    rw [assemble_tokens t, assemble_itemTokens ts]
    simp

theorem assemble_memberTokens (ms : List (List Char × JsonTree)) (rest : List JsonToken)
    (before : List (List Char × JsonTree)) (k : List Char) (v : JsonTree)
    (stack : List JsonFrame) :
    assemble (memberTokens ms ++ rest) (.object before k :: stack) (.after v) =
      assemble rest stack (.after (.object (before.reverse ++ (k, v) :: ms))) := by
  match ms with
  | [] => simp [memberTokens, assemble]
  | (k', t) :: ms =>
    simp only [memberTokens, List.cons_append, List.append_assoc, assemble]
    rw [assemble_tokens t, assemble_memberTokens ms]
    simp

end

/-- The ways to write a document as a text. -/
def IsText (t : JsonTree) (text : String) : Prop := JsonToken.Lays t.tokens text.toList

/-- What is written is read. -/
theorem IsText.ofString?_eq_some {t : JsonTree} {text : String} (h : t.IsText text) :
    ofString? text = some t := by
  rw [ofString?, JsonToken.ofChars_eq_some h, Option.bind_some, ← t.tokens.append_nil,
    assemble_tokens]
  rfl

end JsonTree

end Highlighter
