import Highlighter.Proofs.Json.Depth
import Highlighter.Proofs.Json.Reader

/-!
# Plain documents

A document is plain if all of its strings stand for texts and its only numbers are integers from
zero on. A plain document stands for a value if there is room for it, and there is a way to write
it.
-/

namespace Highlighter

namespace JsonTree

/-- All strings stand for texts, and all numbers are integers from zero on, of 64 bits. -/
inductive IsPlain : JsonTree → Prop
  | null : IsPlain .null
  | bool (b : Bool) : IsPlain (.bool b)
  | natural {n : Nat} (hn : n < Nat.pow 2 64) : IsPlain (.number (.natural n))
  | string {cs w : List Char} (hw : JsonText.Writes cs w) : IsPlain (.string w)
  | array {ts : List JsonTree} (hts : ∀ t ∈ ts, t.IsPlain) : IsPlain (.array ts)
  | object {ms : List (List Char × JsonTree)} (hkeys : ∀ m ∈ ms, ∃ cs, JsonText.Writes cs m.1)
      (hms : ∀ m ∈ ms, m.2.IsPlain) : IsPlain (.object ms)

theorem IsPlain.isValue {t : JsonTree} (h : t.IsPlain) {r : Nat} (hr : t.depth ≤ r) :
    t.isValue r := by
  induction h generalizing r with
  | null | bool => rfl
  | natural hn => simp [JsonTree.isValue, JsonNumber.value?_natural hn]
  | string hw => simp [JsonTree.isValue, JsonText.decode?, hw.decodeChars_eq_some]
  | array _ ih =>
    obtain ⟨r, rfl, hts⟩ := exists_eq_add_one_of_depth_array_le hr
    exact areValues_iff.2 fun t ht ↦ ih t ht (depth_le_of_itemsDepth_le hts t ht)
  | object hkeys _ ih =>
    obtain ⟨r, rfl, hms⟩ := exists_eq_add_one_of_depth_object_le hr
    refine areMembers_iff.2 fun m hm ↦ ⟨?_, ih m hm (depth_le_of_membersDepth_le hms m hm)⟩
    obtain ⟨cs, hw⟩ := hkeys m hm
    simp [JsonText.decode?, hw.decodeChars_eq_some]

/-- Members whose keys stand for texts and whose values are plain. -/
def ArePlain (ms : List (List Char × JsonTree)) : Prop :=
  ∀ m ∈ ms, (∃ cs, JsonText.Writes cs m.1) ∧ m.2.IsPlain

theorem ArePlain.isPlain_object {ms : List (List Char × JsonTree)} (h : ArePlain ms) :
    (object ms).IsPlain :=
  .object (fun m hm ↦ (h m hm).1) fun m hm ↦ (h m hm).2

theorem ArePlain.nil : ArePlain [] := List.forall_mem_nil _

theorem ArePlain.cons {cs k : List Char} {t : JsonTree} {ms : List (List Char × JsonTree)}
    (hkey : JsonText.Writes cs k) (ht : t.IsPlain) (hms : ArePlain ms) : ArePlain ((k, t) :: ms) :=
  List.forall_mem_cons.2 ⟨⟨⟨cs, hkey⟩, ht⟩, hms⟩

theorem isPlain_singleton {k : List Char} {t : JsonTree} (hk : JsonText.Writes k k)
    (ht : t.IsPlain) : (object [(k, t)]).IsPlain :=
  (ArePlain.cons hk ht .nil).isPlain_object

mutual

/-- Whether a tree is plain and nothing is escaped in it. -/
def isUnescaped : JsonTree → Bool
  | .null | .bool _ => true
  | .number n =>
    decide (n = .natural (JsonNumber.ofDigits n.whole)) &&
      decide (JsonNumber.ofDigits n.whole < Nat.pow 2 64)
  | .string w => w.all JsonText.isUnescaped
  | .array ts => areUnescaped ts
  | .object ms => areUnescapedMembers ms

def areUnescaped : List JsonTree → Bool
  | [] => true
  | t :: ts => t.isUnescaped && areUnescaped ts

def areUnescapedMembers : List (List Char × JsonTree) → Bool
  | [] => true
  | (k, t) :: ms => k.all JsonText.isUnescaped && t.isUnescaped && areUnescapedMembers ms

end

mutual

theorem isPlain_of_isUnescaped (t : JsonTree) (h : t.isUnescaped) : t.IsPlain := by
  match t with
  | .null => exact .null
  | .bool b => exact .bool b
  | .number n =>
    rw [isUnescaped, Bool.and_eq_true, decide_eq_true_eq, decide_eq_true_eq] at h
    exact h.1 ▸ .natural h.2
  | .string w => exact .string (JsonText.writes_self h)
  | .array ts => exact .array (isPlain_of_areUnescaped ts h)
  | .object ms => exact (arePlain_of_areUnescapedMembers ms h).isPlain_object

theorem isPlain_of_areUnescaped (ts : List JsonTree) (h : areUnescaped ts) :
    ∀ t ∈ ts, t.IsPlain := by
  match ts with
  | [] => simp
  | t :: ts =>
    rw [areUnescaped, Bool.and_eq_true] at h
    exact List.forall_mem_cons.2 ⟨isPlain_of_isUnescaped t h.1, isPlain_of_areUnescaped ts h.2⟩

theorem arePlain_of_areUnescapedMembers (ms : List (List Char × JsonTree))
    (h : areUnescapedMembers ms) : ArePlain ms := by
  match ms with
  | [] => exact .nil
  | (k, t) :: ms =>
    rw [areUnescapedMembers, Bool.and_eq_true, Bool.and_eq_true] at h
    exact .cons (JsonText.writes_self h.1.1) (isPlain_of_isUnescaped t h.1.2)
      (arePlain_of_areUnescapedMembers ms h.2)

end

end JsonTree

/-! ## Writing plain documents -/

namespace JsonToken

/-- A way to write a token of a plain document. -/
def text : JsonToken → List Char
  | openArray => ['[']
  | closeArray => [']']
  | openObject => ['\x7b']
  | closeObject => ['\x7d']
  | comma => [',']
  | colon => [':']
  | scalar (.bool true) => ['t', 'r', 'u', 'e']
  | scalar (.bool false) => ['f', 'a', 'l', 's', 'e']
  | scalar (.number n) => n.whole.map Nat.digitChar
  | scalar (.string w) => '"' :: (w ++ ['"'])
  | scalar _ => ['n', 'u', 'l', 'l']

theorem map_digitChar_naturalDigits (n : Nat) :
    (JsonNumber.naturalDigits n).map Nat.digitChar = Nat.toDigits 10 n := by
  induction n using Nat.strongRecOn with
  | ind n ih =>
    rcases Nat.lt_or_ge n 10 with hn | hn
    · rw [JsonNumber.naturalDigits, Nat.toDigits_of_lt_base hn]
      exact congrArg (fun d ↦ [Nat.digitChar d]) (Nat.toNat_digitChar_sub_48_of_lt_ten hn)
    · rw [JsonNumber.naturalDigits_of_ten_le hn, List.map_append, ih (n / 10) (by omega),
        Nat.toDigits_of_base_le (by decide) hn, List.map_singleton]

/-- Tokens can be written with a space after each of them. -/
theorem lays_text {ts : List JsonToken} (h : ∀ t ∈ ts, Writes t t.text) :
    Lays ts (ts.flatMap fun t ↦ t.text ++ [' ']) := by
  induction ts with
  | nil => exact .nil
  | cons t ts ih =>
    obtain ⟨ht, hts⟩ := List.forall_mem_cons.1 h
    rw [List.flatMap_cons, List.append_assoc]
    refine .token ht (fun _ _ c hc ↦ ?_) (.blank rfl (ih hts))
    cases hc
    decide

end JsonToken

namespace JsonTree

/-- A way to write a plain document. -/
def text (t : JsonTree) : String := String.ofList (t.tokens.flatMap fun k ↦ k.text ++ [' '])

theorem writes_itemTokens {ts : List JsonTree}
    (h : ∀ t ∈ ts, ∀ k ∈ t.tokens, JsonToken.Writes k k.text) :
    ∀ k ∈ itemTokens ts, JsonToken.Writes k k.text := by
  induction ts with
  | nil => exact List.forall_mem_singleton.2 .closeArray
  | cons t ts ih =>
    obtain ⟨ht, hts⟩ := List.forall_mem_cons.1 h
    rw [itemTokens, List.forall_mem_cons, List.forall_mem_append]
    exact ⟨.comma, ht, ih hts⟩

theorem writes_memberTokens {ms : List (List Char × JsonTree)}
    (hkeys : ∀ m ∈ ms, JsonText.IsBody m.1)
    (h : ∀ m ∈ ms, ∀ k ∈ m.2.tokens, JsonToken.Writes k k.text) :
    ∀ k ∈ memberTokens ms, JsonToken.Writes k k.text := by
  induction ms with
  | nil => exact List.forall_mem_singleton.2 .closeObject
  | cons m ms ih =>
    obtain ⟨hkey, hkeys⟩ := List.forall_mem_cons.1 hkeys
    obtain ⟨ht, hms⟩ := List.forall_mem_cons.1 h
    rw [memberTokens, List.forall_mem_cons, List.forall_mem_cons, List.forall_mem_cons,
      List.forall_mem_append]
    exact ⟨.comma, .string hkey, .colon, ht, ih hkeys hms⟩

theorem IsPlain.writes_tokens {t : JsonTree} (h : t.IsPlain) :
    ∀ k ∈ t.tokens, JsonToken.Writes k k.text := by
  induction h with
  | null => exact List.forall_mem_singleton.2 .null
  | bool b => cases b <;> exact List.forall_mem_singleton.2 (by constructor)
  | @natural n hn =>
    refine List.forall_mem_singleton.2 ?_
    have htext := JsonToken.map_digitChar_naturalDigits n
    rw [JsonToken.text, JsonNumber.natural, htext]
    exact .natural n
  | string hw => exact List.forall_mem_singleton.2 (.string hw.isBody)
  | @array ts _ ih =>
    cases ts with
    | nil =>
      rw [tokens, List.forall_mem_cons, List.forall_mem_singleton]
      exact ⟨.openArray, .closeArray⟩
    | cons t ts =>
      obtain ⟨ht, hts⟩ := List.forall_mem_cons.1 ih
      rw [tokens, List.forall_mem_cons, List.forall_mem_append]
      exact ⟨.openArray, ht, writes_itemTokens hts⟩
  | @object ms hkeys _ ih =>
    cases ms with
    | nil =>
      rw [tokens, List.forall_mem_cons, List.forall_mem_singleton]
      exact ⟨.openObject, .closeObject⟩
    | cons m ms =>
      have hbodies : ∀ m' ∈ m :: ms, JsonText.IsBody m'.1 := fun m' hm' ↦
        (hkeys m' hm').elim fun _ hw ↦ hw.isBody
      obtain ⟨hkey, hkeys⟩ := List.forall_mem_cons.1 hbodies
      obtain ⟨ht, hms⟩ := List.forall_mem_cons.1 ih
      rw [tokens, List.forall_mem_cons, List.forall_mem_cons, List.forall_mem_cons,
        List.forall_mem_append]
      exact ⟨.openObject, .string hkey, .colon, ht, writes_memberTokens hkeys hms⟩

/-- A plain document can be written. -/
theorem IsPlain.isText_text {t : JsonTree} (h : t.IsPlain) : t.IsText t.text := by
  rw [IsText, text, String.toList_ofList]
  exact JsonToken.lays_text h.writes_tokens

end JsonTree

end Highlighter
