import Highlighter.Proofs.Search.Offsets

/-!
# Texts that begin alike

Two texts that have their first bytes in common have the same characters up to there, if the number
of bytes is that of a position (`Source.upTo_eq_of_agreeUpTo`). A byte offset therefore belongs to
the same position in both of them, although the positions behind need not have anything in common.
-/

namespace Highlighter

/-- Whether two texts have their first bytes in common, up to some number of them. -/
def AgreeUpTo (text text' : String) (count : Nat) : Prop :=
  text'.toByteArray.extract 0 count = text.toByteArray.extract 0 count

instance (text text' : String) (count : Nat) : Decidable (AgreeUpTo text text' count) :=
  inferInstanceAs (Decidable (_ = _))

namespace Source

variable {s s' : Source} {pos stop start : Nat} {r : Region}

/-! ## The same bytes -/

/-- The bytes of a text up to an offset are those of the characters in front of its position. -/
theorem extract_toByteArray (h : pos ≤ s.size) : s.text.toByteArray.extract 0 (s.offset pos) =
    (String.ofList (s.chars.toList.take pos)).toByteArray := by
  have hsplit : s.text = String.ofList (s.chars.toList.take pos) ++
      String.ofList (s.chars.toList.drop pos) := by
    rw [← String.ofList_append, List.take_append_drop, Source.text]
  have hoffset : s.offset pos = (String.ofList (s.chars.toList.take pos)).toByteArray.size := by
    rw [offset_eq h, String.size_toByteArray, String.utf8ByteSize_ofList]
  rw [hsplit, String.toByteArray_append]
  exact ByteArray.extract_append_eq_left hoffset

/-- A text that has its first bytes in common with another one has a position there as well. -/
theorem isValid_of_agreeUpTo (h : pos ≤ s.size) (hagree : AgreeUpTo s.text s'.text (s.offset pos)) :
    String.Pos.Raw.IsValid s'.text ⟨s.offset pos⟩ := by
  obtain ⟨hle, hvalid⟩ := String.Pos.Raw.isValid_iff_isValidUTF8_extract_zero.mp (isValid_offset h)
  refine String.Pos.Raw.isValid_iff_isValidUTF8_extract_zero.mpr ⟨?_, hagree ▸ hvalid⟩
  have hsize := congrArg ByteArray.size hagree
  rw [ByteArray.size_extract, ByteArray.size_extract, String.size_toByteArray,
    String.size_toByteArray] at hsize
  rw [String.Pos.Raw.le_iff, String.byteIdx_rawEndPos] at hle ⊢
  dsimp only at hle ⊢
  omega

/-- **Texts that agree up to a byte offset have the same characters up to its position.** -/
theorem upTo_eq_of_agreeUpTo (h : pos ≤ s.size) (hagree : AgreeUpTo s.text s'.text (s.offset pos)) :
    pos ≤ s'.size ∧ s'.upTo pos = s.upTo pos := by
  obtain ⟨pos', h', hoffset⟩ := exists_position (isValid_of_agreeUpTo h hagree)
  have hfront : s'.chars.toList.take pos' = s.chars.toList.take pos := by
    have hbytes := extract_toByteArray h'
    rw [hoffset, hagree, extract_toByteArray h] at hbytes
    exact String.ofList_inj.mp (String.toByteArray_inj.mp hbytes.symm)
  obtain rfl : pos' = pos := by
    have hlength := congrArg List.length hfront
    rw [size] at h h'
    simp only [List.length_take, Array.length_toList] at hlength
    omega
  refine ⟨h', congrArg ofChars ?_⟩
  rw [← Array.toList_inj, Array.toList_extract, Array.toList_extract, List.extract_eq_take_drop,
    List.extract_eq_take_drop]
  exact hfront

/-! ## The same front -/

theorem slice_upTo (hr : r.stop ≤ stop) : (s.upTo stop).slice r = s.slice r := by
  rw [slice, slice, upTo, ofChars, Array.extract_extract, Nat.zero_add, Nat.zero_add,
    Nat.min_eq_left hr]

/-- Positions in a front that texts have in common have the same offsets. -/
theorem offset_eq_of_upTo_eq (hfront : s'.upTo stop = s.upTo stop) (h : stop ≤ s.size)
    (h' : stop ≤ s'.size) (hpos : pos ≤ stop) : s'.offset pos = s.offset pos := by
  rw [← offset_upTo hpos h', hfront, offset_upTo hpos h]

/-- A region between two byte offsets is the same in texts that agree up to its end. -/
theorem region?_eq_of_agreeUpTo (hr : s.region? start stop = some r)
    (hagree : AgreeUpTo s.text s'.text stop) : s'.region? start stop = some r := by
  obtain ⟨h, rfl, rfl⟩ := offset_of_region?_eq_some hr
  obtain ⟨h', hfront⟩ := upTo_eq_of_agreeUpTo h hagree
  rw [← offset_eq_of_upTo_eq hfront h h' r.start_le_stop,
    ← offset_eq_of_upTo_eq hfront h h' (Nat.le_refl _)]
  exact region?_offset h'

end Source

end Highlighter
