import Highlighter.Text.Source
import Mathlib.Data.String.Basic

/-!
# Byte offsets of positions

The offset of a position is the length in bytes of the characters before it. Offsets of positions
therefore lie between two characters and ascend, and the text between two of them is that of the
region between the positions (`Source.isSlice_slice`). This is what carries a statement on regions
over to tokens and spans, which have byte offsets.

Going to the next position and going on by one character are the same, also at the end of the text,
where both lead behind it (`Source.offsetAfter_offset`, `Source.offsetAfter_byteSize`).
-/

namespace Highlighter

open String (utf8Len)

/-- Whether a text is the part of another one between two byte offsets that are in order and lie
between characters. -/
structure IsSlice (text : String) (start stop : Nat) (part : String) : Prop where
  start_isValid : String.Pos.Raw.IsValid text ⟨start⟩
  stop_isValid : String.Pos.Raw.IsValid text ⟨stop⟩
  start_le_stop : start ≤ stop
  eq_extract : part = String.Pos.Raw.extract text ⟨start⟩ ⟨stop⟩

/-! ## Offsets from the beginning -/

theorem length_offsetsFrom (offset : Nat) (cs : List Char) :
    (offsetsFrom offset cs).length = cs.length + 1 := by
  induction cs generalizing offset with
  | nil => rfl
  | cons c cs ih => rw [offsetsFrom, List.length_cons, ih, List.length_cons]

theorem getElem?_offsetsFrom {offset pos : Nat} {cs : List Char} (h : pos ≤ cs.length) :
    (offsetsFrom offset cs)[pos]? = some (offset + utf8Len (cs.take pos)) := by
  induction cs generalizing offset pos with
  | nil =>
    obtain rfl : pos = 0 := Nat.le_zero.mp h
    rfl
  | cons c cs ih =>
    cases pos with
    | zero => rfl
    | succ pos =>
      rw [offsetsFrom, List.getElem?_cons_succ, ih (Nat.le_of_succ_le_succ h), List.take_succ_cons,
        String.utf8Len_cons, Nat.add_assoc, Nat.add_comm c.utf8Size]

theorem utf8Len_pos {cs : List Char} (h : cs ≠ []) : 0 < utf8Len cs := by
  obtain ⟨c, cs, rfl⟩ := List.exists_cons_of_ne_nil h
  rw [String.utf8Len_cons]
  exact Nat.add_pos_right _ c.utf8Size_pos

namespace Source

variable {s : Source} {pos pos' : Nat} {r : Region}

@[simp]
theorem text_ofString (text : String) : (ofString text).text = text := by
  simp [Source.text, ofString, ofChars]

theorem offset_eq (h : pos ≤ s.size) : s.offset pos = utf8Len (s.chars.toList.take pos) := by
  have hget : s.offsets[pos]? = some (0 + utf8Len (s.chars.toList.take pos)) := by
    rw [s.offsets_eq, List.getElem?_toArray]
    exact getElem?_offsetsFrom (by simpa [size] using h)
  rw [offset, hget, Option.getD_some, Nat.zero_add]

@[simp]
theorem offset_zero (s : Source) : s.offset 0 = 0 := by
  rw [offset_eq (Nat.zero_le _)]
  rfl

@[simp]
theorem byteSize_eq (s : Source) : s.byteSize = s.text.utf8ByteSize := by
  rw [byteSize, offset_eq (Nat.le_refl _), size, ← Array.length_toList, List.take_length,
    Source.text, String.utf8ByteSize_ofList]

/-- The characters of a longer front of a text are those of a shorter one and what follows these. -/
theorem offset_eq_add (hle : pos ≤ pos') (h : pos' ≤ s.size) : s.offset pos' =
    s.offset pos + utf8Len ((s.chars.toList.drop pos).take (pos' - pos)) := by
  obtain ⟨n, rfl⟩ := Nat.exists_eq_add_of_le hle
  rw [offset_eq h, offset_eq (Nat.le_trans hle h), List.take_add, String.utf8Len_append,
    Nat.add_sub_cancel_left]

theorem offset_le_offset (hle : pos ≤ pos') (h : pos' ≤ s.size) : s.offset pos ≤ s.offset pos' := by
  rw [offset_eq_add hle h]
  exact Nat.le_add_right _ _

theorem offset_lt_offset (hlt : pos < pos') (h : pos' ≤ s.size) : s.offset pos < s.offset pos' := by
  rw [offset_eq_add (Nat.le_of_lt hlt) h]
  refine Nat.lt_add_of_pos_right (utf8Len_pos fun hnil ↦ ?_)
  have hlength := congrArg List.length hnil
  rw [size] at h
  simp only [List.length_take, List.length_drop, Array.length_toList, List.length_nil] at hlength
  omega

theorem isValid_offset (h : pos ≤ s.size) : String.Pos.Raw.IsValid s.text ⟨s.offset pos⟩ := by
  rw [Source.text, String.Pos.Raw.isValid_ofList]
  exact ⟨pos, by rw [offset_eq h, String.utf8ByteSize_ofList]⟩

/-! ## Slices -/

theorem toList_slice (s : Source) (r : Region) :
    (s.slice r).toList = (s.chars.toList.drop r.start).take (r.stop - r.start) := by
  rw [slice, String.toList_ofList, Array.toList_extract, List.extract_eq_take_drop]

theorem getElem?_toList_slice {i : Nat} (h : i < r.stop - r.start) :
    (s.slice r).toList[i]? = s.chars[r.start + i]? := by
  rw [toList_slice, List.getElem?_take_of_lt h, List.getElem?_drop, Array.getElem?_toList]

theorem length_toList_slice (h : r.stop ≤ s.size) :
    (s.slice r).toList.length = r.stop - r.start := by
  rw [toList_slice, List.length_take, List.length_drop, Array.length_toList]
  rw [size] at h
  omega

/-- The text of a region lies between the offsets of its two ends. -/
theorem isSlice_slice (h : r.stop ≤ s.size) :
    IsSlice s.text (s.offset r.start) (s.offset r.stop) (s.slice r) where
  start_isValid := isValid_offset (Nat.le_trans r.start_le_stop h)
  stop_isValid := isValid_offset h
  start_le_stop := offset_le_offset r.start_le_stop h
  eq_extract := by
    have hsplit : s.chars.toList =
        s.chars.toList.take r.start ++ (s.slice r).toList ++ s.chars.toList.drop r.stop := by
      obtain ⟨n, hn⟩ := Nat.exists_eq_add_of_le r.start_le_stop
      rw [toList_slice, hn, Nat.add_sub_cancel_left, ← List.take_add, List.take_append_drop]
    have hextract := String.extract_of_valid (s.chars.toList.take r.start) (s.slice r).toList
      (s.chars.toList.drop r.stop)
    rw [← hsplit, String.ofList_toList, ← offset_eq (Nat.le_trans r.start_le_stop h), toList_slice,
      ← offset_eq_add r.start_le_stop h] at hextract
    exact hextract.symm

theorem slice_append_slice {start mid stop : Nat} (h : start ≤ mid) (h' : mid ≤ stop) :
    s.slice ⟨start, mid, h⟩ ++ s.slice ⟨mid, stop, h'⟩ =
      s.slice ⟨start, stop, Nat.le_trans h h'⟩ := by
  obtain ⟨m, rfl⟩ := Nat.exists_eq_add_of_le h
  obtain ⟨n, rfl⟩ := Nat.exists_eq_add_of_le h'
  rw [← String.toList_inj, String.toList_append, toList_slice, toList_slice, toList_slice]
  dsimp only
  rw [Nat.add_sub_cancel_left, Nat.add_sub_cancel_left, Nat.add_assoc, Nat.add_sub_cancel_left,
    List.take_add, List.drop_drop]

theorem slice_of_isEmpty (h : r.isEmpty = true) : s.slice r = "" := by
  rw [← String.toList_inj, toList_slice, Region.isEmpty_iff.mp h, Nat.sub_self]
  rfl

/-! ## Positions of offsets -/

theorem size_offsets (s : Source) : s.offsets.size = s.size + 1 := by
  rw [s.offsets_eq, List.size_toArray, length_offsetsFrom, size, Array.length_toList]

theorem getElem_offsets (h : pos < s.offsets.size) : s.offsets[pos] = s.offset pos := by
  rw [offset, Array.getElem?_eq_getElem h, Option.getD_some]

theorem position?_offset (h : pos ≤ s.size) : s.position? (s.offset pos) = some pos := by
  have hsize := s.size_offsets
  rw [position?, Array.findIdx?_eq_some_iff_getElem]
  refine ⟨by omega, by simp [getElem_offsets], fun j hj ↦ ?_⟩
  -- An earlier position has a smaller offset.
  have hlt := offset_lt_offset hj h
  rw [getElem_offsets (by omega), beq_iff_eq]
  omega

theorem offset_of_position?_eq_some {offset : Nat} (h : s.position? offset = some pos) :
    pos ≤ s.size ∧ s.offset pos = offset := by
  rw [position?, Array.findIdx?_eq_some_iff_getElem] at h
  obtain ⟨hlt, hoffset, -⟩ := h
  rw [getElem_offsets hlt, beq_iff_eq] at hoffset
  rw [size_offsets] at hlt
  exact ⟨Nat.le_of_lt_succ hlt, hoffset⟩

theorem region?_offset (h : r.stop ≤ s.size) :
    s.region? (s.offset r.start) (s.offset r.stop) = some r := by
  rw [region?, position?_offset (Nat.le_trans r.start_le_stop h), position?_offset h]
  exact dif_pos r.start_le_stop

/-- A region is found for the offsets of its ends only. -/
theorem offset_of_region?_eq_some {start stop : Nat} (h : s.region? start stop = some r) :
    r.stop ≤ s.size ∧ s.offset r.start = start ∧ s.offset r.stop = stop := by
  obtain ⟨a, ha, h'⟩ := Option.bind_eq_some_iff.mp h
  obtain ⟨b, hb, hregion⟩ := Option.bind_eq_some_iff.mp h'
  obtain ⟨-, hstart⟩ := offset_of_position?_eq_some ha
  obtain ⟨hle, hstop⟩ := offset_of_position?_eq_some hb
  split at hregion
  · obtain rfl := Option.some.inj hregion
    exact ⟨hle, hstart, hstop⟩
  · cases hregion

theorem isSlice_of_region?_eq_some {start stop : Nat} (h : s.region? start stop = some r) :
    IsSlice s.text start stop (s.slice r) := by
  obtain ⟨hstop, rfl, rfl⟩ := offset_of_region?_eq_some h
  exact isSlice_slice hstop

theorem offsetAfter_offset (h : pos < s.size) :
    s.offsetAfter (s.offset pos) = s.offset (pos + 1) := by
  rw [offsetAfter, position?_offset (Nat.le_of_lt h)]
  exact if_pos h

theorem offsetAfter_byteSize (s : Source) : s.offsetAfter s.byteSize = s.byteSize + 1 := by
  rw [offsetAfter, byteSize, position?_offset (Nat.le_refl _)]
  exact if_neg (Nat.lt_irrefl _)

/-- Positions with the same offset are the same. -/
theorem offset_inj (h : pos ≤ s.size) (h' : pos' ≤ s.size) (heq : s.offset pos = s.offset pos') :
    pos = pos' := by
  have hposition := position?_offset h
  rw [heq, position?_offset h'] at hposition
  exact (Option.some.inj hposition).symm

/-! ## Parts -/

/-- An offset between two characters is that of a position. -/
theorem exists_position {offset : Nat} (h : String.Pos.Raw.IsValid s.text ⟨offset⟩) :
    ∃ pos, pos ≤ s.size ∧ s.offset pos = offset := by
  rw [Source.text, String.Pos.Raw.isValid_ofList] at h
  obtain ⟨n, rfl⟩ := h
  refine ⟨min n s.size, Nat.min_le_right _ _, ?_⟩
  rw [offset_eq (Nat.min_le_right _ _), size, ← Array.length_toList, ← List.take_eq_take_min,
    String.utf8ByteSize_ofList]

/-- A part of a text is the slice of a region. -/
theorem exists_region {start stop : Nat} {part : String} (h : IsSlice s.text start stop part) :
    ∃ r : Region, r.stop ≤ s.size ∧ s.offset r.start = start ∧ s.offset r.stop = stop ∧
      s.slice r = part := by
  obtain ⟨a, ha, rfl⟩ := exists_position h.start_isValid
  obtain ⟨b, hb, rfl⟩ := exists_position h.stop_isValid
  have hle : a ≤ b := by
    by_contra hlt
    exact Nat.not_lt_of_le h.start_le_stop (offset_lt_offset (Nat.lt_of_not_le hlt) ha)
  exact ⟨⟨a, b, hle⟩, hb, rfl, rfl, (isSlice_slice hb).eq_extract.trans h.eq_extract.symm⟩

theorem isSlice_singleton {c : Char} (h : s.chars[pos]? = some c) :
    IsSlice s.text (s.offset pos) (s.offset (pos + 1)) (String.singleton c) := by
  obtain ⟨hlt, rfl⟩ := Array.getElem?_eq_some_iff.mp h
  have hslice := isSlice_slice (r := ⟨pos, pos + 1, Nat.le_succ pos⟩) hlt
  have heq : s.slice ⟨pos, pos + 1, Nat.le_succ pos⟩ = String.singleton s.chars[pos] := by
    rw [← String.toList_inj, toList_slice, String.toList_singleton]
    dsimp only
    rw [Nat.add_sub_cancel_left, List.drop_eq_getElem_cons (by simpa using hlt),
      List.take_succ_cons, List.take_zero, Array.getElem_toList]
  rwa [heq] at hslice

theorem exists_of_isSlice_singleton {c : Char} {start stop : Nat}
    (h : IsSlice s.text start stop (String.singleton c)) :
    ∃ pos, s.chars[pos]? = some c ∧ s.offset pos = start ∧ s.offset (pos + 1) = stop := by
  obtain ⟨r, hr, rfl, rfl, hslice⟩ := exists_region h
  have hlist : (s.slice r).toList = [c] := by rw [hslice, String.toList_singleton]
  have hlength := length_toList_slice hr
  rw [hlist, List.length_singleton] at hlength
  have hget := getElem?_toList_slice (s := s) (r := r) (i := 0) (by omega)
  rw [hlist, Nat.add_zero] at hget
  exact ⟨r.start, hget.symm, rfl, by rw [show r.start + 1 = r.stop by omega]⟩

end Source

namespace IsSlice

variable {text part part' : String} {start mid stop : Nat}

theorem empty (h : String.Pos.Raw.IsValid text ⟨start⟩) : IsSlice text start start "" := by
  rw [← Source.text_ofString text] at h ⊢
  obtain ⟨pos, hpos, rfl⟩ := Source.exists_position h
  have hslice := Source.isSlice_slice (s := .ofString text) (r := ⟨pos, pos, Nat.le_refl _⟩) hpos
  rwa [Source.slice_of_isEmpty (Region.isEmpty_iff.mpr rfl)] at hslice

/-- Two parts that follow each other make one. -/
theorem append (h : IsSlice text start mid part) (h' : IsSlice text mid stop part') :
    IsSlice text start stop (part ++ part') := by
  rw [← Source.text_ofString text] at h h' ⊢
  obtain ⟨⟨a, b, hab⟩, hb, rfl, rfl, rfl⟩ := Source.exists_region h
  obtain ⟨⟨b', c, hbc⟩, hc, hmid, rfl, rfl⟩ := Source.exists_region h'
  obtain rfl : b' = b := Source.offset_inj (Nat.le_trans hbc hc) hb hmid
  rw [Source.slice_append_slice]
  exact Source.isSlice_slice (r := ⟨a, c, _⟩) hc

/-- The whole text is a part of itself. -/
theorem whole (text : String) : IsSlice text 0 text.utf8ByteSize text := by
  have hwhole : (Source.ofString text).slice (Source.ofString text).whole = text := by
    conv_rhs => rw [← Source.text_ofString text]
    rw [← String.toList_inj, Source.toList_slice, Source.text, String.toList_ofList]
    exact List.take_of_length_le (Nat.le_of_eq Array.length_toList)
  have hslice : IsSlice (Source.ofString text).text ((Source.ofString text).offset 0)
      (Source.ofString text).byteSize ((Source.ofString text).slice (Source.ofString text).whole) :=
    Source.isSlice_slice (r := (Source.ofString text).whole) (Nat.le_refl _)
  rwa [hwhole, Source.offset_zero, Source.byteSize_eq, Source.text_ofString] at hslice

/-- What runs from the beginning of a text to its end is the text. -/
theorem eq_text (h : IsSlice text 0 text.utf8ByteSize part) : part = text :=
  h.eq_extract.trans (whole text).eq_extract.symm

end IsSlice

end Highlighter
