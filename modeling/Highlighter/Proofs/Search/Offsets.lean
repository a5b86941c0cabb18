import Highlighter.Proofs.Text.Offsets
import Highlighter.Search.Scan

/-!
# Scanning by byte offsets

A scan goes from position to position. Seen from outside it goes from byte offset to byte offset: it
goes on where the last find ended, and one character further where that was empty. `Source.ScansAt`
is this loop over offsets. It searches only at offsets of positions, so never behind the end of the
text and never inside a character (`Source.ScansAt.exists_position`). The invariant is that the loop
is at the offset of a position or behind the text, and in the second case it does not go on.
-/

namespace Highlighter

namespace Source

variable {s : Source} {found : Nat → Option Region} {start offset stop : Nat}

/-! ## The beginning of a text -/

/-- The text up to a position, which is all that a search in a region sees. -/
def upTo (s : Source) (stop : Nat) : Source := ofChars (s.chars.extract 0 stop)

theorem size_upTo (h : stop ≤ s.size) : (s.upTo stop).size = stop := by
  rw [size] at h
  simp [upTo, ofChars, size, h]

/-- The offset of a position does not depend on what comes after the position. -/
theorem offset_upTo {pos : Nat} (hpos : pos ≤ stop) (h : stop ≤ s.size) :
    (s.upTo stop).offset pos = s.offset pos := by
  rw [offset_eq (Nat.le_trans hpos (Nat.le_of_eq (size_upTo h).symm)),
    offset_eq (Nat.le_trans hpos h)]
  simp [upTo, ofChars, List.extract_eq_take_drop, List.take_take, Nat.min_eq_left hpos]

/-! ## The loop -/

/-- Where a scan goes on after it has found something in a region. -/
def offsetBehind (s : Source) (r : Region) : Nat :=
  if r.isEmpty then s.offsetAfter (s.offset r.stop) else s.offset r.stop

/-- The offsets at which a scan searches that begins at some offset. What there is to be found from
a position on is given by `found`. -/
inductive ScansAt (s : Source) (found : Nat → Option Region) : Nat → Nat → Prop
  /-- The scan searches where it begins, unless that is behind the text. -/
  | here {offset : Nat} (h : offset ≤ s.byteSize) : ScansAt s found offset offset
  /-- The scan goes on behind what it has found. -/
  | next {start offset pos : Nat} {r : Region} (h : start ≤ s.byteSize)
      (hpos : s.position? start = some pos) (hr : found pos = some r)
      (hnext : ScansAt s found (s.offsetBehind r) offset) : ScansAt s found start offset

theorem ScansAt.start_le (h : s.ScansAt found start offset) : start ≤ s.byteSize := by
  cases h with
  | here h => exact h
  | next h => exact h

/-- Behind a region there is a position, or the end of the text has been passed. -/
theorem exists_offsetBehind_eq {r : Region} (h : r.stop ≤ s.size) :
    (∃ pos, r.stop ≤ pos ∧ pos ≤ s.size ∧ s.offsetBehind r = s.offset pos) ∨
      s.byteSize < s.offsetBehind r := by
  unfold offsetBehind
  split
  · rcases Nat.lt_or_eq_of_le h with hlt | heq
    · exact .inl ⟨r.stop + 1, Nat.le_succ _, hlt, offsetAfter_offset hlt⟩
    · refine .inr ?_
      rw [heq, ← byteSize, offsetAfter_byteSize]
      exact Nat.lt_succ_self _
  · exact .inl ⟨r.stop, Nat.le_refl _, h, rfl⟩

/-- **A scan searches at positions only**, and never before the position where it begins. -/
theorem ScansAt.exists_position
    (hfound : ∀ pos r, found pos = some r → pos ≤ r.stop ∧ r.stop ≤ s.size) {pos : Nat}
    (hpos : pos ≤ s.size) (h : s.ScansAt found start offset) (hstart : start = s.offset pos) :
    ∃ pos', pos ≤ pos' ∧ pos' ≤ s.size ∧ offset = s.offset pos' := by
  induction h generalizing pos with
  | here => exact ⟨pos, Nat.le_refl _, hpos, hstart⟩
  | next _ hposition hr hnext ih =>
    rw [hstart, position?_offset hpos] at hposition
    obtain rfl := Option.some.inj hposition
    obtain ⟨hle, hstop⟩ := hfound _ _ hr
    rcases exists_offsetBehind_eq hstop with ⟨pos', hle', hpos', hoffset⟩ | hbehind
    · obtain ⟨pos'', hle'', hpos'', heq⟩ := ih hpos' hoffset
      exact ⟨pos'', by omega, hpos'', heq⟩
    · exact absurd hnext.start_le (Nat.not_le_of_lt hbehind)

end Source

end Highlighter
