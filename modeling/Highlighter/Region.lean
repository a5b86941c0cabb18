/-!
# Regions of a text

Positions count characters, not bytes: a region can then never begin or end inside a character,
and a text of `c` characters has exactly `(c + 1) * (c + 2) / 2` regions. Byte offsets appear only
where tokens leave the library.
-/

namespace Highlighter

/-- The characters from `start` up to and not including `stop`. -/
structure Region where
  /-- The position of the first character. -/
  start : Nat
  /-- The position after the last character. -/
  stop : Nat
  start_le_stop : start ≤ stop
deriving DecidableEq

namespace Region

/-- Whether the region holds no character. -/
def isEmpty (r : Region) : Bool := r.start == r.stop

theorem isEmpty_iff {r : Region} : r.isEmpty = true ↔ r.start = r.stop := by
  simp [isEmpty]

theorem start_lt_stop_of_isEmpty_eq_false {r : Region} (h : r.isEmpty = false) :
    r.start < r.stop := by
  have := r.start_le_stop
  simp [isEmpty] at h
  omega

theorem isEmpty_eq_false {r : Region} (h : r.start < r.stop) : r.isEmpty = false := by
  simp [isEmpty, Nat.ne_of_lt h]

theorem eq_of_ends {r s : Region} (hstart : r.start = s.start) (hstop : r.stop = s.stop) :
    r = s := by
  obtain ⟨start, stop, _⟩ := r
  obtain rfl : start = s.start := hstart
  obtain rfl : stop = s.stop := hstop
  rfl

/-- The region that begins and ends within another one. -/
def Within (r s : Region) : Prop := s.start ≤ r.start ∧ r.stop ≤ s.stop

theorem Within.refl (r : Region) : r.Within r := ⟨Nat.le_refl _, Nat.le_refl _⟩

theorem Within.trans {r s t : Region} (h : r.Within s) (h' : s.Within t) : r.Within t :=
  ⟨Nat.le_trans h'.1 h.1, Nat.le_trans h.2 h'.2⟩

end Region

end Highlighter
