import Highlighter.Grammar.Document
import Mathlib.Data.List.Nodup

/-!
# The fields of a pattern

A document gives a pattern by its fields, in any order and not always all of them. So a pattern is
looked at here as a function from fields to what is assigned to them (`Pattern.get`): it is told by
its fields, and assigning to one leaves the others as they are. From this follows which fields make
up a pattern (`AssignedField.pattern?_eq_some_iff`): those that it has, each at most once, and all
but those that it has by default.

A pattern is flat if neither it nor any pattern below it assigns anything to a capture group. This
too is told from the fields.
-/

namespace Highlighter

open AssignedField (field apply pattern?)

/-! ## Fields of a pattern -/

namespace Pattern

/-- What a pattern assigns to a field. -/
def get (p : Pattern) : PatternField → AssignedField
  | .name => .name p.name
  | .contentName => .contentName p.contentName
  | .regex => .regex p.regex
  | .beginRegex => .beginRegex p.beginRegex
  | .endRegex => .endRegex p.endRegex
  | .target => .target p.target
  | .patterns => .patterns p.patterns
  | .captures => .captures p.captures
  | .beginCaptures => .beginCaptures p.beginCaptures
  | .endCaptures => .endCaptures p.endCaptures
  | .disabled => .disabled p.disabledNumber
  | .comment => .comment p.comment

variable {p q : Pattern} {f : PatternField} {a : AssignedField}

@[simp] theorem field_get (p : Pattern) (f : PatternField) : (p.get f).field = f := by
  cases f <;> rfl

theorem eq_of_get_eq (h : ∀ f, p.get f = q.get f) : p = q := by
  obtain ⟨⟨_, _, _, _, _, _, _, _⟩, _, _, _, _⟩ := p
  obtain ⟨⟨_, _, _, _, _, _, _, _⟩, _, _, _, _⟩ := q
  cases h .name
  cases h .contentName
  cases h .regex
  cases h .beginRegex
  cases h .endRegex
  cases h .target
  cases h .patterns
  cases h .captures
  cases h .beginCaptures
  cases h .endCaptures
  cases h .disabled
  cases h .comment
  rfl

theorem get_apply_self (p : Pattern) (a : AssignedField) : (apply p a).get a.field = a := by
  cases a <;> rfl

theorem get_apply_of_ne (h : f ≠ a.field) : (apply p a).get f = p.get f := by
  cases a <;> cases f <;> first | rfl | exact absurd rfl h

/-- Assigning some fields of a pattern to one that has the others makes that pattern. -/
theorem foldl_apply_get {fs : List PatternField} (h : ∀ f ∉ fs, q.get f = p.get f) :
    (fs.map p.get).foldl apply q = p := by
  induction fs generalizing q with
  | nil => exact eq_of_get_eq fun f ↦ h f List.not_mem_nil
  | cons f₀ fs ih =>
    refine ih fun f hf ↦ ?_
    rcases eq_or_ne f f₀ with rfl | hne
    · simpa using get_apply_self q (p.get f)
    · rw [get_apply_of_ne (by simpa using hne), h f (by simp [hne, hf])]

theorem get_foldl_apply_of_notMem {as : List AssignedField} (h : f ∉ as.map field) :
    (as.foldl apply p).get f = p.get f := by
  induction as generalizing p with
  | nil => rfl
  | cons a as ih =>
    rw [List.map_cons, List.mem_cons, not_or] at h
    rw [List.foldl_cons, ih h.2, get_apply_of_ne h.1]

theorem get_foldl_apply_of_mem {as : List AssignedField} (hnodup : (as.map field).Nodup)
    (ha : a ∈ as) : (as.foldl apply p).get a.field = a := by
  induction as generalizing p with
  | nil => simp at ha
  | cons a' as ih =>
    rw [List.map_cons, List.nodup_cons] at hnodup
    rcases List.mem_cons.1 ha with rfl | ha
    · rw [List.foldl_cons, get_foldl_apply_of_notMem hnodup.1, get_apply_self]
    · exact ih hnodup.2 ha

end Pattern

/-- The fields that make up a pattern. -/
theorem AssignedField.pattern?_eq_some_iff {as : List AssignedField} {p : Pattern} :
    pattern? as = some p ↔
      ∃ fs : List PatternField, fs.Nodup ∧ (∀ f ∉ fs, p.get f = Pattern.get {} f) ∧
        as = fs.map p.get := by
  constructor
  · intro h
    obtain ⟨hnodup, rfl⟩ : (as.map field).Nodup ∧ as.foldl apply {} = p := by
      simpa [pattern?] using h
    refine ⟨as.map field, hnodup, fun f ↦ Pattern.get_foldl_apply_of_notMem, ?_⟩
    rw [List.map_map]
    refine (List.map_id as).symm.trans (List.map_congr_left fun a ha ↦ ?_)
    exact (Pattern.get_foldl_apply_of_mem hnodup ha).symm
  · rintro ⟨fs, hnodup, hdefault, rfl⟩
    have hfields : (fs.map p.get).map field = fs := by
      rw [List.map_map]
      exact (List.map_congr_left fun f _ ↦ p.field_get f).trans (List.map_id fs)
    rw [pattern?, hfields, if_pos hnodup, Pattern.foldl_apply_get fun f hf ↦ (hdefault f hf).symm]

/-! ## Flat patterns -/

/-- Neither the pattern nor any pattern below it assigns anything to a capture group. -/
inductive Pattern.IsFlat : Pattern → Prop
  | mk {p : Pattern} (hcaptures : p.captures = []) (hbegin : p.beginCaptures = [])
      (hend : p.endCaptures = []) (hpatterns : ∀ q ∈ p.patterns, q.IsFlat) : IsFlat p

/-- What is assigned does not keep a pattern from being flat. -/
def AssignedField.IsFlat : AssignedField → Prop
  | patterns ps => ∀ p ∈ ps, p.IsFlat
  | captures l | beginCaptures l | endCaptures l => l = []
  | _ => True

theorem Pattern.isFlat_iff {p : Pattern} : p.IsFlat ↔ ∀ f, (p.get f).IsFlat := by
  constructor
  · rintro ⟨hcaptures, hbegin, hend, hpatterns⟩ f
    cases f <;> trivial
  · intro h
    exact ⟨h .captures, h .beginCaptures, h .endCaptures, h .patterns⟩

theorem Pattern.isFlat_default : IsFlat {} := ⟨rfl, rfl, rfl, by simp⟩

/-- A pattern is flat if the fields that make it up are. -/
theorem AssignedField.isFlat_iff_of_pattern?_eq_some {as : List AssignedField} {p : Pattern}
    (h : pattern? as = some p) : p.IsFlat ↔ ∀ a ∈ as, a.IsFlat := by
  obtain ⟨fs, -, hdefault, rfl⟩ := pattern?_eq_some_iff.1 h
  rw [Pattern.isFlat_iff, List.forall_mem_map]
  refine ⟨fun h f _ ↦ h f, fun h f ↦ ?_⟩
  by_cases hf : f ∈ fs
  · exact h f hf
  · rw [hdefault f hf]
    exact Pattern.isFlat_iff.1 Pattern.isFlat_default f

end Highlighter
