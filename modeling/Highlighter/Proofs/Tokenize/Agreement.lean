import Highlighter.Proofs.Tokenize.Calls
import Highlighter.Proofs.Tokenize.Simplification
import Mathlib.Data.List.Forall2

/-!
# Tokenizers that agree

Two tokenizers mark the same if the second one does the same as the first one wherever the first one
comes. It need not be the same elsewhere, and it need not even be the same there: a step that
applies a disabled pattern has no effect and does not count. `Tokenizer.Agrees` says so, call by
call, and what whole runs have in common follows by induction on the calls of the first tokenizer
(`Tokenizer.Agrees.marks_eq`).

The induction itself does not need the calls to be the same. It is enough that they are related in
some way that the calls they make have in common with them (`Tokenizer.Simulates`).
-/

namespace Highlighter

/-! ## Steps without effect -/

/-- Whether a step may have an effect. To apply a disabled pattern has none. -/
def Step.isEffective : Step → Bool
  | apply p _ => !p.isDisabled
  | mark _ | follow _ _ | fail _ => true

namespace Tokenizer

variable {k k' : Tokenizer} {c : Call} {p : Pattern} {r : Region} {s : Step}

theorem steps_of_isDisabled (hp : p.isDisabled = true) : k.steps p r = [] := by
  rw [steps, if_pos hp]

theorem results_of_isEffective_eq_false (hs : s.isEffective = false) (following : List Frame) :
    k.results following s = [] := by
  cases s with
  | apply p r =>
    have hp : p.isDisabled = true := by simpa [Step.isEffective] using hs
    rw [results_apply, run_eq, steps_of_isDisabled hp, List.flatMap_nil]
  | mark m | follow target r | fail e => cases hs

/-- The steps of a pattern that may have an effect. -/
def effectiveSteps (k : Tokenizer) (p : Pattern) (r : Region) : List Step :=
  (k.steps p r).filter Step.isEffective

theorem run_eq_flatMap_effectiveSteps (c : Call) :
    k.run c = (k.effectiveSteps c.pattern c.region).flatMap (k.results c.following) := by
  rw [run_eq, effectiveSteps]
  change (k.steps c.pattern c.region).flatMap (k.results c.following) = _
  induction k.steps c.pattern c.region with
  | nil => rfl
  | cons s l ih =>
    rw [List.flatMap_cons, ih]
    by_cases hs : s.isEffective
    · rw [List.filter_cons_of_pos hs, List.flatMap_cons]
    · rw [List.filter_cons_of_neg hs,
        results_of_isEffective_eq_false (Bool.eq_false_iff.mpr hs), List.nil_append]

/-! ## Related calls -/

/-- Another tokenizer does in some calls the same as the first one in calls that are related to
them, apart from steps without effect, and the calls that they make are related again. -/
structure Simulates (k k' : Tokenizer) (related : Call → Call → Prop) : Prop where
  steps_eq {c c' : Call} (hc : related c c') :
    k'.effectiveSteps c'.pattern c'.region = k.effectiveSteps c.pattern c.region
  callsOf {c c' : Call} (hc : related c c') (s : Step) (hs : k.Takes c.pattern c.region s) :
    List.Forall₂ related (k.callsOf c.following s) (k'.callsOf c'.following s)

/-- **Related calls result in the same.** The induction is on chains of calls of the first
tokenizer, so it is never asked what the second one does where the first does not come. -/
theorem Simulates.run_eq {related : Call → Call → Prop} (h : k.Simulates k' related) {c' : Call}
    (hc : related c c') : k'.run c' = k.run c := by
  induction k.acc_calls c generalizing c' with
  | intro c _ ih =>
    rw [run_eq_flatMap_effectiveSteps, run_eq_flatMap_effectiveSteps, h.steps_eq hc]
    refine List.flatMap_congr fun s hs ↦ ?_
    have hs : s ∈ k.steps c.pattern c.region := (List.mem_filter.mp hs).1
    have hmem : ∀ d ∈ k.callsOf c.following s, d ∈ k.calls c := fun d hd ↦
      List.mem_flatMap.mpr ⟨s, hs, hd⟩
    have hruns : (k.callsOf c.following s).map k.run = (k'.callsOf c'.following s).map k'.run := by
      rw [← List.forall₂_eq_eq_eq, List.forall₂_map_left_iff, List.forall₂_map_right_iff]
      have hcalls := h.callsOf hc s (mem_steps_iff.mp hs)
      exact ((List.forall₂_and_left _ _).mpr ⟨hmem, hcalls⟩).imp fun d d' hd ↦
        (ih d hd.1 hd.2).symm
    rw [results, results, List.flatMap_def, List.flatMap_def, hruns]

/-! ## Runs that agree -/

/-- Another tokenizer does the same, apart from steps without effect, wherever the first one
comes. -/
structure Agrees (k k' : Tokenizer) : Prop where
  topCalls_eq : k'.topCalls = k.topCalls
  steps_eq (c : Call) (hc : k.Reached c) :
    k'.effectiveSteps c.pattern c.region = k.effectiveSteps c.pattern c.region
  callsOf_eq (c : Call) (hc : k.Reached c) (s : Step) (hs : k.Takes c.pattern c.region s) :
    k'.callsOf c.following s = k.callsOf c.following s

theorem Agrees.simulates (h : k.Agrees k') :
    k.Simulates k' fun c c' ↦ c' = c ∧ k.Reached c where
  steps_eq := by
    rintro c _ ⟨rfl, hc⟩
    exact h.steps_eq _ hc
  callsOf := by
    rintro c _ ⟨rfl, hc⟩ s hs
    rw [h.callsOf_eq _ hc s hs]
    refine List.forall₂_same.mpr fun d hd ↦ ⟨rfl, hc.call ?_⟩
    exact List.mem_flatMap.mpr ⟨s, mem_steps_iff.mpr hs, hd⟩

/-- **A call results in the same** for a tokenizer that agrees. -/
theorem Agrees.run_eq (h : k.Agrees k') (hc : k.Reached c) : k'.run c = k.run c :=
  h.simulates.run_eq ⟨rfl, hc⟩

theorem Agrees.marks_eq (h : k.Agrees k') : k'.marks = k.marks := by
  rw [marks, marks, h.topCalls_eq]
  congr 1
  exact List.flatMap_congr fun c hc ↦ h.run_eq (.top hc)

end Tokenizer

end Highlighter
