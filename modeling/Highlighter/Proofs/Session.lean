import Highlighter.Session

/-!
# What the steps of a run print

Where files do not change, steps of a run have one result, and a run is told by the results of its
steps, one after the other (`Session.result`). Steps that fail may have printed something before.
Two kinds of steps have not: those that only load (`Session.quietly`), and those that never fail
(`Session.Succeeds`). A run that first loads and then prints without failing prints nothing if it
fails (`Session.FailsQuietly`).
-/

namespace Highlighter

namespace Session

variable {α β : Type} {x : Session Id α} {f : α → Session Id β} {output output' : Array Piece}

/-- What steps give back or fail with, and what is printed after them. -/
def result (x : Session Id α) (output : Array Piece) : Except Error α × Array Piece :=
  x.run.run output

theorem result_bind (x : Session Id α) (f : α → Session Id β) (output : Array Piece) :
    (x >>= f).result output = match x.result output with
      | (.ok a, output') => (f a).result output'
      | (.error e, output') => (.error e, output') := by
  change (ExceptT.bindCont f (x.result output).1) (x.result output).2 = _
  rcases x.result output with ⟨_ | _, _⟩ <;> rfl

theorem result_quietly (x : ExceptT Error Id α) (output : Array Piece) :
    (quietly x).result output = (x.run, output) := rfl

/-- To give back what is known, or fail with it, prints nothing. -/
theorem liftM_eq_quietly (x : Except Error α) :
    (liftM x : Session Id α) = quietly (ExceptT.mk (pure x)) := by
  cases x <;> rfl

theorem result_printAll (ps : List Piece) (output : Array Piece) :
    (printAll ps).result output = (.ok (), output ++ ps) := by
  induction ps generalizing output with
  | nil => rw [Array.appendList_nil]; rfl
  | cons p ps ih => rw [Array.appendList_cons, ← ih]; rfl

theorem result_quietly_bind {x : ExceptT Error Id α} {a : α} (h : x.run = .ok a)
    (output : Array Piece) : (quietly x >>= f).result output = (f a).result output := by
  rw [result_bind, result_quietly, h]

theorem result_ok_bind (a : α) (output : Array Piece) :
    ((liftM (Except.ok a : Except Error α) : Session Id α) >>= f).result output =
      (f a).result output := by
  rw [liftM_eq_quietly]
  exact result_quietly_bind rfl output

theorem result_error_bind (e : Error) (output : Array Piece) :
    ((liftM (Except.error e : Except Error α) : Session Id α) >>= f).result output =
      (.error e, output) := by
  rw [liftM_eq_quietly, result_bind, result_quietly]
  rfl

/-- The outcome of steps is told by their result, from nothing printed on. -/
theorem outcome_eq {x : Session Id Unit} {result : Except Error Unit}
    {output : Array Piece} (h : x.result #[] = (result, output)) :
    x.outcome = (⟨output.toList, error? result⟩ : Outcome) := by
  have hrun : x.run.run #[] = pure (result, output) := h
  rw [outcome, hrun, pure_bind]
  rfl

/-! ## Steps that succeed -/

/-- Whether steps never fail. -/
def Succeeds (x : Session Id α) : Prop := ∀ output, ∃ a output', x.result output = (.ok a, output')

theorem succeeds_printAll (ps : List Piece) : (printAll ps).Succeeds :=
  fun output ↦ ⟨(), output ++ ps, result_printAll ps output⟩

theorem succeeds_print (p : Piece) : (print p).Succeeds := fun output ↦ ⟨(), output.push p, rfl⟩

theorem Succeeds.bind (hx : x.Succeeds) (hf : ∀ a, (f a).Succeeds) : (x >>= f).Succeeds := by
  intro output
  obtain ⟨a, output', h⟩ := hx output
  obtain ⟨b, output'', h'⟩ := hf a output'
  exact ⟨b, output'', by rw [result_bind, h]; exact h'⟩

theorem Succeeds.forM {γ : Type} {f : γ → Session Id Unit} {cs : List γ}
    (h : ∀ c ∈ cs, (f c).Succeeds) : (cs.forM f).Succeeds := by
  induction cs with
  | nil => exact fun output ↦ ⟨(), output, rfl⟩
  | cons c cs ih =>
    refine (h c List.mem_cons_self).bind fun _ ↦ ih fun c' hc' ↦ ?_
    exact h c' (List.mem_cons_of_mem c hc')

/-! ## Steps that fail -/

/-- Whether steps that fail leave what is printed as it was. -/
def FailsQuietly (x : Session Id α) : Prop :=
  ∀ output e output', x.result output = (.error e, output') → output' = output

theorem Succeeds.failsQuietly (h : x.Succeeds) : x.FailsQuietly := by
  intro output e output' hresult
  obtain ⟨a, output'', h⟩ := h output
  rw [h] at hresult
  cases hresult

theorem failsQuietly_throw (e : Error) : (throw e : Session Id α).FailsQuietly := by
  intro output e' output' h
  exact (Prod.mk.inj h).2.symm

/-- Where steps that print nothing come first, a failure is theirs or one of the steps after. -/
theorem eq_or_of_quietly_bind {x : ExceptT Error Id α} {e : Error}
    (h : (quietly x >>= f).result output = (.error e, output')) :
    output' = output ∨ ∃ a, x.run = .ok a ∧ (f a).result output = (.error e, output') := by
  rw [result_bind, result_quietly] at h
  cases hx : x.run with
  | ok a =>
    rw [hx] at h
    exact .inr ⟨a, rfl, h⟩
  | error e' =>
    rw [hx] at h
    exact .inl (Prod.mk.inj h).2.symm

theorem FailsQuietly.quietly_bind {x : ExceptT Error Id α} (h : ∀ a, (f a).FailsQuietly) :
    (quietly x >>= f).FailsQuietly := by
  intro output e output' hresult
  rcases eq_or_of_quietly_bind hresult with heq | ⟨a, -, hresult⟩
  · exact heq
  · exact h a output e output' hresult

theorem FailsQuietly.liftM_bind {x : Except Error α} (h : ∀ a, (f a).FailsQuietly) :
    ((liftM x : Session Id α) >>= f).FailsQuietly := by
  rw [liftM_eq_quietly]
  exact .quietly_bind h

end Session

end Highlighter
