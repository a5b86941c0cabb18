import Highlighter.Proofs.Regex.Memory

/-!
# Programs do what their expressions mean

A thread at the address of what was emitted for an expression leads, step by step, to threads at the
continuation: those that are the ways of the expression, in their order (`Expr.realizes_emit`). The
statement is about any program that has the instructions where they were emitted, whatever it has
elsewhere. So it can be put together from the parts of an expression, each of which is emitted for
the continuation that the next part leaves.

A loop is where the instructions are not written in one go. The decision that each iteration comes
back to is filled in after the body, and the induction is on how often the loop may still go on.
-/

namespace Highlighter.Regex

variable {p : Program} {text : Array Char} {start : Nat}

/-! ## What threads lead to -/

namespace Program

/-- Whether a search through some threads amounts to one through others, whatever comes after
them. -/
def Yields (p : Program) (text : Array Char) (ts ws : List (Thread text.size start)) : Prop :=
  ∀ rest r, (∃ n, p.Search text n (ws ++ rest) r) → ∃ n, p.Search text n (ts ++ rest) r

namespace Yields

variable {ts ts' ws ws' us : List (Thread text.size start)}

theorem refl (ts : List (Thread text.size start)) : p.Yields text ts ts :=
  fun _ _ h ↦ h

theorem trans (h : p.Yields text ts ws) (h' : p.Yields text ws us) : p.Yields text ts us :=
  fun rest r hr ↦ h rest r (h' rest r hr)

theorem append (h : p.Yields text ts ws) (h' : p.Yields text ts' ws') :
    p.Yields text (ts ++ ts') (ws ++ ws') := by
  intro rest r ⟨n, hs⟩
  rw [List.append_assoc] at hs
  rw [List.append_assoc]
  refine h (ts' ++ rest) r ?_
  rcases hs.split with ⟨w, m, -, hfront, rfl⟩ | ⟨m, m', -, hfront, hrest⟩
  · exact ⟨m, hfront.append_some _⟩
  · obtain ⟨n', hs'⟩ := h' rest r ⟨m', hrest⟩
    exact ⟨m + n', hfront.append_none hs'⟩

theorem flatMap {α : Type} {l : List α} {f : α → Thread text.size start}
    {g : α → List (Thread text.size start)} (h : ∀ a ∈ l, p.Yields text [f a] (g a)) :
    p.Yields text (l.map f) (l.flatMap g) := by
  induction l with
  | nil => exact .refl []
  | cons a l ih =>
    rw [List.map_cons, List.flatMap_cons, ← List.singleton_append]
    exact (h a List.mem_cons_self).append (ih fun b hb ↦ h b (List.mem_cons_of_mem a hb))

end Yields

theorem yields_moves {t : Thread text.size start} (h : p.accepts t = false) :
    p.Yields text [t] (p.moves text t) :=
  fun _ _ ⟨n, hs⟩ ↦ ⟨n + 1, .move h hs⟩

/-- Whether a program has the instructions of a list from an address on. -/
def Holds (p : Program) (code : Array Inst) (address : Nat) : Prop :=
  ∀ i, address ≤ i → i < code.size → p.insts[i]? = code[i]?

end Program

/-! ## Threads at other instructions -/

theorem Thread.map_goto_take (t : Thread text.size start) (set : CharSet) (pc next : Nat) :
    ((t.goto pc).take text set).map (·.goto next) = (t.take text set).map (·.goto next) := by
  unfold Thread.take Thread.goto
  dsimp only
  split
  · split <;> rfl
  · rfl

theorem Thread.goto_closeGroup (t : Thread text.size start) (index pc pc' next : Nat) :
    (t.closeGroup index pc).goto next = (t.goto pc').closeGroup index next := by
  obtain ⟨_, pos, opened, recorded, _, _, _, _⟩ := t
  cases opened <;> rfl

/-! ## What an emitter realizes -/

/-- Whether a program leads from what is emitted to the continuation in some ways, provided that it
has the instructions that are emitted. -/
structure Emitter.Realizes (p : Program) (text : Array Char) (f : Emitter)
    (ways : Ways text start) : Prop where
  /-- The instructions so far are kept. -/
  size_le : ∀ code next, code.size ≤ (f (code, next)).1.size
  getElem?_eq : ∀ code next i, i < code.size → (f (code, next)).1[i]? = code[i]?
  /-- A thread at what was emitted leads to its ways, at the continuation. -/
  yields : ∀ code next, p.Holds (f (code, next)).1 code.size → ∀ t,
    p.Yields text [t.goto (f (code, next)).2] ((ways t).map (·.goto next))

namespace Emitter

variable {f g : Emitter} {a b : Ways text start}

theorem realizes_id : Realizes p text id fun t : Thread text.size start ↦ [t] where
  size_le _ _ := Nat.le_refl _
  getElem?_eq _ _ _ _ := rfl
  yields _ _ _ _ := .refl _

theorem Realizes.comp (hf : f.Realizes p text a) (hg : g.Realizes p text b) :
    Realizes p text (f ∘ g) fun t ↦ (a t).flatMap b where
  size_le code next := Nat.le_trans (hg.size_le code next) (hf.size_le _ _)
  getElem?_eq code next i hi := by
    rw [Function.comp_apply, hf.getElem?_eq _ _ i (Nat.lt_of_lt_of_le hi (hg.size_le code next)),
      hg.getElem?_eq code next i hi]
  yields := by
    intro code next hp t
    have hpf : p.Holds (f (g (code, next))).1 (g (code, next)).1.size :=
      fun i hle hlt ↦ hp i (Nat.le_trans (hg.size_le code next) hle) hlt
    have hpg : p.Holds (g (code, next)).1 code.size := fun i hle hlt ↦ by
      rw [hp i hle (Nat.lt_of_lt_of_le hlt (hf.size_le _ _)), Function.comp_apply,
        hf.getElem?_eq _ _ i hlt]
    refine (hf.yields _ _ hpf t).trans ?_
    rw [List.map_flatMap]
    exact .flatMap fun w _ ↦ hg.yields code next hpg w

/-- One instruction leads to what a thread moves to by it. -/
theorem realizes_inst {i : Nat → Inst}
    (h : ∀ next pc, p.insts[pc]? = some (i next) → ∀ t : Thread text.size start,
      p.accepts (t.goto pc) = false ∧ p.moves text (t.goto pc) = (a t).map (·.goto next)) :
    Realizes p text (.inst i) a where
  size_le code next := by
    show code.size ≤ (code.push (i next)).size
    rw [Array.size_push]
    exact Nat.le_succ _
  getElem?_eq code next j hj := by
    show (code.push (i next))[j]? = code[j]?
    rw [Array.getElem?_push, if_neg (Nat.ne_of_lt hj)]
  yields := by
    intro code next hp t
    have hi : p.insts[code.size]? = some (i next) := by
      rw [hp code.size (Nat.le_refl _)]
      · exact Array.getElem?_push_size
      · exact Nat.lt_of_lt_of_eq (Nat.lt_succ_self _) (Array.size_push _).symm
    obtain ⟨haccepts, hmoves⟩ := h next code.size hi t
    rw [← hmoves]
    exact Program.yields_moves haccepts

theorem realizes_chars (set : CharSet) :
    Realizes p text (.inst (.chars set)) fun t : Thread text.size start ↦ t.take text set := by
  refine realizes_inst fun next pc hi t ↦ ?_
  have hinst : p.insts[(t.goto pc).pc]? = some (.chars set next) := hi
  refine ⟨by rw [Program.accepts, hinst], ?_⟩
  rw [Program.moves, hinst]
  exact t.map_goto_take set pc next

theorem realizes_takeAll (cs : List Char) :
    Realizes p text (fun at_ ↦ cs.foldr (fun c at_ ↦ Emitter.inst (.chars (.single c)) at_) at_)
      fun t : Thread text.size start ↦ t.takeAll text cs := by
  induction cs with
  | nil => exact realizes_id
  | cons c cs ih => exact (realizes_chars (.single c)).comp ih

theorem realizes_look (l : Look) : Realizes p text (.inst (.look l))
    fun t : Thread text.size start ↦ if l.holdsAt text t.pos then [t] else [] := by
  refine realizes_inst fun next pc hi t ↦ ?_
  have hinst : p.insts[(t.goto pc).pc]? = some (.look l next) := hi
  refine ⟨by rw [Program.accepts, hinst], ?_⟩
  rw [Program.moves, hinst]
  show (if l.holdsAt text t.pos then _ else _) = _
  split <;> rfl

theorem realizes_openGroup : Realizes p text (.inst .openGroup)
    fun t : Thread text.size start ↦ [t.openGroup t.pc] := by
  refine realizes_inst fun next pc hi t ↦ ?_
  have hinst : p.insts[(t.goto pc).pc]? = some (.openGroup next) := hi
  refine ⟨by rw [Program.accepts, hinst], ?_⟩
  rw [Program.moves, hinst]
  rfl

theorem realizes_closeGroup (index : Nat) : Realizes p text (.inst (.closeGroup index))
    fun t : Thread text.size start ↦ [t.closeGroup index t.pc] := by
  refine realizes_inst fun next pc hi t ↦ ?_
  have hinst : p.insts[(t.goto pc).pc]? = some (.closeGroup index next) := hi
  refine ⟨by rw [Program.accepts, hinst], ?_⟩
  rw [Program.moves, hinst, List.map_singleton, t.goto_closeGroup]

/-! ## Choices -/

/-- A choice leads to a body and to what comes after it, in the order that the greed says. -/
theorem yields_choice {greedy : Bool} {pc body after : Nat} {t : Thread text.size start}
    {more : List (Thread text.size start)} (hi : p.insts[pc]? = some (.choice greedy body after))
    (h : p.Yields text [t.goto body] more) :
    p.Yields text [t.goto pc] (arrange greedy more (t.goto after)) := by
  cases greedy with
  | true =>
    have hinst : p.insts[(t.goto pc).pc]? = some (.split body after) := hi
    have haccepts : p.accepts (t.goto pc) = false := by rw [Program.accepts, hinst]
    refine (Program.yields_moves haccepts).trans ?_
    rw [Program.moves, hinst]
    exact h.append (.refl [t.goto after])
  | false =>
    have hinst : p.insts[(t.goto pc).pc]? = some (.split after body) := hi
    have haccepts : p.accepts (t.goto pc) = false := by rw [Program.accepts, hinst]
    refine (Program.yields_moves haccepts).trans ?_
    rw [Program.moves, hinst]
    exact Program.Yields.append (.refl [t.goto after]) h

theorem map_arrange {α β : Type} (greedy : Bool) (more : List α) (a : α) (f : α → β) :
    (arrange greedy more a).map f = arrange greedy (more.map f) (f a) := by
  cases greedy
  · rfl
  · exact List.map_append

/-- A body that may be skipped. -/
theorem Realizes.optional (hf : f.Realizes p text a) (greedy : Bool) :
    Realizes p text (fun at_ ↦ Emitter.optional greedy at_.2 f at_)
      fun t ↦ arrange greedy (a t) t where
  size_le code next := by
    show code.size ≤ ((f (code, next)).1.push _).size
    rw [Array.size_push]
    exact Nat.le_succ_of_le (hf.size_le code next)
  getElem?_eq code next i hi := by
    show ((f (code, next)).1.push _)[i]? = code[i]?
    rw [Array.getElem?_push, if_neg (Nat.ne_of_lt (Nat.lt_of_lt_of_le hi (hf.size_le code next)))]
    exact hf.getElem?_eq code next i hi
  yields := by
    intro code next hp t
    have hbody : p.Holds (f (code, next)).1 code.size := fun i hle hlt ↦ by
      rw [hp i hle]
      · show ((f (code, next)).1.push _)[i]? = _
        rw [Array.getElem?_push, if_neg (Nat.ne_of_lt hlt)]
      · exact Nat.lt_of_lt_of_eq (Nat.lt_succ_of_lt hlt) (Array.size_push _).symm
    have hchoice : p.insts[(f (code, next)).1.size]? =
        some (.choice greedy (f (code, next)).2 next) := by
      rw [hp _ (hf.size_le code next)]
      · exact Array.getElem?_push_size
      · exact Nat.lt_of_lt_of_eq (Nat.lt_succ_self _) (Array.size_push _).symm
    rw [map_arrange]
    exact yields_choice hchoice (hf.yields code next hbody t)

/-! ## Repetitions -/

theorem copies_succ (f : Emitter) (n : Nat) (at_ : Array Inst × Nat) :
    f.copies (n + 1) at_ = f (f.copies n at_) := by
  induction n generalizing at_ with
  | zero => rfl
  | succ n ih =>
    show f.copies (n + 1) (f at_) = f (f.copies n (f at_))
    exact ih (f at_)

theorem Realizes.copies (hf : f.Realizes p text a) (n : Nat) :
    Realizes p text (f.copies n) (times a n) := by
  induction n with
  | zero => exact realizes_id
  | succ n ih =>
    have heq : f.copies (n + 1) = f ∘ f.copies n := funext (copies_succ f n)
    rw [heq]
    exact hf.comp ih

theorem Realizes.upTo (hf : f.Realizes p text a) (greedy : Bool) (n : Nat) :
    Realizes p text (f.upTo greedy n) (iterate greedy a n) := by
  induction n with
  | zero => exact realizes_id
  | succ n ih =>
    have heq : f.upTo greedy (n + 1) =
        fun at_ ↦ Emitter.optional greedy at_.2 (f ∘ f.upTo greedy n) at_ := by
      funext ⟨code, next⟩
      exact copies_succ (f.optional greedy next) n (code, next)
    rw [heq]
    exact (hf.comp ih).optional greedy

/-- What is emitted for a loop is what is emitted for its body, with the decision filled in. -/
theorem code_loop (f : Emitter) (greedy : Bool) (code : Array Inst) (next : Nat) :
    (f.loop greedy code next).2.1 = (f (code.push .accept, code.size)).1.setIfInBounds code.size
      (.choice greedy (f.loop greedy code next).2.2 next) :=
  rfl

theorem Realizes.size_lt_body (hf : f.Realizes p text a) (code : Array Inst) :
    code.size < (f (code.push .accept, code.size)).1.size := by
  have hle := hf.size_le (code.push .accept) code.size
  rwa [Array.size_push] at hle

theorem Realizes.size_le_loop (hf : f.Realizes p text a) (greedy : Bool) (code : Array Inst)
    (next : Nat) : code.size ≤ (f.loop greedy code next).2.1.size := by
  rw [code_loop, Array.size_setIfInBounds]
  exact Nat.le_of_lt (hf.size_lt_body code)

theorem Realizes.getElem?_loop (hf : f.Realizes p text a) (greedy : Bool) {code : Array Inst}
    (next : Nat) {i : Nat} (hi : i < code.size) :
    (f.loop greedy code next).2.1[i]? = code[i]? := by
  have hlt : i < (code.push .accept).size := by
    rw [Array.size_push]
    exact Nat.lt_succ_of_lt hi
  rw [code_loop, Array.getElem?_setIfInBounds_ne (Nat.ne_of_gt hi), hf.getElem?_eq _ _ i hlt,
    Array.getElem?_push, if_neg (Nat.ne_of_lt hi)]

/-- The decision of a loop is where the code ended before. -/
theorem Realizes.choice_of_loop (hf : f.Realizes p text a) {greedy : Bool} {code : Array Inst}
    {next : Nat} (hp : p.Holds (f.loop greedy code next).2.1 code.size) :
    p.insts[code.size]? = some (.choice greedy (f.loop greedy code next).2.2 next) := by
  have hsize := hf.size_lt_body code
  rw [code_loop] at hp
  rw [hp code.size (Nat.le_refl _) (by rwa [Array.size_setIfInBounds]),
    Array.getElem?_setIfInBounds_self_of_lt hsize]

/-- A program that holds a loop holds its body. -/
theorem holds_of_loop {greedy : Bool} {code : Array Inst} {next : Nat}
    (hp : p.Holds (f.loop greedy code next).2.1 code.size) :
    p.Holds (f (code.push .accept, code.size)).1 (code.push .accept).size := by
  intro i hle hlt
  rw [Array.size_push] at hle
  rw [code_loop] at hp
  rw [hp i (Nat.le_of_lt hle) (by rwa [Array.size_setIfInBounds]),
    Array.getElem?_setIfInBounds_ne (Nat.ne_of_lt hle)]

/-- The decision of a loop leads to what comes of going on as often as there are characters left. -/
theorem Realizes.yields_loop (hf : f.Realizes p text a) (ha : LeadsBy a 1) (greedy : Bool)
    {code : Array Inst} {next : Nat} (hp : p.Holds (f.loop greedy code next).2.1 code.size)
    (n : Nat) (t : Thread text.size start) (hn : text.size - t.pos ≤ n) :
    p.Yields text [t.goto code.size] ((iterate greedy a n t).map (·.goto next)) := by
  have hchoice := hf.choice_of_loop hp
  have hholds := holds_of_loop hp
  induction n generalizing t with
  | zero =>
    have hnone : a t = [] := by
      refine List.eq_nil_iff_forall_not_mem.mpr fun w hw ↦ ?_
      have := ha t w hw
      have := w.pos_le_size
      omega
    have hbody := hf.yields _ _ hholds t
    rw [hnone] at hbody
    have hyields := yields_choice hchoice hbody
    cases greedy <;> exact hyields
  | succ n ih =>
    have hmore : p.Yields text [t.goto (f.loop greedy code next).2.2]
        (((a t).flatMap (iterate greedy a n)).map (·.goto next)) := by
      rw [List.map_flatMap]
      refine (hf.yields _ _ hholds t).trans (.flatMap fun w hw ↦ ih w ?_)
      have := ha t w hw
      omega
    rw [iterate, map_arrange]
    exact yields_choice hchoice hmore

theorem Realizes.star (hf : f.Realizes p text a) (ha : LeadsBy a 1) (greedy : Bool) :
    Realizes p text (f.star greedy) fun t ↦ iterate greedy a (text.size - t.pos) t where
  size_le code next := hf.size_le_loop greedy code next
  getElem?_eq _ next _ hi := hf.getElem?_loop greedy next hi
  yields _ _ hp t := hf.yields_loop ha greedy hp _ t (Nat.le_refl _)

theorem Realizes.plus (hf : f.Realizes p text a) (ha : LeadsBy a 1) (greedy : Bool) :
    Realizes p text (f.plus greedy)
      fun t ↦ (a t).flatMap fun w ↦ iterate greedy a (text.size - w.pos) w where
  size_le code next := hf.size_le_loop greedy code next
  getElem?_eq _ next _ hi := hf.getElem?_loop greedy next hi
  yields := by
    intro code next hp t
    rw [List.map_flatMap]
    exact (hf.yields _ _ (holds_of_loop hp) t).trans
      (.flatMap fun w _ ↦ hf.yields_loop ha greedy hp _ w (Nat.le_refl _))

end Emitter

/-! ## Expressions -/

/-- What is emitted for some branches: a thread at their addresses, in order, leads to their
ways. -/
structure BranchesRealize (p : Program) (text : Array Char) (start : Nat) (es : List Expr) :
    Prop where
  size_le : ∀ code next, code.size ≤ (emitBranches es next code).1.size
  getElem?_eq : ∀ code next i, i < code.size → (emitBranches es next code).1[i]? = code[i]?
  isEmpty_eq : ∀ code next, (emitBranches es next code).2.isEmpty = es.isEmpty
  yields : ∀ code next, p.Holds (emitBranches es next code).1 code.size →
    ∀ t : Thread text.size start, p.Yields text ((emitBranches es next code).2.map (t.goto ·))
      ((waysAny text es t).map (·.goto next))

theorem BranchesRealize.nil : BranchesRealize p text start [] where
  size_le _ _ := Nat.le_refl _
  getElem?_eq _ _ _ _ := rfl
  isEmpty_eq _ _ := rfl
  yields _ _ _ _ := .refl []

theorem BranchesRealize.cons {e : Expr} {es : List Expr}
    (he : Emitter.Realizes p text e.emit (e.ways text : Ways text start))
    (hes : BranchesRealize p text start es) : BranchesRealize p text start (e :: es) where
  size_le code next := Nat.le_trans (he.size_le code next) (hes.size_le _ _)
  getElem?_eq code next i hi := by
    show (emitBranches es next (e.emit (code, next)).1).1[i]? = code[i]?
    rw [hes.getElem?_eq _ _ i (Nat.lt_of_lt_of_le hi (he.size_le code next)),
      he.getElem?_eq code next i hi]
  isEmpty_eq _ _ := rfl
  yields := by
    intro code next hp t
    have hpe : p.Holds (e.emit (code, next)).1 code.size := fun i hle hlt ↦ by
      rw [hp i hle (Nat.lt_of_lt_of_le hlt (hes.size_le _ _))]
      exact hes.getElem?_eq _ _ i hlt
    have hpes : p.Holds (emitBranches es next (e.emit (code, next)).1).1
        (e.emit (code, next)).1.size :=
      fun i hle hlt ↦ hp i (Nat.le_trans (he.size_le code next) hle) hlt
    show p.Yields text ([t.goto (e.emit (code, next)).2] ++
      (emitBranches es next (e.emit (code, next)).1).2.map (t.goto ·)) _
    rw [waysAny, List.map_append]
    exact (he.yields code next hpe t).append (hes.yields _ next hpes t)

theorem size_le_emitChoices (code : Array Inst) (entries : List Nat) :
    code.size ≤ (emitChoices code entries).1.size := by
  match entries with
  | [] | [_] => exact Nat.le_refl _
  | entry :: entry' :: entries =>
    show code.size ≤ ((emitChoices code (entry' :: entries)).1.push _).size
    rw [Array.size_push]
    exact Nat.le_succ_of_le (size_le_emitChoices code (entry' :: entries))

theorem getElem?_emitChoices {code : Array Inst} {i : Nat} (hi : i < code.size)
    (entries : List Nat) : (emitChoices code entries).1[i]? = code[i]? := by
  match entries with
  | [] | [_] => rfl
  | entry :: entry' :: entries =>
    have hsize := size_le_emitChoices code (entry' :: entries)
    show ((emitChoices code (entry' :: entries)).1.push _)[i]? = code[i]?
    rw [Array.getElem?_push, if_neg (Nat.ne_of_lt (Nat.lt_of_lt_of_le hi hsize))]
    exact getElem?_emitChoices hi (entry' :: entries)

/-- What is emitted for a choice between some addresses leads to all of them, in order. -/
theorem yields_emitChoices {code : Array Inst} {entries : List Nat} (hne : entries.isEmpty = false)
    (hp : p.Holds (emitChoices code entries).1 code.size) (t : Thread text.size start) :
    p.Yields text [t.goto (emitChoices code entries).2] (entries.map (t.goto ·)) := by
  match entries with
  | [] => cases hne
  | [entry] => exact .refl [t.goto entry]
  | entry :: entry' :: entries =>
    have hsize := size_le_emitChoices code (entry' :: entries)
    let others := emitChoices code (entry' :: entries)
    have hcode : (emitChoices code (entry :: entry' :: entries)).1 =
        others.1.push (.split entry others.2) := rfl
    rw [hcode] at hp
    have hothers : p.Holds others.1 code.size := fun i hle hlt ↦ by
      rw [hp i hle (Nat.lt_of_lt_of_eq (Nat.lt_succ_of_lt hlt) (Array.size_push _).symm),
        Array.getElem?_push, if_neg (Nat.ne_of_lt hlt)]
    have hinst : p.insts[(t.goto others.1.size).pc]? = some (.split entry others.2) := by
      show p.insts[others.1.size]? = _
      rw [hp _ hsize (Nat.lt_of_lt_of_eq (Nat.lt_succ_self _) (Array.size_push _).symm)]
      exact Array.getElem?_push_size
    have haccepts : p.accepts (t.goto others.1.size) = false := by rw [Program.accepts, hinst]
    refine (Program.yields_moves haccepts).trans ?_
    rw [Program.moves, hinst]
    exact Program.Yields.append (.refl [t.goto entry]) (yields_emitChoices rfl hothers t)

namespace Expr

theorem realizes_rep {least : Nat} {most : Option Nat} {greedy : Bool} {body : Expr}
    (hbody : Emitter.Realizes p text body.emit (body.ways text : Ways text start))
    (hproper : (most.isSome || body.consumes) = true) :
    Emitter.Realizes p text (Expr.rep least most greedy body).emit
      ((Expr.rep least most greedy body).ways text : Ways text start) := by
  cases most with
  | some most => exact (hbody.copies least).comp (hbody.upTo greedy (most - least))
  | none =>
    have hconsumes : body.consumes = true := by simpa using hproper
    have hleads : LeadsBy (body.ways text : Ways text start) 1 := leadsBy_of_consumes hconsumes
    cases least with
    | zero =>
      have hemit : (Expr.rep 0 none greedy body).emit = body.emit.star greedy := by
        rw [Expr.emit, Emitter.repetition, if_pos hconsumes]
      have hways : ((Expr.rep 0 none greedy body).ways text : Ways text start) =
          fun t ↦ iterate greedy (body.ways text) (text.size - t.pos) t :=
        funext fun t ↦ List.flatMap_singleton _ t
      rw [hemit, hways]
      exact hbody.star hleads greedy
    | succ least =>
      have hways : ((Expr.rep (least + 1) none greedy body).ways text : Ways text start) =
          fun t ↦ (times (body.ways text) least t).flatMap fun w ↦ (body.ways text w).flatMap
            fun v ↦ iterate greedy (body.ways text) (text.size - v.pos) v := by
        funext t
        rw [ways, times_succ, List.flatMap_assoc]
      rw [hways]
      exact (hbody.copies least).comp (hbody.plus hleads greedy)

theorem realizes_alt {branches : List Expr} (hbranches : BranchesRealize p text start branches)
    (hne : branches.isEmpty = false) :
    Emitter.Realizes p text (Expr.alt branches).emit
      ((Expr.alt branches).ways text : Ways text start) where
  size_le code next := Nat.le_trans (hbranches.size_le code next) (size_le_emitChoices _ _)
  getElem?_eq code next i hi := by
    have hlt := Nat.lt_of_lt_of_le hi (hbranches.size_le code next)
    exact (getElem?_emitChoices hlt _).trans (hbranches.getElem?_eq code next i hi)
  yields := by
    intro code next hp t
    have hchoices : p.Holds (emitChoices (emitBranches branches next code).1
        (emitBranches branches next code).2).1 (emitBranches branches next code).1.size :=
      fun i hle hlt ↦ hp i (Nat.le_trans (hbranches.size_le code next) hle) hlt
    have hentries : p.Holds (emitBranches branches next code).1 code.size := fun i hle hlt ↦ by
      rw [hp i hle (Nat.lt_of_lt_of_le hlt (size_le_emitChoices _ _))]
      exact getElem?_emitChoices hlt _
    exact (yields_emitChoices ((hbranches.isEmpty_eq code next).trans hne) hchoices t).trans
      (hbranches.yields code next hentries t)

theorem realizes_group {index : Nat} {body : Expr}
    (hbody : Emitter.Realizes p text body.emit (body.ways text : Ways text start)) :
    Emitter.Realizes p text (Expr.group index body).emit
      ((Expr.group index body).ways text : Ways text start) := by
  have hways : ((Expr.group index body).ways text : Ways text start) = fun t ↦
      ([t.openGroup t.pc].flatMap (body.ways text)).flatMap fun w ↦ [w.closeGroup index w.pc] := by
    funext t
    rw [List.flatMap_singleton]
    exact List.map_eq_flatMap
  rw [hways]
  exact (Emitter.realizes_openGroup.comp hbody).comp (Emitter.realizes_closeGroup index)

mutual

/-- **A program does what its expression means**, provided that the expression is proper. -/
theorem realizes_emit (e : Expr) (h : e.proper = true) :
    Emitter.Realizes p text e.emit (e.ways text : Ways text start) := by
  match e with
  | .empty => exact Emitter.realizes_id
  | .text s => exact Emitter.realizes_takeAll s
  | .chars set => exact Emitter.realizes_chars set
  | .look l => exact Emitter.realizes_look l
  | .group index body => exact realizes_group (body.realizes_emit h)
  | .seq parts => exact realizes_emitAll parts h
  | .alt branches =>
    rw [Expr.proper, Bool.and_eq_true, Bool.not_eq_true'] at h
    exact realizes_alt (realizes_emitBranches branches h.2) h.1
  | .rep least most greedy body =>
    rw [Expr.proper, Bool.and_eq_true] at h
    exact realizes_rep (body.realizes_emit h.2) h.1

theorem realizes_emitAll (es : List Expr) (h : allProper es = true) :
    Emitter.Realizes p text (emitAll es) (waysAll text es : Ways text start) := by
  match es with
  | [] => exact Emitter.realizes_id
  | [e] =>
    rw [allProper, Bool.and_eq_true] at h
    have hways : (waysAll text [e] : Ways text start) = e.ways text :=
      funext fun t ↦ List.flatMap_singleton' _
    rw [hways]
    exact e.realizes_emit h.1
  | e :: e' :: es =>
    rw [allProper, Bool.and_eq_true] at h
    exact (e.realizes_emit h.1).comp (realizes_emitAll (e' :: es) h.2)

theorem realizes_emitBranches (es : List Expr) (h : allProper es = true) :
    BranchesRealize p text start es := by
  match es with
  | [] => exact .nil
  | e :: es =>
    rw [allProper, Bool.and_eq_true] at h
    exact .cons (e.realizes_emit h.1) (realizes_emitBranches es h.2)

end

end Expr

end Highlighter.Regex
