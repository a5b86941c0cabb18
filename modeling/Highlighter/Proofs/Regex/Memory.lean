import Highlighter.Proofs.Regex.Meaning
import Mathlib.Data.Finset.Card
import Mathlib.Data.List.Forall2

/-!
# A search that remembers finds what a search without memory finds

A program is run with a record of what has been tried. Without the record, a search tries the first
thread of a list and replaces it by the threads that it leads to (`Program.Search`). Such a search
may go on for ever, so it is given with the number of its steps, and all that is said here is about
searches that end.

Why may the record be consulted? What has been tried either has failed, in whatever thread, because
groups have no influence on where a thread can go. Or it is being tried: then it would take at least
as many steps again as the search that is under way, of which only a part is left
(`Program.Search.runs`).

The steps that a run may take are enough to try every instruction at every position, so the limit
has no influence either (`Program.runs_run`).
-/

namespace Highlighter.Regex

variable {p : Program} {text : Array Char} {start start' : Nat}
  {t : Thread text.size start} {t' : Thread text.size start'}
  {stack rest : List (Thread text.size start)} {r r' : Option (Thread text.size start)}
  {n n' : Nat} {tried : Tried}

/-! ## Searches without memory -/

/-- Whether a thread has come to the end of its program. -/
def Program.accepts (p : Program) (t : Thread text.size start) : Bool :=
  match p.insts[t.pc]? with
  | some .accept => true
  | _ => false

/-- The threads that a thread leads to by one instruction, the preferred one first. -/
def Program.moves (p : Program) (text : Array Char) (t : Thread text.size start) :
    List (Thread text.size start) :=
  match p.insts[t.pc]? with
  | some (.chars set next) => (t.take text set).map (·.goto next)
  | some (.look l next) => if l.holdsAt text t.pos then [t.goto next] else []
  | some (.openGroup next) => [t.openGroup next]
  | some (.closeGroup index next) => [t.closeGroup index next]
  | some (.split first second) => [t.goto first, t.goto second]
  | some .accept | none => []

/-- What a search through some threads results in, and the number of its steps. -/
inductive Program.Search (p : Program) (text : Array Char) {start : Nat} :
    Nat → List (Thread text.size start) → Option (Thread text.size start) → Prop
  | nil : Search p text 0 [] none
  | accept {t : Thread text.size start} {rest : List (Thread text.size start)}
      (h : p.accepts t = true) : Search p text 1 (t :: rest) (some t)
  | move {t : Thread text.size start} {rest : List (Thread text.size start)}
      {r : Option (Thread text.size start)} {n : Nat} (h : p.accepts t = false)
      (hs : Search p text n (p.moves text t ++ rest) r) : Search p text (n + 1) (t :: rest) r

namespace Program

theorem Search.unique (h : p.Search text n stack r) (h' : p.Search text n' stack r') :
    n = n' ∧ r = r' := by
  induction h generalizing n' with
  | nil =>
    cases h'
    exact ⟨rfl, rfl⟩
  | accept ht =>
    cases h' with
    | accept => exact ⟨rfl, rfl⟩
    | move ht' => simp [ht] at ht'
  | move ht _ ih =>
    cases h' with
    | accept ht' => simp [ht] at ht'
    | move _ hs' =>
      obtain ⟨rfl, rfl⟩ := ih hs'
      exact ⟨rfl, rfl⟩

/-- The search through a list comes to an end in its front part, or goes on with the rest. -/
theorem Search.split {front : List (Thread text.size start)}
    (h : p.Search text n (front ++ rest) r) :
    (∃ w m, m ≤ n ∧ p.Search text m front (some w) ∧ r = some w) ∨
      ∃ m m', n = m + m' ∧ p.Search text m front none ∧ p.Search text m' rest r := by
  generalize hstack : front ++ rest = stack at h
  induction h generalizing front with
  | nil =>
    obtain ⟨rfl, rfl⟩ := List.append_eq_nil_iff.mp hstack
    exact .inr ⟨0, 0, rfl, .nil, .nil⟩
  | accept ht =>
    cases front with
    | nil =>
      rw [List.nil_append] at hstack
      exact .inr ⟨0, 1, rfl, .nil, hstack.symm ▸ .accept ht⟩
    | cons t' front =>
      obtain ⟨rfl, -⟩ := List.cons.inj hstack
      exact .inl ⟨_, 1, Nat.le_refl 1, .accept ht, rfl⟩
  | @move t rest' r n ht hs ih =>
    cases front with
    | nil =>
      rw [List.nil_append] at hstack
      exact .inr ⟨0, n + 1, (Nat.zero_add _).symm, .nil, hstack.symm ▸ .move ht hs⟩
    | cons t' front =>
      obtain ⟨rfl, rfl⟩ := List.cons.inj hstack
      rcases ih (List.append_assoc _ _ _) with
        ⟨w, m, hle, hfront, rfl⟩ | ⟨m, m', rfl, hfront, hrest⟩
      · exact .inl ⟨w, m + 1, Nat.succ_le_succ hle, .move ht hfront, rfl⟩
      · exact .inr ⟨m + 1, m', Nat.add_right_comm m m' 1, .move ht hfront, hrest⟩

theorem Search.append_some {front : List (Thread text.size start)} {w : Thread text.size start}
    (h : p.Search text n front (some w)) (rest : List (Thread text.size start)) :
    p.Search text n (front ++ rest) (some w) := by
  generalize hr : some w = r at h
  induction h with
  | nil => cases hr
  | accept ht => exact .accept ht
  | move ht _ ih =>
    rw [List.cons_append]
    refine .move ht ?_
    rw [← List.append_assoc]
    exact ih hr

theorem Search.append_none {front : List (Thread text.size start)}
    (h : p.Search text n front none) (h' : p.Search text n' rest r) :
    p.Search text (n + n') (front ++ rest) r := by
  generalize hr : none = r' at h
  induction h with
  | nil => rwa [Nat.zero_add]
  | accept ht => cases hr
  | move ht _ ih =>
    rw [Nat.add_right_comm, List.cons_append]
    refine .move ht ?_
    rw [← List.append_assoc]
    exact ih hr

end Program

/-! ## Groups have no influence -/

/-- Whether two threads are at the same instruction and position. -/
def Thread.SameControl (t : Thread text.size start) (t' : Thread text.size start') : Prop :=
  t.pc = t'.pc ∧ t.pos = t'.pos

namespace Thread.SameControl

theorem accepts_eq (h : t.SameControl t') (p : Program) : p.accepts t = p.accepts t' := by
  rw [Program.accepts, Program.accepts, h.1]

theorem take (h : t.SameControl t') (set : CharSet) (next : Nat) :
    List.Forall₂ SameControl ((t.take text set).map (·.goto next))
      ((t'.take text set).map (·.goto next)) := by
  obtain ⟨pc, pos, opened, recorded, _, _, _, _⟩ := t
  obtain ⟨pc', pos', opened', recorded', _, _, _, _⟩ := t'
  obtain ⟨rfl, rfl⟩ : pc = pc' ∧ pos = pos' := h
  unfold Thread.take
  dsimp only
  split
  · split
    · exact .cons ⟨rfl, rfl⟩ .nil
    · exact .nil
  · exact .nil

theorem moves (h : t.SameControl t') (p : Program) :
    List.Forall₂ SameControl (p.moves text t) (p.moves text t') := by
  have hpos := h.2
  rw [Program.moves, Program.moves, ← h.1]
  split
  · exact h.take _ _
  · rw [← hpos]
    split
    · exact .cons ⟨rfl, hpos⟩ .nil
    · exact .nil
  · exact .cons ⟨rfl, hpos⟩ .nil
  · refine .cons ⟨?_, ?_⟩ .nil
    · rw [Thread.pc_closeGroup, Thread.pc_closeGroup]
    · rw [Thread.pos_closeGroup, Thread.pos_closeGroup, hpos]
  · exact .cons ⟨rfl, hpos⟩ (.cons ⟨rfl, hpos⟩ .nil)
  · exact .nil
  · exact .nil

end Thread.SameControl

namespace Program

/-- Threads at the same instructions and positions take as many steps, and to the same end. -/
theorem Search.sameControl {stack' : List (Thread text.size start')}
    (h : p.Search text n stack r) (hsame : List.Forall₂ Thread.SameControl stack stack') :
    ∃ r', p.Search text n stack' r' ∧ r.isSome = r'.isSome := by
  induction h generalizing stack' with
  | nil =>
    cases hsame
    exact ⟨none, .nil, rfl⟩
  | accept ht =>
    cases hsame with
    | cons hcontrol _ => exact ⟨_, .accept (by rw [← hcontrol.accepts_eq, ht]), rfl⟩
  | move ht _ ih =>
    cases hsame with
    | cons hcontrol hrest =>
      obtain ⟨r', hs', hr⟩ := ih (List.rel_append (hcontrol.moves p) hrest)
      exact ⟨r', .move (by rw [← hcontrol.accepts_eq, ht]) hs', hr⟩

end Program

/-! ## What has been tried -/

/-- The number that stands for the instruction and the position of a thread. -/
def Thread.key (t : Thread text.size start) : Nat := t.pc * (text.size + 1) + t.pos

theorem Thread.key_eq_iff : t.key = t'.key ↔ t.SameControl t' := by
  have hpos : t.pos < text.size + 1 := Nat.lt_succ_of_le t.pos_le_size
  have hpos' : t'.pos < text.size + 1 := Nat.lt_succ_of_le t'.pos_le_size
  constructor
  · intro hkey
    have hdiv := congrArg (· / (text.size + 1)) hkey
    have hmod := congrArg (· % (text.size + 1)) hkey
    simp only [key, Nat.mul_comm _ (text.size + 1), Nat.mul_add_mod, Nat.mod_eq_of_lt hpos,
      Nat.mod_eq_of_lt hpos', Nat.mul_add_div (Nat.succ_pos _), Nat.div_eq_of_lt hpos,
      Nat.div_eq_of_lt hpos', Nat.add_zero] at hdiv hmod
    exact ⟨hdiv, hmod⟩
  · rintro ⟨hpc, hpos⟩
    rw [key, key, hpc, hpos]

namespace Program

/-- Whether a search from an instruction and a position fails. -/
def Dead (p : Program) (text : Array Char) (key : Nat) : Prop :=
  ∃ (start : Nat) (t : Thread text.size start) (n : Nat),
    t.key = key ∧ p.Search text n [t] none

/-- Whether a search from an instruction and a position takes more than so many steps. -/
def Outlasts (p : Program) (text : Array Char) (n key : Nat) : Prop :=
  ∀ (start : Nat) (t : Thread text.size start) (m : Nat) (r : Option (Thread text.size start)),
    t.key = key → p.Search text m [t] r → n < m

/-- Whether consulting the record does no harm to a search of so many steps. -/
def Settled (p : Program) (text : Array Char) (n : Nat) (tried : Tried) : Prop :=
  ∀ key, tried.contains key → p.Dead text key ∨ p.Outlasts text n key

theorem Settled.of_le (h : p.Settled text n tried) (hle : n' ≤ n) : p.Settled text n' tried :=
  fun key hkey ↦ (h key hkey).imp_right fun houtlasts start t m r ht hs ↦
    Nat.lt_of_le_of_lt hle (houtlasts start t m r ht hs)

theorem contains_insert {key key' : Nat} (h : (tried.insert key').contains key) :
    key = key' ∨ tried.contains key := by
  rw [Std.HashSet.contains_insert, Bool.or_eq_true, beq_iff_eq] at h
  exact h.imp_left Eq.symm

theorem Settled.insert {key : Nat} (h : p.Settled text n tried)
    (hkey : p.Dead text key ∨ p.Outlasts text n key) : p.Settled text n (tried.insert key) := by
  intro key' hkey'
  rcases contains_insert hkey' with rfl | hkey'
  · exact hkey
  · exact h key' hkey'

/-- A search that ends takes more steps than its rest. -/
theorem Search.outlasts (h : p.Search text (n + 1) [t] r) : p.Outlasts text n t.key := by
  intro start' t' m r' hkey hs
  obtain ⟨r'', hs', -⟩ := hs.sameControl (.cons (Thread.key_eq_iff.mp hkey) .nil)
  rw [(hs'.unique h).1]
  exact Nat.lt_succ_self n

/-- Where a search has been tried, it fails, if it does not take too many steps. -/
theorem Settled.eq_none (h : p.Settled text n tried) (ht : tried.contains t.key)
    (hs : p.Search text n' [t] r) (hle : n' ≤ n) : r = none := by
  rcases h t.key ht with ⟨start', t', m, hkey, hdead⟩ | houtlasts
  · obtain ⟨r', hs', hr'⟩ := hdead.sameControl (.cons (Thread.key_eq_iff.mp hkey) .nil)
    rw [(hs.unique hs').2]
    exact Option.isNone_iff_eq_none.mp (by simpa using hr'.symm)
  · exact absurd (houtlasts start t n' r rfl hs) (Nat.not_lt_of_le hle)

/-- Whether what is in a second record and not in the first one fails. -/
def AddsDead (p : Program) (text : Array Char) (tried tried' : Tried) : Prop :=
  ∀ key, tried'.contains key → tried.contains key ∨ p.Dead text key

theorem AddsDead.refl (tried : Tried) : p.AddsDead text tried tried := fun _ hkey ↦ .inl hkey

theorem AddsDead.trans {tried' tried'' : Tried} (h : p.AddsDead text tried tried')
    (h' : p.AddsDead text tried' tried'') : p.AddsDead text tried tried'' :=
  fun key hkey ↦ (h' key hkey).elim (h key) .inr

theorem addsDead_insert {key : Nat} (h : p.Dead text key) :
    p.AddsDead text tried (tried.insert key) := by
  intro key' hkey'
  rcases contains_insert hkey' with rfl | hkey'
  · exact .inr h
  · exact .inl hkey'

theorem Settled.of_addsDead {tried' : Tried} (h : p.Settled text n tried)
    (hadds : p.AddsDead text tried tried') : p.Settled text n tried' :=
  fun key hkey ↦ (hadds key hkey).elim (h key) .inl

/-! ## Runs -/

/-- What a run results in: a search that drops the threads that have been tried. -/
inductive Runs (p : Program) (text : Array Char) {start : Nat} :
    Tried → List (Thread text.size start) → Option (Thread text.size start) × Tried → Prop
  | nil {tried : Tried} : Runs p text tried [] (none, tried)
  | tried {tried : Tried} {t : Thread text.size start} {rest : List (Thread text.size start)}
      {result : Option (Thread text.size start) × Tried} (ht : tried.contains t.key)
      (h : Runs p text tried rest result) : Runs p text tried (t :: rest) result
  | accept {tried : Tried} {t : Thread text.size start} {rest : List (Thread text.size start)}
      (ht : ¬tried.contains t.key) (h : p.accepts t = true) :
      Runs p text tried (t :: rest) (some t, tried.insert t.key)
  | move {tried : Tried} {t : Thread text.size start} {rest : List (Thread text.size start)}
      {result : Option (Thread text.size start) × Tried} (ht : ¬tried.contains t.key)
      (h : p.accepts t = false)
      (hs : Runs p text (tried.insert t.key) (p.moves text t ++ rest) result) :
      Runs p text tried (t :: rest) result

/-- **A run finds what a search without memory finds.** Where the search fails, the run goes on with
the rest, and what it has tried in between fails. -/
theorem Search.runs (h : p.Search text n stack r) {result : Option (Thread text.size start) × Tried}
    (hsettled : p.Settled text n tried) (hruns : p.Runs text tried (stack ++ rest) result) :
    (∀ w, r = some w → result.1 = some w) ∧
      (r = none → ∃ tried', p.Runs text tried' rest result ∧ p.AddsDead text tried tried') := by
  induction n using Nat.strong_induction_on generalizing stack r rest tried with
  | _ n ih =>
    cases h with
    | nil => exact ⟨fun _ hw ↦ (nomatch hw), fun _ ↦ ⟨tried, hruns, .refl tried⟩⟩
    | @accept t stack ht =>
      have hs : p.Search text 1 [t] (some t) := .accept ht
      cases hruns with
      | tried hkey => cases hsettled.eq_none hkey hs (Nat.le_refl 1)
      | accept => exact ⟨fun _ hw ↦ hw, fun hnone ↦ (nomatch hnone)⟩
      | move _ ht' => simp [ht] at ht'
    | @move t stack _ n ht hs =>
      -- What the first thread leads to is searched through first, and then the other threads.
      rcases hs.split with ⟨w, m, hle, hfront, rfl⟩ | ⟨m, m', rfl, hfront, hrest⟩
      · have hfirst : p.Search text (m + 1) [t] (some w) := .move ht (by rwa [List.append_nil])
        cases hruns with
        | tried hkey => cases hsettled.eq_none hkey hfirst (Nat.succ_le_succ hle)
        | accept _ ht' => simp [ht] at ht'
        | move hkey _ hruns =>
          have hsettled' := (hsettled.of_le (Nat.le_succ_of_le hle)).insert (.inr hfirst.outlasts)
          obtain ⟨hsome, -⟩ := ih m (Nat.lt_succ_of_le hle) hfront hsettled' hruns
          exact ⟨hsome, fun hnone ↦ (nomatch hnone)⟩
      · have hfirst : p.Search text (m + 1) [t] none := .move ht (by rwa [List.append_nil])
        have hdead : p.Dead text t.key := ⟨start, t, m + 1, rfl, hfirst⟩
        cases hruns with
        | tried hkey hruns => exact ih m' (by omega) hrest (hsettled.of_le (by omega)) hruns
        | accept _ ht' => simp [ht] at ht'
        | move hkey _ hruns =>
          have hle : m ≤ m + m' + 1 := by omega
          have hsettled' := (hsettled.of_le hle).insert (.inr hfirst.outlasts)
          obtain ⟨-, hnone⟩ := ih m (by omega) hfront hsettled' hruns
          obtain ⟨tried', hruns', hadds⟩ := hnone rfl
          have hadds := (addsDead_insert hdead).trans hadds
          have hsettled'' := (hsettled.of_le (by omega : m' ≤ _)).of_addsDead hadds
          obtain ⟨hsome, hnone'⟩ := ih m' (by omega) hrest hsettled'' hruns'
          refine ⟨hsome, fun hr ↦ ?_⟩
          obtain ⟨tried'', hruns'', hadds'⟩ := hnone' hr
          exact ⟨tried'', hruns'', hadds.trans hadds'⟩

/-! ## The limit -/

/-- How many instructions and positions have not been tried. -/
noncomputable def untried (p : Program) (text : Array Char) (tried : Tried) : Nat :=
  ((Finset.range (p.insts.size * (text.size + 1))).filter fun key ↦ ¬tried.contains key).card

theorem untried_le (p : Program) (text : Array Char) (tried : Tried) :
    p.untried text tried ≤ p.insts.size * (text.size + 1) := by
  refine Nat.le_trans (Finset.card_filter_le _ _) ?_
  rw [Finset.card_range]

theorem length_moves_le (p : Program) (text : Array Char) (t : Thread text.size start) :
    (p.moves text t).length ≤ 2 := by
  unfold moves
  split
  · unfold Thread.take
    split
    · split <;> simp
    · simp
  · split <;> simp
  all_goals simp

/-- To try a thread takes one of those that are untried, for two threads that it leads to. -/
theorem untried_insert (p : Program) (h : ¬tried.contains t.key) :
    2 * p.untried text (tried.insert t.key) + (p.moves text t).length ≤
      2 * p.untried text tried := by
  have hsubset : ((Finset.range (p.insts.size * (text.size + 1))).filter
      fun key ↦ ¬(tried.insert t.key).contains key) ⊆
      (Finset.range (p.insts.size * (text.size + 1))).filter fun key ↦ ¬tried.contains key := by
    refine Finset.monotone_filter_right _ fun key _ hkey hcontains ↦ hkey ?_
    rw [Std.HashSet.contains_insert, hcontains, Bool.or_true]
  by_cases hpc : t.pc < p.insts.size
  · have hkey : t.key < p.insts.size * (text.size + 1) := by
      have hpos : t.pos < text.size + 1 := Nat.lt_succ_of_le t.pos_le_size
      have hle : (t.pc + 1) * (text.size + 1) ≤ p.insts.size * (text.size + 1) :=
        Nat.mul_le_mul_right _ hpc
      rw [Nat.succ_mul] at hle
      unfold Thread.key
      omega
    have hlt : p.untried text (tried.insert t.key) < p.untried text tried := by
      refine Finset.card_lt_card ((Finset.ssubset_iff_of_subset hsubset).mpr ⟨t.key, ?_, ?_⟩)
      · exact Finset.mem_filter.mpr ⟨Finset.mem_range.mpr hkey, h⟩
      · rw [Finset.mem_filter, Std.HashSet.contains_insert_self]
        exact fun hmem ↦ hmem.2 rfl
    have := p.length_moves_le text t
    omega
  · have hmoves : p.moves text t = [] := by
      rw [moves, Array.getElem?_eq_none (Nat.le_of_not_lt hpc)]
    rw [hmoves]
    exact Nat.mul_le_mul_left 2 (Finset.card_le_card hsubset)

theorem run_cons (p : Program) (text : Array Char) (fuel : Nat) (tried : Tried)
    (t : Thread text.size start) (rest : List (Thread text.size start)) :
    p.run text (fuel + 1) tried (t :: rest) =
      if tried.contains t.key then p.run text fuel tried rest
      else if p.accepts t then (some t, tried.insert t.key)
      else p.run text fuel (tried.insert t.key) (p.moves text t ++ rest) := by
  rw [run]
  refine if_congr Iff.rfl rfl ?_
  unfold accepts moves Thread.take
  generalize p.insts[t.pc]? = inst
  cases inst with
  | none => rfl
  | some i =>
    cases i with
    | chars set next =>
      dsimp only
      split
      · split <;> rfl
      · rfl
    | look l next =>
      dsimp only
      split <;> rfl
    | openGroup next | closeGroup index next | split first second | accept => rfl

/-- **The limit has no influence** on a run. -/
theorem runs_run {fuel : Nat} (h : 2 * p.untried text tried + stack.length < fuel) :
    p.Runs text tried stack (p.run text fuel tried stack) := by
  induction fuel generalizing tried stack with
  | zero => cases h
  | succ fuel ih =>
    cases stack with
    | nil => exact .nil
    | cons t rest =>
      rw [List.length_cons] at h
      rw [run_cons]
      split
      · next hkey => exact .tried hkey (ih (by omega))
      · next hkey =>
        have := p.untried_insert hkey
        split
        · next ht => exact .accept hkey ht
        · next ht =>
          refine .move hkey (eq_false_of_ne_true ht) (ih ?_)
          rw [List.length_append]
          omega

end Program

end Highlighter.Regex
