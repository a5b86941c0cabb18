import Highlighter.Proofs.Search.Leftmost
import Highlighter.Regex.Search
import Mathlib.Logic.Relation

/-!
# What an expression means

An expression is read off directly here, without a program: `Expr.ways` lists the ways in which it
matches from a place in a text on, the preferred one first. A choice prefers its earlier branches, a
greedy loop prefers to go on, and what follows each other is tried in each of the ways of the first
part, in order. A way is a thread: the place that it comes to, with the groups that it has recorded.

The search that an expression stands for takes the first place from which there is a way, and the
first way from there (`Expr.searcher`).

A loop without an upper bound may go on as long as there is text, provided that each iteration takes
a character. Of an expression in which each such loop has this property, and in which no choice is
without branches, we say that it is proper.
-/

namespace Highlighter.Regex

/-! ## Repeating -/

section Repeating

variable {α : Type} {f : α → List α}

/-- What comes of going on, and of stopping, in the order that the greed says. -/
def arrange (greedy : Bool) (more : List α) (a : α) : List α :=
  if greedy then more ++ [a] else a :: more

/-- What comes of repeating a step at most some number of times. -/
def iterate (greedy : Bool) (f : α → List α) : Nat → α → List α
  | 0, a => [a]
  | n + 1, a => arrange greedy ((f a).flatMap (iterate greedy f n)) a

/-- What comes of repeating a step some number of times. -/
def times (f : α → List α) : Nat → α → List α
  | 0, a => [a]
  | n + 1, a => (f a).flatMap (times f n)

theorem mem_arrange {greedy : Bool} {more : List α} {a b : α} :
    b ∈ arrange greedy more a ↔ b ∈ more ∨ b = a := by
  unfold arrange
  split
  · rw [List.mem_append, List.mem_singleton]
  · rw [List.mem_cons, or_comm]

/-- The last step may be told apart as well as the first one. -/
theorem times_succ (f : α → List α) (n : Nat) (a : α) :
    times f (n + 1) a = (times f n a).flatMap f := by
  induction n generalizing a with
  | zero => simp [times]
  | succ n ih =>
    have hstep : times f (n + 2) a = (f a).flatMap (times f (n + 1)) := rfl
    rw [hstep, times, List.flatMap_assoc]
    exact List.flatMap_congr fun b _ ↦ ih b

end Repeating

/-! ## Ways -/

section Ways

variable {text : Array Char} {start : Nat}

/-- What gives the threads that a thread leads to, the preferred one first. -/
abbrev Ways (text : Array Char) (start : Nat) : Type :=
  Thread text.size start → List (Thread text.size start)

/-- The thread after a character of a set, if there is one. -/
def Thread.take (text : Array Char) (set : CharSet) (t : Thread text.size start) :
    List (Thread text.size start) :=
  if h : t.pos < text.size then if set.contains text[t.pos] then [t.advance t.pc h] else []
  else []

/-- The thread after some characters, if they follow. -/
def Thread.takeAll (text : Array Char) : List Char → Thread text.size start →
    List (Thread text.size start)
  | [], t => [t]
  | c :: cs, t => (t.take text (.single c)).flatMap (takeAll text cs)

mutual

/-- The ways in which an expression matches, the preferred one first. -/
def Expr.ways (text : Array Char) : Expr → Thread text.size start → List (Thread text.size start)
  | .empty, t => [t]
  | .text s, t => t.takeAll text s
  | .chars set, t => t.take text set
  | .look l, t => if l.holdsAt text t.pos then [t] else []
  | .group index body, t =>
    (body.ways text (t.openGroup t.pc)).map fun w ↦ w.closeGroup index w.pc
  | .seq parts, t => waysAll text parts t
  | .alt branches, t => waysAny text branches t
  | .rep least none greedy body, t => (times (body.ways text) least t).flatMap fun w ↦
      iterate greedy (body.ways text) (text.size - w.pos) w
  | .rep least (some most) greedy body, t =>
    (times (body.ways text) least t).flatMap (iterate greedy (body.ways text) (most - least))

/-- The ways in which some expressions match after one another. -/
def waysAll (text : Array Char) : List Expr → Thread text.size start →
    List (Thread text.size start)
  | [], t => [t]
  | e :: es, t => (e.ways text t).flatMap (waysAll text es)

/-- The ways in which one of some expressions matches. -/
def waysAny (text : Array Char) : List Expr → Thread text.size start →
    List (Thread text.size start)
  | [], _ => []
  | e :: es, t => e.ways text t ++ waysAny text es t

end

/-! ## How far ways lead -/

/-- Whether some ways lead at least so many characters further. -/
def LeadsBy (ways : Ways text start) (n : Nat) : Prop :=
  ∀ t, ∀ w ∈ ways t, t.pos + n ≤ w.pos

variable {f g : Ways text start} {n m : Nat} {t w : Thread text.size start}

theorem LeadsBy.flatMap (hf : LeadsBy f n) (hg : LeadsBy g m) :
    LeadsBy (fun t ↦ (f t).flatMap g) (n + m) := by
  intro t w hw
  obtain ⟨v, hv, hw⟩ := List.mem_flatMap.mp hw
  have := hf t v hv
  have := hg v w hw
  omega

theorem LeadsBy.of_le (hf : LeadsBy f n) (hle : m ≤ n) : LeadsBy f m :=
  fun t w hw ↦ Nat.le_trans (Nat.add_le_add_left hle t.pos) (hf t w hw)

theorem leadsBy_pure : LeadsBy (fun t : Thread text.size start ↦ [t]) 0 := by
  intro t w hw
  rw [List.mem_singleton.mp hw]
  exact Nat.le_refl _

theorem LeadsBy.times (hf : LeadsBy f n) (k : Nat) : LeadsBy (times f k) (k * n) := by
  induction k with
  | zero => exact leadsBy_pure.of_le (by omega)
  | succ k ih => exact (hf.flatMap ih).of_le (by rw [Nat.succ_mul, Nat.add_comm])

theorem LeadsBy.iterate (hf : LeadsBy f 0) (greedy : Bool) (k : Nat) :
    LeadsBy (iterate greedy f k) 0 := by
  induction k with
  | zero => exact leadsBy_pure
  | succ k ih =>
    intro t w hw
    rcases mem_arrange.mp hw with hw | rfl
    · exact hf.flatMap ih t w hw
    · exact Nat.le_refl _

theorem leadsBy_take (set : CharSet) :
    LeadsBy (fun t : Thread text.size start ↦ t.take text set) 1 := by
  intro t w hw
  dsimp only [Thread.take] at hw
  split at hw
  · split at hw
    · rw [List.mem_singleton.mp hw]
      exact Nat.le_refl _
    · cases hw
  · cases hw

theorem leadsBy_takeAll (cs : List Char) :
    LeadsBy (fun t : Thread text.size start ↦ t.takeAll text cs) cs.length := by
  induction cs with
  | nil => exact leadsBy_pure
  | cons c cs ih => exact ((leadsBy_take (.single c)).flatMap ih).of_le (by simp [Nat.add_comm])

theorem Thread.pc_closeGroup (t : Thread text.size start) (index pc : Nat) :
    (t.closeGroup index pc).pc = pc := by
  unfold closeGroup
  split <;> rfl

theorem Thread.pos_closeGroup (t : Thread text.size start) (index pc : Nat) :
    (t.closeGroup index pc).pos = t.pos := by
  unfold closeGroup
  split <;> rfl

theorem getD_totalLength_cons (e : Expr) (es : List Expr) :
    (Expr.totalLength (e :: es)).getD 0 ≤
      e.leastLength.getD 0 + (Expr.totalLength es).getD 0 := by
  rw [Expr.totalLength]
  cases e.leastLength <;> cases Expr.totalLength es <;> simp

theorem getD_shortest_cons (e : Expr) (es : List Expr) :
    (Expr.shortest (e :: es)).getD 0 ≤ e.leastLength.getD 0 ∧
      (es ≠ [] → (Expr.shortest (e :: es)).getD 0 ≤ (Expr.shortest es).getD 0) := by
  cases es with
  | nil => exact ⟨Nat.le_refl _, fun hne ↦ absurd rfl hne⟩
  | cons e' es =>
    rw [Expr.shortest]
    cases e.leastLength with
    | none => simp
    | some n =>
      cases Expr.shortest (e' :: es) with
      | none => simp
      | some m => exact ⟨Nat.min_le_left n m, fun _ ↦ Nat.min_le_right n m⟩

mutual

/-- Every way of an expression leads as far as the expression is long, at least. -/
theorem Expr.leadsBy_ways (e : Expr) :
    LeadsBy (e.ways text : Ways text start) (e.leastLength.getD 0) := by
  intro t w hw
  match e with
  | .empty => exact leadsBy_pure t w hw
  | .text s => exact leadsBy_takeAll s t w hw
  | .chars set =>
    refine (leadsBy_take set).of_le ?_ t w hw
    rw [Expr.leastLength]
    split <;> simp
  | .look l =>
    rw [Expr.ways] at hw
    split at hw
    · exact leadsBy_pure t w hw
    · cases hw
  | .group index body =>
    obtain ⟨v, hv, rfl⟩ := List.mem_map.mp hw
    rw [Thread.pos_closeGroup]
    exact body.leadsBy_ways (t.openGroup t.pc) v hv
  | .seq parts => exact leadsBy_waysAll parts t w hw
  | .alt branches => exact leadsBy_waysAny branches t w hw
  | .rep least most greedy body =>
    have hbody : LeadsBy (body.ways text) (body.leastLength.getD 0) := body.leadsBy_ways
    have hmore (n : Nat) : LeadsBy (iterate greedy (body.ways text) n) 0 :=
      (hbody.of_le (Nat.zero_le _)).iterate greedy n
    have hlength : (Expr.rep least most greedy body).leastLength.getD 0 =
        least * body.leastLength.getD 0 := by
      rw [Expr.leastLength]
      cases body.leastLength <;> rfl
    rw [hlength]
    cases most with
    | none =>
      obtain ⟨v, hv, hw⟩ := List.mem_flatMap.mp hw
      exact Nat.le_trans (hbody.times least t v hv) (hmore _ v w hw)
    | some most => exact (hbody.times least).flatMap (hmore (most - least)) t w hw

theorem leadsBy_waysAll (es : List Expr) :
    LeadsBy (waysAll text es : Ways text start) ((Expr.totalLength es).getD 0) := by
  intro t w hw
  match es with
  | [] => exact leadsBy_pure t w hw
  | e :: es =>
    exact (e.leadsBy_ways.flatMap (leadsBy_waysAll es)).of_le (getD_totalLength_cons e es) t w hw

theorem leadsBy_waysAny (es : List Expr) :
    LeadsBy (waysAny text es : Ways text start) ((Expr.shortest es).getD 0) := by
  intro t w hw
  match es with
  | [] => cases hw
  | e :: es =>
    rcases List.mem_append.mp hw with hw | hw
    · exact e.leadsBy_ways.of_le (getD_shortest_cons e es).1 t w hw
    · have hne : es ≠ [] := by
        rintro rfl
        cases hw
      exact (leadsBy_waysAny es).of_le ((getD_shortest_cons e es).2 hne) t w hw

end

/-- A loop whose body takes a character in each iteration goes on. -/
theorem Expr.leadsBy_of_consumes {e : Expr} (h : e.consumes = true) :
    LeadsBy (e.ways text : Ways text start) 1 := by
  refine e.leadsBy_ways.of_le ?_
  obtain ⟨n, hn, hpos⟩ := (Option.any_eq_true _ _).mp h
  rw [hn]
  exact of_decide_eq_true hpos

theorem Thread.recorded_closeGroup {p : Nat} {opened : List Nat} (h : t.opened = p :: opened)
    (index pc : Nat) : ∃ hle : p ≤ t.pos,
      (t.closeGroup index pc).recorded = (index, ⟨p, t.pos, hle⟩) :: t.recorded := by
  refine ⟨(t.opened_between p (by rw [h]; exact List.mem_cons_self)).2, ?_⟩
  unfold closeGroup
  split
  · next hnil => cases hnil.symm.trans h
  · next heq =>
    obtain ⟨rfl, -⟩ := List.cons.inj (heq.symm.trans h)
    rfl

/-! ## Single characters -/

/-- Whether two threads have begun and recorded the same groups. -/
def Thread.SameGroups (t w : Thread text.size start) : Prop :=
  w.opened = t.opened ∧ w.recorded = t.recorded

theorem Thread.SameGroups.trans {v : Thread text.size start} (h : t.SameGroups v)
    (h' : v.SameGroups w) : t.SameGroups w :=
  ⟨h'.1.trans h.1, h'.2.trans h.2⟩

theorem exists_of_mem_take {set : CharSet} (h : w ∈ t.take text set) :
    ∃ c, text[t.pos]? = some c ∧ set.contains c = true ∧ w.pos = t.pos + 1 ∧ t.SameGroups w := by
  unfold Thread.take at h
  split at h
  · next hlt =>
    split at h
    · next hc =>
      obtain rfl := List.mem_singleton.mp h
      exact ⟨text[t.pos], Array.getElem?_eq_getElem hlt, hc, rfl, rfl, rfl⟩
    · cases h
  · cases h

theorem exists_take_eq_singleton {set : CharSet} {c : Char} (hc : text[t.pos]? = some c)
    (hset : set.contains c = true) :
    ∃ w, t.take text set = [w] ∧ w.pos = t.pos + 1 ∧ t.SameGroups w := by
  obtain ⟨hlt, rfl⟩ := Array.getElem?_eq_some_iff.mp hc
  exact ⟨t.advance t.pc hlt, by rw [Thread.take, dif_pos hlt, if_pos hset], rfl, rfl, rfl⟩

/-! ## Steps of a loop -/

/-- What a loop comes to is reached by steps of its body. -/
theorem reflTransGen_of_mem_iterate {greedy : Bool} (h : w ∈ iterate greedy f n t) :
    Relation.ReflTransGen (fun t w ↦ w ∈ f t) t w := by
  induction n generalizing t with
  | zero =>
    obtain rfl := List.mem_singleton.mp h
    exact .refl
  | succ n ih =>
    rcases mem_arrange.mp h with h | rfl
    · obtain ⟨v, hv, h⟩ := List.mem_flatMap.mp h
      exact .head hv (ih h)
    · exact .refl

/-- A loop that may go on as long as there is text comes to all that is reached by steps of its
body. -/
theorem mem_iterate_of_reflTransGen (hf : LeadsBy f 1) (greedy : Bool)
    (h : Relation.ReflTransGen (fun t w ↦ w ∈ f t) t w) (hn : text.size - t.pos ≤ n) :
    w ∈ iterate greedy f n t := by
  induction h using Relation.ReflTransGen.head_induction_on generalizing n with
  | refl =>
    cases n with
    | zero => exact List.mem_singleton_self w
    | succ n => exact mem_arrange.mpr (.inr rfl)
  | @head t v hv _ ih =>
    have := hf t v hv
    have := v.pos_le_size
    cases n with
    | zero => omega
    | succ n => exact mem_arrange.mpr (.inl (List.mem_flatMap.mpr ⟨v, hv, ih (by omega)⟩))

/-- A greedy loop prefers to go on until its body does not match. -/
theorem exists_iterate_eq_cons (hf : LeadsBy f 1) (hn : text.size - t.pos ≤ n) :
    ∃ w ws, iterate true f n t = w :: ws ∧ Relation.ReflTransGen (fun t w ↦ w ∈ f t) t w ∧
      f w = [] := by
  induction n generalizing t with
  | zero =>
    refine ⟨t, [], rfl, .refl, List.eq_nil_iff_forall_not_mem.mpr fun v hv ↦ ?_⟩
    have := hf t v hv
    have := v.pos_le_size
    omega
  | succ n ih =>
    cases hways : f t with
    | nil => exact ⟨t, [], by rw [iterate, hways]; rfl, .refl, hways⟩
    | cons v vs =>
      have hv : v ∈ f t := by
        rw [hways]
        exact List.mem_cons_self
      have := hf t v hv
      obtain ⟨w, ws, hw, hsteps, hend⟩ := ih (t := v) (by omega)
      refine ⟨w, ws ++ vs.flatMap (iterate true f n) ++ [t], ?_, .head hv hsteps, hend⟩
      rw [iterate, hways, List.flatMap_cons, hw]
      rfl

/-! ## Proper expressions -/

mutual

/-- Whether each loop without an upper bound takes a character in each iteration, and each choice
has a branch. -/
def Expr.proper : Expr → Bool
  | .empty | .text _ | .chars _ | .look _ => true
  | .group _ body => body.proper
  | .seq parts => allProper parts
  | .alt branches => !branches.isEmpty && allProper branches
  | .rep _ most _ body => (most.isSome || body.consumes) && body.proper

/-- Whether some expressions are proper. -/
def allProper : List Expr → Bool
  | [] => true
  | e :: es => e.proper && allProper es

end

end Ways

/-! ## Searching -/

/-- The match that an expression has from a position on: that of the first way from the first place
that has one. -/
def Expr.findFrom (e : Expr) (text : Array Char) (pos : Nat) :
    Option { m : Match // m.Between pos text.size } :=
  if h : pos ≤ text.size then
    match e.ways text (Thread.initial 0 h) with
    | w :: _ => some ⟨w.toMatch e.groupCount, w.between_toMatch _⟩
    | [] => (e.findFrom text (pos + 1)).map fun m ↦ ⟨m.1, m.2.of_le (Nat.le_succ pos)⟩
  else none
termination_by text.size + 1 - pos

/-- The search that an expression stands for. -/
def Expr.searcher (e : Expr) : Searcher where
  find := e.findFrom

end Highlighter.Regex
