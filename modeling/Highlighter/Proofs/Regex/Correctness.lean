import Highlighter.Proofs.Regex.Emission
import Highlighter.Proofs.Tokenize.Nesting

/-!
# A compiled expression finds what the expression means

The search of a compiled expression, if the expression is proper, takes the first place from which
there is a way, and the preferred way from there (`compile_eq_searcher`). What is remembered from
one place to the next is where no match was found, so it does no harm.

So the assumptions on engines hold of this one: it finds the first match (`isLeftmost_compile`), and
groups lie within their match (`groupsWithin_compile`).
-/

namespace Highlighter.Regex

variable {p : Program} {e : Expr} {text : Array Char} {start pos : Nat} {tried : Tried}
  {source : String} {finds : Searcher}

/-! ## Running a program to its end -/

/-- A run from a single thread finds what a search finds, and what it has tried in vain fails. -/
theorem Program.Search.run_eq {t : Thread text.size start} {r : Option (Thread text.size start)}
    {n : Nat} (h : p.Search text n [t] r) (hdead : ∀ key, tried.contains key → p.Dead text key) :
    (p.run text (p.steps text) tried [t]).1 = r ∧
      (r = none →
        ∀ key, (p.run text (p.steps text) tried [t]).2.contains key → p.Dead text key) := by
  have hsteps : 2 * p.untried text tried + [t].length < p.steps text := by
    have := p.untried_le text tried
    rw [List.length_singleton, steps, Nat.mul_assoc]
    omega
  have hruns : p.Runs text tried ([t] ++ []) (p.run text (p.steps text) tried [t]) :=
    runs_run hsteps
  obtain ⟨hsome, hnone⟩ := h.runs (fun key hkey ↦ .inl (hdead key hkey)) hruns
  cases r with
  | some w => exact ⟨hsome w rfl, fun hr ↦ (nomatch hr)⟩
  | none =>
    obtain ⟨tried', hend, htried'⟩ := hnone rfl
    generalize p.run text (p.steps text) tried [t] = result at hend
    cases hend
    exact ⟨rfl, fun _ key hkey ↦ (htried' key hkey).elim (hdead key) id⟩

/-- The search of a program from a place on ends with the first way of its expression. -/
theorem exists_search (hp : e.program? = some p) (he : e.proper = true)
    (h : start ≤ text.size) : ∃ n, p.Search text n [Thread.initial p.entry h]
      ((e.ways text (Thread.initial 0 h)).head?.map (·.goto 0)) := by
  unfold Expr.program? at hp
  split at hp
  · obtain rfl := Option.some.inj hp
    have hemit : Emitter.Realizes
        ⟨(e.emit (#[.accept], 0)).1, (e.emit (#[.accept], 0)).2, e.groupCount⟩ text e.emit
        (e.ways text : Ways text start) := e.realizes_emit he
    have hyields := hemit.yields #[.accept] 0 (fun _ _ _ ↦ rfl) (Thread.initial 0 h)
    refine hyields [] _ ?_
    rw [List.append_nil]
    cases e.ways text (Thread.initial 0 h) with
    | nil => exact ⟨0, .nil⟩
    | cons w ws =>
      refine ⟨1, .accept ?_⟩
      have hinst := hemit.getElem?_eq #[.accept] 0 0 Nat.one_pos
      rw [Program.accepts, show (w.goto 0).pc = 0 from rfl, hinst]
      rfl
  · cases hp

/-- **A program finds what its expression means.** -/
theorem findFrom_eq (hp : e.program? = some p) (he : e.proper = true)
    (hdead : ∀ key, tried.contains key → p.Dead text key) :
    p.findFrom text pos tried = e.findFrom text pos := by
  have hgroups : p.groupCount = e.groupCount := by
    unfold Expr.program? at hp
    split at hp
    · obtain rfl := Option.some.inj hp
      rfl
    · cases hp
  fun_induction Expr.findFrom e text pos generalizing tried with
  | case1 pos hpos w ws hways =>
    obtain ⟨n, hs⟩ := exists_search hp he hpos
    have hrun := (hs.run_eq hdead).1
    rw [hways] at hrun
    rw [Program.findFrom, dif_pos hpos]
    split
    · next t _ heq =>
      obtain rfl : t = w.goto 0 := by
        rw [heq] at hrun
        exact Option.some.inj hrun
      refine congrArg some (Subtype.ext ?_)
      show (w.goto 0).toMatch p.groupCount = w.toMatch e.groupCount
      rw [hgroups]
      rfl
    · next heq =>
      rw [heq] at hrun
      cases hrun
  | case2 pos hpos hways ih =>
    obtain ⟨n, hs⟩ := exists_search hp he hpos
    obtain ⟨hrun, htried⟩ := hs.run_eq hdead
    rw [hways] at hrun
    rw [Program.findFrom, dif_pos hpos]
    split
    · next heq =>
      rw [heq] at hrun
      cases hrun
    · next tried' heq =>
      rw [hways, heq] at htried
      rw [ih (htried rfl)]
  | case3 pos hpos => rw [Program.findFrom, dif_neg hpos]

/-! ## Compiling -/

/-- The expression that is written, if it is one. -/
def expression? (source : String) : Option Expr := do
  let tree ← Syntax.ofString? source
  let (e, _) ← tree.resolve Mode.initial
  return e

theorem exists_of_compile_eq_some (h : compile source = some finds) :
    ∃ e p, expression? source = some e ∧ e.program? = some p ∧ finds = p.searcher := by
  obtain ⟨tree, htree, h⟩ := Option.bind_eq_some_iff.mp h
  obtain ⟨⟨e, m⟩, he, h⟩ := Option.bind_eq_some_iff.mp h
  obtain ⟨p, hp, h⟩ := Option.bind_eq_some_iff.mp h
  refine ⟨e, p, ?_, hp, (Option.some.inj h).symm⟩
  unfold expression?
  rw [htree, Option.bind_eq_bind, Option.bind_some, he]
  rfl

/-- **A compiled expression finds what the expression means.** -/
theorem compile_eq_searcher (h : compile source = some finds) (he : expression? source = some e)
    (hproper : e.proper = true) : finds = e.searcher := by
  obtain ⟨e', p, he', hp, rfl⟩ := exists_of_compile_eq_some h
  obtain rfl : e' = e := Option.some.inj (he'.symm.trans he)
  have hfind : p.searcher.find = e'.searcher.find := by
    funext text pos
    refine findFrom_eq hp hproper fun key hkey ↦ ?_
    rw [Std.HashSet.contains_empty] at hkey
    cases hkey
  exact congrArg Searcher.mk hfind

/-! ## What is assumed of engines -/

/-- What an expression finds: the first place from which there is a way, and the first way. -/
theorem Expr.exists_of_findFrom_eq_some {m : { m : Match // m.Between pos text.size }}
    (h : e.findFrom text pos = some m) : ∃ (start : Nat) (hstart : start ≤ text.size)
      (w : Thread text.size start) (ws : List (Thread text.size start)),
      e.ways text (Thread.initial 0 hstart) = w :: ws ∧ m.1 = w.toMatch e.groupCount ∧
      pos ≤ start ∧ ∀ i (hi : i ≤ text.size), pos ≤ i → i < start →
        e.ways text (Thread.initial 0 hi) = [] := by
  fun_induction Expr.findFrom e text pos with
  | case1 pos hpos w ws hways =>
    obtain rfl := Option.some.inj h
    exact ⟨pos, hpos, w, ws, hways, rfl, Nat.le_refl pos, fun i _ hle hlt ↦ by omega⟩
  | case2 pos hpos hways ih =>
    obtain ⟨m', hm', rfl⟩ := Option.map_eq_some_iff.mp h
    obtain ⟨start, hstart, w, ws, hw, hm, hle, hfirst⟩ := ih hm'
    refine ⟨start, hstart, w, ws, hw, hm, Nat.le_of_succ_le hle, fun i hi hposi hlt ↦ ?_⟩
    rcases Nat.eq_or_lt_of_le hposi with rfl | hposi
    · exact hways
    · exact hfirst i hi hposi hlt
  | case3 => cases h

/-- The preferred way from a place is the match there. -/
theorem Expr.has_of_ways_eq {hstart : start ≤ text.size} {w : Thread text.size start}
    {ws : List (Thread text.size start)} (h : e.ways text (Thread.initial 0 hstart) = w :: ws) :
    e.searcher.Has text (w.toMatch e.groupCount) := by
  show (e.findFrom text start).map (·.1) = some (w.toMatch e.groupCount)
  rw [Expr.findFrom, dif_pos hstart]
  split
  · next heq =>
    obtain ⟨rfl, -⟩ := List.cons.inj (h.symm.trans heq)
    rfl
  · next heq => cases h.symm.trans heq

theorem Expr.exists_ways_of_has {m : Match} (h : e.searcher.Has text m) :
    ∃ (hstart : m.whole.start ≤ text.size) (w : Thread text.size m.whole.start)
      (ws : List (Thread text.size m.whole.start)),
      e.ways text (Thread.initial 0 hstart) = w :: ws ∧ m = w.toMatch e.groupCount := by
  obtain ⟨m', hfind, heq⟩ := Option.map_eq_some_iff.mp h
  obtain ⟨start, hstart, w, ws, hways, hm, -⟩ := Expr.exists_of_findFrom_eq_some hfind
  obtain rfl : m = w.toMatch e.groupCount := heq.symm.trans hm
  exact ⟨hstart, w, ws, hways, rfl⟩

/-- Where there is a way, something is found, there or before. -/
theorem Expr.exists_findFrom {start : Nat} (hstart : start ≤ text.size)
    (hways : e.ways text (Thread.initial 0 hstart) ≠ []) (hle : pos ≤ start) :
    ∃ m, e.findFrom text pos = some m ∧ m.1.whole.start ≤ start := by
  fun_induction Expr.findFrom e text pos with
  | case1 pos hpos w ws hways => exact ⟨_, rfl, hle⟩
  | case2 pos hpos hnone ih =>
    rcases Nat.eq_or_lt_of_le hle with rfl | hlt
    · exact absurd hnone hways
    · obtain ⟨m, hm, hmle⟩ := ih hlt
      exact ⟨_, by rw [hm]; rfl, hmle⟩
  | case3 pos hpos => exact absurd (Nat.le_trans hle hstart) hpos

theorem isLeftmost_searcher (e : Expr) : e.searcher.IsLeftmost where
  has := by
    intro text pos m h
    obtain ⟨start, hstart, w, ws, hways, hm, -⟩ := Expr.exists_of_findFrom_eq_some h
    rw [hm]
    exact Expr.has_of_ways_eq hways
  not_past := by
    intro text pos m hm hle
    obtain ⟨m', hfind, heq⟩ := Option.map_eq_some_iff.mp hm
    obtain ⟨start, hstart, w, ws, hways, hm', -⟩ := Expr.exists_of_findFrom_eq_some hfind
    have hwhole : m.whole.start = start := by
      rw [← heq, hm']
      rfl
    rw [hwhole] at hle ⊢
    exact Expr.exists_findFrom hstart (by rw [hways]; exact List.cons_ne_nil w ws) hle

/-- The engine finds the first match. -/
theorem isLeftmost_compile (h : compile source = some finds) (he : expression? source = some e)
    (hproper : e.proper = true) : finds.IsLeftmost := by
  rw [compile_eq_searcher h he hproper]
  exact isLeftmost_searcher e

theorem within_of_findFrom_eq_some {m : { m : Match // m.Between pos text.size }} {r : Region}
    (h : p.findFrom text pos tried = some m) (hr : some r ∈ m.1.groups) : r.Within m.1.whole := by
  fun_induction Program.findFrom p text pos tried with
  | case1 pos tried hpos t tried' hrun =>
    obtain rfl := Option.some.inj h
    exact Thread.within_whole_toMatch hr
  | case2 pos tried hpos tried' hrun ih =>
    obtain ⟨m', hm', rfl⟩ := Option.map_eq_some_iff.mp h
    exact ih hm' hr
  | case3 => cases h

/-- Groups lie within their match. -/
theorem groupsWithin_compile : Engine.GroupsWithin compile := by
  intro source finds h text pos m hm r hr
  obtain ⟨e, p, -, -, rfl⟩ := exists_of_compile_eq_some h
  exact within_of_findFrom_eq_some hm hr

end Highlighter.Regex
