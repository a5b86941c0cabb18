import Highlighter.Builtin.Grammars
import Highlighter.Proofs.Regex.Correctness
import Highlighter.Proofs.Text.Words
import Mathlib

/-!
# The expressions for strings and property names of JSON

The grammar of JSON has two expressions that begin with a string. One of them is a string, which may
lack its closing quote. The other one is a string with white space and a colon after it. Their ways
are described here by positions: a string goes on item by item, where an item is a plain character
or an escape, up to the first place that no item begins at.

The preferred way of a string takes all items, and the closing quote if there is one
(`exists_ways_string`). If a colon comes after that, the preferred way of a property name is the
same (`exists_ways_name`). Otherwise it gives back the closing quote, and then item after item,
until white space and a colon follow.
-/

namespace Highlighter.Builtin

open Regex

/-! ## The expressions -/

/-- The characters that stand for themselves in a string. -/
def plainCharacters : CharSet := ⟨#[(0, 9), (11, 33), (35, 91), (93, 1114111)]⟩

/-- The characters of a line. -/
def lineCharacters : CharSet := ⟨#[(0, 9), (11, 1114111)]⟩

/-- White space. -/
def blankCharacters : CharSet := ⟨#[(9, 13), (32, 32), (133, 133), (160, 160), (5760, 5760),
  (8192, 8202), (8232, 8233), (8239, 8239), (8287, 8287), (12288, 12288)]⟩

/-- An item of a string. -/
def itemExpr : Expr :=
  .alt [.chars plainCharacters, .seq [.text ['\\'], .chars lineCharacters]]

/-- A string, which may lack its closing quote. -/
def stringExpr : Expr :=
  .seq [.text ['"'], .rep 0 none true itemExpr, .rep 0 (some 1) true (.text ['"'])]

/-- An expression for a string with a colon after it, which is a property name. -/
def jsonName : String := "(" ++ jsonString ++ ")\\s*:"

/-- A property name and the colon after it. -/
def nameExpr : Expr :=
  .seq [.group 1 stringExpr, .rep 0 none true (.chars blankCharacters), .text [':']]

theorem expression?_jsonString : expression? jsonString = some stringExpr := by
  unfold stringExpr itemExpr plainCharacters lineCharacters
  cbv

theorem expression?_jsonName : expression? jsonName = some nameExpr := by
  unfold nameExpr stringExpr itemExpr plainCharacters lineCharacters blankCharacters
  rw [← Unicode.whiteSpace_eq]
  cbv

theorem proper_stringExpr : stringExpr.proper = true := by decide

theorem proper_nameExpr : nameExpr.proper = true := by decide

/-! ## Characters -/

theorem toNat_le_maxCodePoint (c : Char) : c.toNat ≤ 1114111 := by
  rcases c.valid with h | h
  · have : c.toNat < 0xd800 := h
    omega
  · have : c.toNat < 0x110000 := h.2
    omega

theorem contains_single_iff {c c' : Char} : (CharSet.single c).contains c' = true ↔ c' = c := by
  rw [← Char.toNat_inj]
  simp [CharSet.contains, CharSet.containsCode, CharSet.single, CharSet.range, CharSet.search]
  omega

theorem contains_plainCharacters_iff {c : Char} :
    plainCharacters.contains c = true ↔ c ≠ '"' ∧ c ≠ '\\' ∧ c ≠ '\n' := by
  have hle := toNat_le_maxCodePoint c
  simp only [ne_eq, ← Char.toNat_inj]
  simp [CharSet.contains, CharSet.containsCode, plainCharacters, CharSet.search]
  generalize c.toNat = n at *
  grind

theorem contains_lineCharacters_iff {c : Char} : lineCharacters.contains c = true ↔ c ≠ '\n' := by
  have hle := toNat_le_maxCodePoint c
  simp only [ne_eq, ← Char.toNat_inj]
  simp [CharSet.contains, CharSet.containsCode, lineCharacters, CharSet.search]
  generalize c.toNat = n at *
  grind

theorem contains_blankCharacters_iff {c : Char} :
    blankCharacters.contains c = true ↔ Words.isBlank c = true := by
  rw [Words.isBlank, Unicode.whiteSpace_eq, blankCharacters]

/-! ## Items -/

/-- Whether an item of a string leads from one position to another. -/
def IsItem (text : Array Char) (pos next : Nat) : Prop :=
  (∃ c, text[pos]? = some c ∧ c ≠ '"' ∧ c ≠ '\\' ∧ c ≠ '\n' ∧ next = pos + 1) ∨
    (text[pos]? = some '\\' ∧ ∃ c, text[pos + 1]? = some c ∧ c ≠ '\n' ∧ next = pos + 2)

/-- Whether items of a string lead from one position to another. -/
abbrev Items (text : Array Char) : Nat → Nat → Prop := Relation.ReflTransGen (IsItem text)

/-- Whether no item begins at a position. -/
def EndsItems (text : Array Char) (pos : Nat) : Prop := ∀ next, ¬IsItem text pos next

/-- The position after the closing quote of a string whose items end at a position, or the same
position if there is no closing quote. -/
def closeAt (text : Array Char) (pos : Nat) : Nat := if text[pos]? = some '"' then pos + 1 else pos

section Items

variable {text : Array Char} {pos next next' stop stop' : Nat}

theorem le_closeAt (text : Array Char) (pos : Nat) : pos ≤ closeAt text pos := by
  unfold closeAt
  split
  · exact Nat.le_succ pos
  · exact Nat.le_refl pos

theorem IsItem.unique (h : IsItem text pos next) (h' : IsItem text pos next') : next = next' := by
  rcases h with ⟨c, hc, -, hne, -, rfl⟩ | ⟨hc, c, -, -, rfl⟩ <;>
    rcases h' with ⟨c', hc', -, hne', -, rfl⟩ | ⟨hc', c', -, -, rfl⟩
  · rfl
  · exact absurd (Option.some.inj (hc.symm.trans hc')) hne
  · exact absurd (Option.some.inj (hc'.symm.trans hc)) hne'
  · rfl

theorem IsItem.lt (h : IsItem text pos next) : pos < next := by
  rcases h with ⟨c, -, -, -, -, rfl⟩ | ⟨-, c, -, -, rfl⟩ <;> omega

theorem Items.le (h : Items text pos stop) : pos ≤ stop := by
  induction h with
  | refl => exact Nat.le_refl _
  | tail _ hitem ih => exact Nat.le_trans ih (Nat.le_of_lt hitem.lt)

/-- No item begins at a quote. -/
theorem endsItems_of_quote (h : text[pos]? = some '"') : EndsItems text pos := by
  rintro next (⟨c, hc, hne, -⟩ | ⟨hc, -⟩)
  · exact hne (Option.some.inj (hc.symm.trans h))
  · cases h.symm.trans hc

/-- Items from the same position on go the same way, until they end. -/
theorem Items.to_end (h : Items text pos stop) (h' : Items text pos stop')
    (hend : EndsItems text stop') : Items text stop stop' := by
  induction h with
  | refl => exact h'
  | tail _ hitem ih =>
    rcases ih.cases_head with rfl | ⟨next, hitem', hrest⟩
    · exact absurd hitem (hend _)
    · rwa [hitem.unique hitem']

end Items

/-! ## Ways -/

section Ways

variable {text : Array Char} {start : Nat} {t w : Thread text.size start}

theorem takeAll_singleton (t : Thread text.size start) (c : Char) :
    t.takeAll text [c] = t.take text (.single c) :=
  List.flatMap_singleton' _

theorem mem_ways_item : w ∈ itemExpr.ways text t ↔ w ∈ t.take text plainCharacters ∨
    ∃ v ∈ t.take text (.single '\\'), w ∈ v.take text lineCharacters := by
  have hways : itemExpr.ways text t = t.take text plainCharacters ++
      ((t.takeAll text ['\\']).flatMap (fun v ↦ (v.take text lineCharacters).flatMap ([·])) ++
        []) := rfl
  simp only [hways, List.append_nil, List.mem_append, List.mem_flatMap, takeAll_singleton,
    List.flatMap_singleton']

/-- The ways of an item are items. -/
theorem isItem_of_mem_ways (h : w ∈ itemExpr.ways text t) :
    IsItem text t.pos w.pos ∧ t.SameGroups w := by
  rcases mem_ways_item.mp h with h | ⟨v, hv, h⟩
  · obtain ⟨c, hc, hplain, hpos, hgroups⟩ := exists_of_mem_take h
    obtain ⟨hquote, hescape, hline⟩ := contains_plainCharacters_iff.mp hplain
    exact ⟨.inl ⟨c, hc, hquote, hescape, hline, hpos⟩, hgroups⟩
  · obtain ⟨c, hc, hsingle, hpos, hgroups⟩ := exists_of_mem_take hv
    obtain ⟨c', hc', hline, hpos', hgroups'⟩ := exists_of_mem_take h
    rw [contains_single_iff.mp hsingle] at hc
    rw [hpos] at hc' hpos'
    exact ⟨.inr ⟨hc, c', hc', contains_lineCharacters_iff.mp hline, hpos'⟩, hgroups.trans hgroups'⟩

/-- Where an item begins, there is a way. -/
theorem endsItems_of_ways_eq_nil (h : itemExpr.ways text t = []) : EndsItems text t.pos := by
  rintro next (⟨c, hc, hquote, hescape, hline, -⟩ | ⟨hc, c, hc', hline, -⟩)
  · obtain ⟨w, hw, -⟩ := exists_take_eq_singleton (t := t) hc
      (contains_plainCharacters_iff.mpr ⟨hquote, hescape, hline⟩)
    have hmem := mem_ways_item.mpr (.inl (hw ▸ List.mem_singleton_self w))
    rw [h] at hmem
    cases hmem
  · obtain ⟨v, hv, hpos, -⟩ := exists_take_eq_singleton (t := t) hc (contains_single_iff.mpr rfl)
    rw [← hpos] at hc'
    obtain ⟨w, hw, -⟩ := exists_take_eq_singleton hc' (contains_lineCharacters_iff.mpr hline)
    have hmem := mem_ways_item.mpr
      (.inr ⟨v, hv ▸ List.mem_singleton_self v, hw ▸ List.mem_singleton_self w⟩)
    rw [h] at hmem
    cases hmem

theorem leadsBy_item : LeadsBy (itemExpr.ways text : Ways text start) 1 :=
  Expr.leadsBy_of_consumes (by decide)

theorem items_of_steps
    (h : Relation.ReflTransGen (fun t w ↦ w ∈ itemExpr.ways text t) t w) :
    Items text t.pos w.pos ∧ t.SameGroups w := by
  induction h with
  | refl => exact ⟨.refl, rfl, rfl⟩
  | tail _ hw ih =>
    obtain ⟨hitem, hgroups⟩ := isItem_of_mem_ways hw
    exact ⟨ih.1.tail hitem, ih.2.trans hgroups⟩

/-- The parts of a string: the opening quote, the items, and the closing quote if it is taken. -/
theorem ways_string (t : Thread text.size start) : stringExpr.ways text t =
    (t.take text (.single '"')).flatMap fun u ↦
      (iterate true (itemExpr.ways text) (text.size - u.pos) u).flatMap fun v ↦
        v.take text (.single '"') ++ [v] := by
  have hways : stringExpr.ways text t = (t.takeAll text ['"']).flatMap fun u ↦
      ([u].flatMap fun u ↦ iterate true (itemExpr.ways text) (text.size - u.pos) u).flatMap fun v ↦
        ([v].flatMap (iterate true (fun v ↦ v.takeAll text ['"']) 1)).flatMap ([·]) := rfl
  simp only [hways, takeAll_singleton, List.flatMap_singleton', List.flatMap_singleton, iterate,
    arrange, if_true]

/-- Every way of a string goes on from the opening quote by items, and may take a closing quote. -/
theorem items_of_mem_ways_string (h : w ∈ stringExpr.ways text t) :
    text[t.pos]? = some '"' ∧ t.SameGroups w ∧ ∃ stop, Items text (t.pos + 1) stop ∧
      (w.pos = stop ∨ text[stop]? = some '"' ∧ w.pos = stop + 1) := by
  rw [ways_string] at h
  obtain ⟨u, hu, h⟩ := List.mem_flatMap.mp h
  obtain ⟨v, hv, hw⟩ := List.mem_flatMap.mp h
  obtain ⟨c, hc, hsingle, hpos, hgroups⟩ := exists_of_mem_take hu
  rw [contains_single_iff.mp hsingle] at hc
  obtain ⟨hitems, hgroups'⟩ := items_of_steps (reflTransGen_of_mem_iterate hv)
  rw [hpos] at hitems
  refine ⟨hc, ?_⟩
  rcases List.mem_append.mp hw with hw | hw
  · obtain ⟨c', hc', hsingle', hpos', hgroups''⟩ := exists_of_mem_take hw
    rw [contains_single_iff.mp hsingle'] at hc'
    exact ⟨hgroups.trans (hgroups'.trans hgroups''), v.pos, hitems, .inr ⟨hc', hpos'⟩⟩
  · obtain rfl := List.mem_singleton.mp hw
    exact ⟨hgroups.trans hgroups', w.pos, hitems, .inl rfl⟩

/-- **The preferred way of a string** takes all items, and the closing quote if there is one. -/
theorem exists_ways_string (h : text[t.pos]? = some '"') :
    ∃ w ws stop, stringExpr.ways text t = w :: ws ∧ t.SameGroups w ∧
      Items text (t.pos + 1) stop ∧ EndsItems text stop ∧ w.pos = closeAt text stop := by
  obtain ⟨u, hu, hpos, hgroups⟩ := exists_take_eq_singleton h (contains_single_iff.mpr rfl)
  obtain ⟨v, vs, hv, hsteps, hend⟩ := exists_iterate_eq_cons (t := u) leadsBy_item (Nat.le_refl _)
  obtain ⟨hitems, hgroups'⟩ := items_of_steps hsteps
  rw [hpos] at hitems
  have hways : stringExpr.ways text t = (v.take text (.single '"') ++ [v]) ++
      vs.flatMap fun v ↦ v.take text (.single '"') ++ [v] := by
    rw [ways_string, hu, List.flatMap_singleton, hv, List.flatMap_cons]
  by_cases hquote : text[v.pos]? = some '"'
  · obtain ⟨w, hw, hpos', hgroups''⟩ :=
      exists_take_eq_singleton hquote (contains_single_iff.mpr rfl)
    refine ⟨w, _, v.pos, hways.trans (by rw [hw]; rfl), hgroups.trans (hgroups'.trans hgroups''),
      hitems, endsItems_of_ways_eq_nil hend, ?_⟩
    rw [hpos', closeAt, if_pos hquote]
  · have hnone : v.take text (.single '"') = [] := by
      refine List.eq_nil_iff_forall_not_mem.mpr fun w hw ↦ hquote ?_
      obtain ⟨c, hc, hsingle, -⟩ := exists_of_mem_take hw
      rw [hc, contains_single_iff.mp hsingle]
    refine ⟨v, _, v.pos, hways.trans (by rw [hnone]; rfl), hgroups.trans hgroups', hitems,
      endsItems_of_ways_eq_nil hend, ?_⟩
    rw [closeAt, if_neg hquote]

/-! ## Property names -/

/-- Whether white space leads from one position to another. -/
abbrev Blanks (text : Array Char) : Nat → Nat → Prop :=
  Relation.ReflTransGen fun pos next ↦
    (∃ c, text[pos]? = some c ∧ Words.isBlank c = true) ∧ next = pos + 1

theorem Blanks.le {text : Array Char} {pos stop : Nat} (h : Blanks text pos stop) : pos ≤ stop := by
  induction h with
  | refl => exact Nat.le_refl _
  | tail _ hblank ih => exact Nat.le_trans ih (hblank.2 ▸ Nat.le_succ _)

/-- Each character in white space is blank. -/
theorem Blanks.isBlank {text : Array Char} {pos stop i : Nat} (h : Blanks text pos stop)
    (hle : pos ≤ i) (hlt : i < stop) : ∃ c, text[i]? = some c ∧ Words.isBlank c = true := by
  induction h with
  | refl => omega
  | @tail next _ _ hblank ih =>
    obtain ⟨hblank, rfl⟩ := hblank
    rcases Nat.eq_or_lt_of_le (Nat.le_of_lt_succ hlt) with rfl | hlt
    · exact hblank
    · exact ih hlt

theorem blanks_of_isBlank {text : Array Char} {pos stop : Nat} (hle : pos ≤ stop)
    (h : ∀ i, pos ≤ i → i < stop → ∃ c, text[i]? = some c ∧ Words.isBlank c = true) :
    Blanks text pos stop := by
  induction stop, hle using Nat.le_induction with
  | base => exact .refl
  | succ stop hle ih =>
    have hfront := ih fun i hi hlt ↦ h i hi (Nat.lt_succ_of_lt hlt)
    exact hfront.tail ⟨h stop hle (Nat.lt_succ_self _), rfl⟩

/-- Whether white space and a colon follow at a position. -/
def ColonFollows (text : Array Char) (pos : Nat) : Prop :=
  ∃ stop, Blanks text pos stop ∧ text[stop]? = some ':'

/-- The ways of what follows a property name. -/
def afterName (text : Array Char) (t : Thread text.size start) : List (Thread text.size start) :=
  (iterate true (·.take text blankCharacters) (text.size - t.pos) t).flatMap
    (·.take text (.single ':'))

theorem ways_name (t : Thread text.size start) : nameExpr.ways text t =
    (stringExpr.ways text (t.openGroup t.pc)).flatMap fun v ↦
      afterName text (v.closeGroup 1 v.pc) := by
  have hways : nameExpr.ways text t =
      ((stringExpr.ways text (t.openGroup t.pc)).map fun v ↦ v.closeGroup 1 v.pc).flatMap fun v ↦
        ([v].flatMap fun v ↦ iterate true (fun v ↦ v.take text blankCharacters)
          (text.size - v.pos) v).flatMap fun v ↦ (v.takeAll text [':']).flatMap ([·]) := rfl
  simp only [hways, takeAll_singleton, List.flatMap_singleton', List.flatMap_singleton,
    List.flatMap_map]
  rfl

theorem blanks_of_steps
    (h : Relation.ReflTransGen (fun t w ↦ w ∈ t.take text blankCharacters) t w) :
    Blanks text t.pos w.pos ∧ t.SameGroups w := by
  induction h with
  | refl => exact ⟨.refl, rfl, rfl⟩
  | tail _ hw ih =>
    obtain ⟨c, hc, hblank, hpos, hgroups⟩ := exists_of_mem_take hw
    exact ⟨ih.1.tail ⟨⟨c, hc, contains_blankCharacters_iff.mp hblank⟩, hpos⟩, ih.2.trans hgroups⟩

theorem exists_steps_of_blanks {stop : Nat} (h : Blanks text t.pos stop) :
    ∃ w, Relation.ReflTransGen (fun t w ↦ w ∈ t.take text blankCharacters) t w ∧
      w.pos = stop := by
  induction h with
  | refl => exact ⟨t, .refl, rfl⟩
  | tail _ hblank ih =>
    obtain ⟨v, hsteps, rfl⟩ := ih
    obtain ⟨⟨c, hc, hblank⟩, rfl⟩ := hblank
    obtain ⟨w, hw, hpos, -⟩ :=
      exists_take_eq_singleton hc (contains_blankCharacters_iff.mpr hblank)
    exact ⟨w, hsteps.tail (hw ▸ List.mem_singleton_self w), hpos⟩

theorem exists_of_mem_afterName (h : w ∈ afterName text t) :
    ∃ stop, Blanks text t.pos stop ∧ text[stop]? = some ':' ∧ w.pos = stop + 1 ∧
      t.SameGroups w := by
  obtain ⟨v, hv, hw⟩ := List.mem_flatMap.mp h
  obtain ⟨hblanks, hgroups⟩ := blanks_of_steps (reflTransGen_of_mem_iterate hv)
  obtain ⟨c, hc, hsingle, hpos, hgroups'⟩ := exists_of_mem_take hw
  rw [contains_single_iff.mp hsingle] at hc
  exact ⟨v.pos, hblanks, hc, hpos, hgroups.trans hgroups'⟩

theorem afterName_ne_nil (h : ColonFollows text t.pos) : afterName text t ≠ [] := by
  obtain ⟨stop, hblanks, hcolon⟩ := h
  obtain ⟨v, hsteps, rfl⟩ := exists_steps_of_blanks hblanks
  obtain ⟨w, hw, -⟩ := exists_take_eq_singleton hcolon (contains_single_iff.mpr rfl)
  have hv := mem_iterate_of_reflTransGen (leadsBy_take blankCharacters) true hsteps
    (Nat.le_refl _)
  exact List.ne_nil_of_mem (List.mem_flatMap.mpr ⟨v, hv, hw ▸ List.mem_singleton_self w⟩)

/-- The group of a property name is a way of a string. -/
theorem exists_of_mem_ways_name (h : w ∈ nameExpr.ways text t) :
    ∃ v ∈ stringExpr.ways text (t.openGroup t.pc), ∃ hle : t.pos ≤ v.pos,
      w.recorded = (1, ⟨t.pos, v.pos, hle⟩) :: t.recorded ∧
      ∃ stop, Blanks text v.pos stop ∧ text[stop]? = some ':' ∧ w.pos = stop + 1 := by
  rw [ways_name] at h
  obtain ⟨v, hv, hw⟩ := List.mem_flatMap.mp h
  obtain ⟨-, ⟨hopened, hrecorded⟩, -⟩ := items_of_mem_ways_string hv
  obtain ⟨hle, hclose⟩ := v.recorded_closeGroup hopened 1 v.pc
  obtain ⟨stop, hblanks, hcolon, hpos, -, hgroups⟩ := exists_of_mem_afterName hw
  rw [v.pos_closeGroup] at hblanks
  refine ⟨v, hv, hle, ?_, stop, hblanks, hcolon, hpos⟩
  rw [hgroups, hclose, hrecorded]
  rfl

/-- Where a colon follows the preferred way of a string, the preferred way of a property name has
that string as its group. -/
theorem exists_ways_name {v : Thread text.size start} {vs : List (Thread text.size start)}
    (hv : stringExpr.ways text (t.openGroup t.pc) = v :: vs) (hcolon : ColonFollows text v.pos) :
    ∃ w ws, ∃ hle : t.pos ≤ v.pos, nameExpr.ways text t = w :: ws ∧
      w.recorded = (1, ⟨t.pos, v.pos, hle⟩) :: t.recorded := by
  have hmem : v ∈ stringExpr.ways text (t.openGroup t.pc) := hv ▸ List.mem_cons_self
  obtain ⟨-, ⟨hopened, hrecorded⟩, -⟩ := items_of_mem_ways_string hmem
  obtain ⟨hle, hclose⟩ := v.recorded_closeGroup hopened 1 v.pc
  rw [← v.pos_closeGroup 1 v.pc] at hcolon
  obtain ⟨w, ws, hw⟩ := List.exists_cons_of_ne_nil (afterName_ne_nil hcolon)
  have hafter : w ∈ afterName text (v.closeGroup 1 v.pc) := hw ▸ List.mem_cons_self
  obtain ⟨-, -, -, -, -, hgroups⟩ := exists_of_mem_afterName hafter
  refine ⟨w, ws ++ vs.flatMap fun v ↦ afterName text (v.closeGroup 1 v.pc), hle, ?_, ?_⟩
  · rw [ways_name, hv, List.flatMap_cons, hw]
    rfl
  · rw [hgroups, hclose, hrecorded]
    rfl

end Ways

end Highlighter.Builtin
