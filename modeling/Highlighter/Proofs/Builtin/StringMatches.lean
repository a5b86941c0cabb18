import Highlighter.Proofs.Builtin.Strings

/-!
# Strings and property names in a text

What the expressions for strings and property names match (`IsString`, `IsName`), and what of it is
found in a text. The text is searched for each of them on its own. The strings take every quote that
they come to, so each quote lies in a string (`exists_hasString`). The search for property names
passes over a string that no colon comes after, but not as a whole: it goes on behind the opening
quote, and may find a property name inside the string, or one that begins with the closing quote.

Where each colon comes after a string with both quotes, this does not happen
(`ColonsFollow.hasString`). A colon would have to be in the string then, or a property name would
have to pass over a quote that is not escaped.
-/

namespace Highlighter.Builtin

open Regex

/-! ## Matches -/

/-- Whether a region is a string: all items after a quote, and the closing quote if there is one. -/
structure IsString (text : Array Char) (r : Region) : Prop where
  quote : text[r.start]? = some '"'
  stop_eq : ∃ stop, Items text (r.start + 1) stop ∧ EndsItems text stop ∧
    r.stop = closeAt text stop

/-- Whether a region is what is tagged as a property name: some items after a quote, and possibly
the closing quote, with a colon after it. It is a string if a colon follows that. -/
structure IsName (text : Array Char) (r : Region) : Prop where
  quote : text[r.start]? = some '"'
  stop_eq : ∃ stop, Items text (r.start + 1) stop ∧
    (r.stop = stop ∨ text[stop]? = some '"' ∧ r.stop = stop + 1)
  colon : ColonFollows text r.stop
  eq_of_isString : ∀ s, IsString text s → s.start = r.start → ColonFollows text s.stop → r = s

section Matches

variable {text : Array Char} {m : Match} {r s : Region} {pos stop : Nat}

theorem IsString.start_lt_stop (h : IsString text r) : r.start < r.stop := by
  obtain ⟨stop, hitems, -, hstop⟩ := h.stop_eq
  rw [hstop]
  exact Nat.lt_of_lt_of_le hitems.le (le_closeAt text stop)

theorem IsName.start_lt_stop (h : IsName text r) : r.start < r.stop := by
  obtain ⟨stop, hitems, hstop⟩ := h.stop_eq
  have := hitems.le
  rcases hstop with rfl | ⟨-, hstop⟩ <;> omega

/-- Strings that begin at the same position are the same. -/
theorem IsString.eq (h : IsString text r) (h' : IsString text s) (hstart : r.start = s.start) :
    r = s := by
  obtain ⟨stop, hitems, hend, hstop⟩ := h.stop_eq
  obtain ⟨stop', hitems', hend', hstop'⟩ := h'.stop_eq
  rw [hstart] at hitems
  have heq : stop = stop' :=
    Nat.le_antisymm (hitems.to_end hitems' hend').le (hitems'.to_end hitems hend).le
  exact Region.eq_of_ends hstart (by rw [hstop, hstop', heq])

/-- The preferred way of a string is the string. -/
theorem IsString.exists_ways {start : Nat} (h : IsString text s) {t : Thread text.size start}
    (ht : t.pos = s.start) :
    ∃ w ws, stringExpr.ways text t = w :: ws ∧ w.pos = s.stop := by
  have hquote : text[t.pos]? = some '"' := by
    rw [ht]
    exact h.quote
  obtain ⟨w, ws, stop, hways, -, hitems, hend, hpos⟩ := exists_ways_string hquote
  have hle : t.pos ≤ w.pos := by
    have hw : w ∈ stringExpr.ways text t := hways ▸ List.mem_cons_self
    exact Nat.le_of_add_right_le (Expr.leadsBy_ways stringExpr t w hw)
  have hs : (⟨t.pos, w.pos, hle⟩ : Region) = s :=
    IsString.eq ⟨hquote, stop, hitems, hend, hpos⟩ h ht
  exact ⟨w, ws, hways, congrArg Region.stop hs⟩

/-- A property name takes no more than the string that begins where it begins. -/
theorem IsName.stop_le (h : IsName text r) (hs : IsString text s) (hstart : s.start = r.start) :
    r.stop ≤ s.stop := by
  obtain ⟨stop, hitems, hstop⟩ := h.stop_eq
  obtain ⟨stop', hitems', hend, hstop'⟩ := hs.stop_eq
  rw [hstart] at hitems'
  have hrest := hitems.to_end hitems' hend
  rcases hstop with rfl | ⟨hquote, hclosed⟩
  · rw [hstop']
    exact Nat.le_trans hrest.le (le_closeAt text stop')
  · -- The items end at a quote, which both of them take.
    obtain rfl : stop = stop' := by
      rcases hrest.cases_head with heq | ⟨next, hitem, -⟩
      · exact heq
      · exact absurd hitem (endsItems_of_quote hquote next)
    rw [hclosed, hstop', closeAt, if_pos hquote]

/-- **What the expression for strings matches** is a string. -/
theorem isString_of_has (h : stringExpr.searcher.Has text m) :
    m.groups = [] ∧ IsString text m.whole := by
  obtain ⟨hstart, w, ws, hways, hm⟩ := Expr.exists_ways_of_has h
  have hmem : w ∈ stringExpr.ways text (Thread.initial 0 hstart) := hways ▸ List.mem_cons_self
  obtain ⟨hquote, -⟩ := items_of_mem_ways_string hmem
  obtain ⟨w', ws', stop, hways', -, hitems, hend, hpos⟩ := exists_ways_string hquote
  obtain ⟨rfl, -⟩ := List.cons.inj (hways.symm.trans hways')
  refine ⟨by rw [hm]; rfl, hquote, stop, hitems, hend, ?_⟩
  rw [hm]
  exact hpos

/-- There is a string at every quote. -/
theorem exists_has_string (h : text[pos]? = some '"') :
    ∃ m, stringExpr.searcher.Has text m ∧ m.whole.start = pos := by
  have hpos : pos ≤ text.size := Nat.le_of_lt (Array.getElem?_eq_some_iff.mp h).1
  obtain ⟨w, ws, -, hways, -⟩ := exists_ways_string (t := Thread.initial 0 hpos) h
  exact ⟨_, Expr.has_of_ways_eq hways, rfl⟩

/-- **What the expression for property names matches** is a property name with white space and a
colon after it. -/
theorem exists_isName_of_has (h : nameExpr.searcher.Has text m) :
    ∃ r, m.groups = [some r] ∧ r.start = m.whole.start ∧ IsName text r ∧
      ∃ stop, text[stop]? = some ':' ∧ m.whole.stop = stop + 1 ∧ r.stop ≤ stop := by
  obtain ⟨hstart, w, ws, hways, hm⟩ := Expr.exists_ways_of_has h
  have hmem : w ∈ nameExpr.ways text (Thread.initial 0 hstart) := hways ▸ List.mem_cons_self
  obtain ⟨v, hv, hle, hrecorded, stop, hblanks, hcolon, hpos⟩ := exists_of_mem_ways_name hmem
  obtain ⟨hquote, -, hstop⟩ := items_of_mem_ways_string hv
  refine ⟨⟨m.whole.start, v.pos, hle⟩, ?_, rfl, ⟨hquote, hstop, ⟨stop, hblanks, hcolon⟩, ?_⟩,
    stop, hcolon, ?_, hblanks.le⟩
  · have hgroups : m.groups = [w.group 1] := congrArg Match.groups hm
    rw [hgroups, Thread.group, hrecorded]
    rfl
  · intro s hs hsstart hscolon
    obtain ⟨v', vs, hv', hpos'⟩ := hs.exists_ways
      (t := (Thread.initial 0 hstart).openGroup (Thread.initial 0 hstart).pc) hsstart.symm
    rw [← hpos'] at hscolon
    obtain ⟨w', ws', hle', hways', hrecorded'⟩ := exists_ways_name hv' hscolon
    obtain ⟨rfl, -⟩ := List.cons.inj (hways.symm.trans hways')
    -- Both are what the same way has recorded.
    obtain ⟨hgroup, -⟩ := List.cons.inj (hrecorded.symm.trans hrecorded')
    have hvpos : v.pos = v'.pos := congrArg (·.2.stop) hgroup
    exact Region.eq_of_ends hsstart.symm (hvpos.trans hpos')
  · exact (congrArg (·.whole.stop) hm).trans hpos

/-- Where a colon follows a string, there is a property name. -/
theorem exists_has_name (h : IsString text s) (hcolon : ColonFollows text s.stop) :
    ∃ m, nameExpr.searcher.Has text m ∧ m.whole.start = s.start := by
  have hstart : s.start ≤ text.size := Nat.le_of_lt (Array.getElem?_eq_some_iff.mp h.quote).1
  obtain ⟨v, vs, hv, hpos⟩ := h.exists_ways
    (t := (Thread.initial 0 hstart).openGroup (Thread.initial 0 hstart).pc) rfl
  rw [← hpos] at hcolon
  obtain ⟨w, ws, -, hways, -⟩ := exists_ways_name hv hcolon
  exact ⟨_, Expr.has_of_ways_eq hways, rfl⟩

end Matches

section Tagged

variable {text : Array Char} {r s s' : Region} {m : Match} {pos stop next : Nat}

/-! ## Strings and property names of a text -/

/-- Whether a region is a string that is found in a text. -/
def HasString (text : Array Char) (s : Region) : Prop :=
  ∃ m ∈ stringExpr.searcher.matchesFrom text 0, m.whole = s

/-- Whether a region is a property name that is found in a text. -/
def HasName (text : Array Char) (r : Region) : Prop :=
  ∃ m ∈ nameExpr.searcher.matchesFrom text 0, m.groups = [some r]

theorem has_of_mem_matchesFrom {e : Expr} (h : m ∈ e.searcher.matchesFrom text pos) :
    e.searcher.Has text m :=
  (isLeftmost_searcher e).has_of_mem_matchesFrom h

theorem HasString.isString (h : HasString text s) : IsString text s := by
  obtain ⟨m, hm, rfl⟩ := h
  exact (isString_of_has (has_of_mem_matchesFrom hm)).2

/-- A property name is that of a match, which ends behind a colon. -/
theorem HasName.exists_match (h : HasName text r) :
    ∃ m ∈ nameExpr.searcher.matchesFrom text 0, r.start = m.whole.start ∧ IsName text r := by
  obtain ⟨m, hm, hgroups⟩ := h
  obtain ⟨r', hgroups', hstart, hname, -⟩ := exists_isName_of_has (has_of_mem_matchesFrom hm)
  obtain rfl : r = r' := by simpa [hgroups] using hgroups'
  exact ⟨m, hm, hstart, hname⟩

theorem HasString.stop_le (h : HasString text s) : s.stop ≤ text.size := by
  obtain ⟨m, hm, rfl⟩ := h
  exact (has_of_mem_matchesFrom hm).stop_le

theorem HasName.isName (h : HasName text r) : IsName text r := by
  obtain ⟨m, -, -, hname⟩ := h.exists_match
  exact hname

theorem HasName.stop_le (h : HasName text r) : r.stop ≤ text.size := by
  obtain ⟨pos, hblanks, hcolon⟩ := h.isName.colon
  exact Nat.le_trans hblanks.le (Nat.le_of_lt (Array.getElem?_eq_some_iff.mp hcolon).1)

/-- Each quote lies in a string. -/
theorem exists_hasString (h : text[pos]? = some '"') :
    ∃ s, HasString text s ∧ s.start ≤ pos ∧ pos < s.stop := by
  obtain ⟨m, hm, rfl⟩ := exists_has_string h
  obtain ⟨m', hm', hle, hlt⟩ :=
    (isLeftmost_searcher stringExpr).exists_mem_matchesFrom hm (Nat.zero_le _)
  have hs : HasString text m'.whole := ⟨m', hm', rfl⟩
  rw [Match.resume_eq hs.isString.start_lt_stop] at hlt
  exact ⟨m'.whole, hs, hle, hlt⟩

/-- Two strings are the same, or one of them comes before the other one. -/
theorem HasString.eq_or_disjoint (h : HasString text s) (h' : HasString text s') :
    s = s' ∨ s.stop ≤ s'.start ∨ s'.stop ≤ s.start := by
  obtain ⟨m, hm, rfl⟩ := h
  obtain ⟨m', hm', rfl⟩ := h'
  exact (eq_or_disjoint_of_mem_matchesFrom hm hm').imp_left (congrArg Match.whole)

/-! ## Texts in which colons follow strings -/

/-- A quote that items pass over is escaped. -/
theorem Items.escape_of_quote (h : Items text pos stop) {i : Nat} (hle : pos ≤ i) (hlt : i < stop)
    (hquote : text[i]? = some '"') : ∃ j, j + 1 = i ∧ text[j]? = some '\\' := by
  induction h with
  | refl => omega
  | @tail next next' _ hitem ih =>
    by_cases hnext : i < next
    · exact ih hnext
    · rcases hitem with ⟨c, hc, hne, -, -, rfl⟩ | ⟨hc, c, -, -, rfl⟩
      · obtain rfl : i = next := by omega
        exact absurd (Option.some.inj (hc.symm.trans hquote)) hne
      · rcases Nat.eq_or_lt_of_le (Nat.le_of_not_lt hnext) with rfl | hlt'
        · cases hc.symm.trans hquote
        · exact ⟨next, by omega, hc⟩

/-- There is no quote in white space. -/
theorem Blanks.ne_quote (h : Blanks text pos stop) {i : Nat} (hle : pos ≤ i) (hlt : i < stop) :
    text[i]? ≠ some '"' := by
  intro hquote
  obtain ⟨c, hc, hblank⟩ := h.isBlank hle hlt
  obtain rfl : c = '"' := Option.some.inj (hc.symm.trans hquote)
  rw [Words.isBlank_eq_false (by decide) (by decide)] at hblank
  cases hblank

/-- Whether a region is a string with a closing quote that only white space separates from a
position. -/
structure Precedes (text : Array Char) (s : Region) (pos : Nat) : Prop where
  hasString : HasString text s
  start_succ_lt : s.start + 1 < s.stop
  quote : text[s.stop - 1]? = some '"'
  blanks : Blanks text s.stop pos

/-- Whether colons come only where a string precedes them, and no string comes after a backslash. -/
structure ColonsFollow (text : Array Char) : Prop where
  colon : ∀ pos, text[pos]? = some ':' → ∃ s, Precedes text s pos
  backslash : ∀ s, HasString text s → ∀ pos, pos + 1 = s.start → text[pos]? ≠ some '\\'

/-- A colon that follows a string is not in a string. -/
theorem ColonsFollow.not_colon (h : ColonsFollow text) (hs : HasString text s)
    (hle : s.start ≤ pos) (hlt : pos < s.stop) : text[pos]? ≠ some ':' := by
  intro hcolon
  obtain ⟨s', hs'⟩ := h.colon pos hcolon
  have hstop := hs'.blanks.le
  have hquote := hs.isString.quote
  have hstart : s.start ≠ pos := by
    rintro rfl
    cases hcolon.symm.trans hquote
  rcases hs.eq_or_disjoint hs'.hasString with rfl | hbefore | hbehind
  · omega
  · have := s'.start_le_stop
    omega
  · exact hs'.blanks.ne_quote hbehind (by omega) hquote

/-- Where colons follow strings, no match for property names begins inside a string that precedes a
colon: the search does not pass over the string. -/
theorem ColonsFollow.not_inside (h : ColonsFollow text) (hs : Precedes text s pos)
    (hcolon : text[pos]? = some ':') (hm : m ∈ nameExpr.searcher.matchesFrom text 0)
    (hlt : s.start < m.whole.start) : s.stop ≤ m.whole.start := by
  obtain ⟨found, hfound, hstart⟩ :=
    exists_has_name hs.hasString.isString ⟨pos, hs.blanks, hcolon⟩
  obtain ⟨m', hm', hle, hresume⟩ :=
    (isLeftmost_searcher nameExpr).exists_mem_matchesFrom hfound (Nat.zero_le _)
  rw [hstart] at hle hresume
  obtain ⟨r, -, hrstart, hname, stop, hcolon', hstop, hrstop⟩ :=
    exists_isName_of_has (has_of_mem_matchesFrom hm')
  have hrlt := hname.start_lt_stop
  rw [Match.resume_eq (by omega)] at hresume
  have hstop' : m'.whole.stop ≤ m.whole.start := by
    rcases eq_or_disjoint_of_mem_matchesFrom hm hm' with rfl | hbefore | hbehind
    · omega
    · have := m.whole.start_le_stop
      omega
    · exact hbehind
  -- The match ends with a colon, which is not in the string.
  by_contra hinside
  have hle : s.start ≤ stop := by omega
  exact h.not_colon hs.hasString hle (by omega) hcolon'

/-- **Where colons follow strings, property names are strings.** -/
theorem ColonsFollow.hasString (h : ColonsFollow text) (hr : HasName text r) :
    HasString text r := by
  obtain ⟨m, hm, hstart, hname⟩ := hr.exists_match
  obtain ⟨pos, hblanks, hcolon⟩ := hname.colon
  obtain ⟨s, hs⟩ := h.colon pos hcolon
  have hstring := hs.hasString.isString
  have hle : s.stop ≤ r.stop := by
    by_contra hlt
    have := hs.blanks.le
    exact hblanks.ne_quote (i := s.stop - 1) (by omega) (by omega) hs.quote
  have hfirst : s.start ≤ r.start := by
    by_contra hlt
    obtain ⟨stop, hitems, hstop⟩ := hname.stop_eq
    have hlast : s.start < stop := by
      have := hs.start_succ_lt
      omega
    obtain ⟨j, hj, hescape⟩ := Items.escape_of_quote hitems (by omega) hlast hstring.quote
    exact h.backslash s hs.hasString j hj hescape
  have hlast : r.start < s.stop := by
    by_contra hlt
    have := hname.start_lt_stop
    have := hblanks.le
    exact hs.blanks.ne_quote (Nat.le_of_not_lt hlt) (by omega) hname.quote
  have hsame : s.start = r.start := by
    refine (Nat.eq_or_lt_of_le hfirst).resolve_right fun hlt ↦ ?_
    rw [hstart] at hlt hlast
    exact Nat.not_le_of_lt hlast (h.not_inside hs hcolon hm hlt)
  rw [hname.eq_of_isString s hstring hsame ⟨pos, hs.blanks, hcolon⟩]
  exact hs.hasString

end Tagged

end Highlighter.Builtin
