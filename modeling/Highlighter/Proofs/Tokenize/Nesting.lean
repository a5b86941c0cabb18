import Highlighter.Proofs.Search.Leftmost
import Highlighter.Proofs.Spans.Literals
import Highlighter.Proofs.Tokenize.LiteralOrder

/-!
# What encloses comes first

A rule is applied in rounds, one for each match of a single expression or each block. A round first
marks what it covers as a whole. Then come the marks of groups and interiors and whatever the
patterns below lead to, and all of that lies in what the round covers. So the tokens of a round are
neighbours in the tokens of the text, the enclosing one first, and at equal rank whatever is nested
lies over what encloses it (`tokenize_encloses`).

Where the patterns below a match are applied to more than the match, this fails: it is about options
that confine them. That groups lie within their match is an assumption on the engine.
-/

namespace Highlighter

/-! ## Groups within their match -/

/-- Whether the groups of what is found lie within the whole match. -/
def Searcher.GroupsWithin (s : Searcher) : Prop :=
  ∀ text pos m, s.find text pos = some m → ∀ r, some r ∈ m.1.groups → r.Within m.1.whole

/-- What is assumed of an engine: the groups of every expression lie within the whole match. -/
def Engine.GroupsWithin (engine : Engine) : Prop :=
  ∀ source finds, engine source = some finds → finds.GroupsWithin

section Groups

variable {finds opens closes : Searcher} {text : Array Char} {pos group : Nat} {m : Match}
  {r : Region}

theorem Searcher.GroupsWithin.within (h : finds.GroupsWithin)
    {m : { m : Match // m.Between pos text.size }} (hfind : finds.find text pos = some m)
    (hg : (group, r) ∈ m.1.participating) : r.Within m.1.whole := by
  rcases List.mem_cons.mp (Match.mem_allGroups_of_mem_participating hg) with hr | hr
  · obtain rfl := Option.some.inj hr
    exact .refl _
  · exact h text pos m hfind r hr

end Groups

/-- The table of a grammar has what the engine makes of each expression. -/
theorem RuleTable.engine_eq_of_get? {engine : Engine} {g : Grammar} {table : RuleTable}
    (hcompile : RuleTable.compile engine g = .ok table) {source : String} {finds : Searcher}
    (h : table.get? source = some finds) : engine source = some finds := by
  have hgrows : Grows engine empty table :=
    grows_of_foldlM (fun _ _ _ h ↦ grows_of_addRule h) hcompile
  exact (hgrows.compiles h).resolve_left (by simp [empty, get?])

/-! ## Rounds -/

namespace Tokenizer

variable {k : Tokenizer} {p : Pattern} {r r' whole : Region} {scope : String}
  {scope? : Option String} {steps : List Step} {s : Step} {following : List Frame} {c c' : Call}
  {m : Mark}

/-- The rounds of a rule in a region: what a round covers, with which scope, and its steps. -/
inductive HasRound (k : Tokenizer) (p : Pattern) (r : Region) :
    Region → Option String → List Step → Prop
  /-- A match of a single expression. The scope may be that of group 0. -/
  | single {m : Match} (hm : k.HasMatch p r m) :
      HasRound k p r m.whole ((captureName? p.captures 0).or p.name)
        (p.matchSteps k.options.nestedScope m)
  /-- A block, from its opening match to its closing match. -/
  | block {b : Block (k.text.extract 0 r.stop).size} (hb : k.HasBlock p r b) :
      HasRound k p r b.whole p.name (p.blockSteps b)

theorem markSteps_of_isEmpty_eq_false (hr : whole.isEmpty = false) (scope : String) :
    markSteps whole (some scope) = [.mark ⟨whole, scope⟩] := by
  simp [markSteps, tag, hr]

/-- A round first marks what it covers. -/
theorem HasRound.exists_steps_eq (h : k.HasRound p r whole (some scope) steps)
    (hr : whole.isEmpty = false) : ∃ rest, steps = .mark ⟨whole, scope⟩ :: rest := by
  generalize hscope : some scope = scope? at h
  cases h with
  | @single found hm =>
    -- Group 0 comes first and is the whole match.
    obtain ⟨groups, hgroups⟩ : ∃ groups, found.participating = (0, found.whole) :: groups :=
      ⟨_, rfl⟩
    have hmark : singleMark p.toRule p.captures found.whole 0 found.whole =
        [.mark ⟨found.whole, scope⟩] := by
      rw [← markSteps_of_isEmpty_eq_false hr scope, hscope]
      simp [singleMark]
    rw [Pattern.matchSteps, Match.groupSteps, hgroups, List.flatMap_cons]
    dsimp only
    rw [hmark, List.append_assoc, List.append_assoc, List.singleton_append]
    exact ⟨_, rfl⟩
  | block hb =>
    rw [Pattern.blockSteps, ← hscope, markSteps_of_isEmpty_eq_false hr scope, List.append_assoc,
      List.append_assoc, List.singleton_append]
    exact ⟨_, rfl⟩

/-- The steps of a round are neighbours in the steps of the rule. -/
theorem HasRound.infix_steps (h : k.HasRound p r whole scope? steps) : steps <:+: k.steps p r := by
  cases h with
  | single hm =>
    obtain ⟨source, finds, ⟨hp, hs⟩, hfinds, hm⟩ := hm
    simp only [Tokenizer.steps, hp, hs, hfinds, Pattern.singleSteps]
    refine List.infix_append_of_infix_left ?_
    exact List.infix_of_mem_flatten (List.mem_map_of_mem hm)
  | block hb =>
    obtain ⟨begins, ends, opens, closes, ⟨hp, hs⟩, hopens, hcloses, hb⟩ := hb
    simp only [Tokenizer.steps, hp, hs, hopens, hcloses]
    exact List.infix_of_mem_flatten (List.mem_map_of_mem hb)

/-- A rule that has an expression does nothing outside its rounds, if the patterns below a match are
confined to it. -/
theorem exists_hasRound (hnested : k.options.nestedScope = .confined)
    (hp : (∃ source, p.Uses (.single source)) ∨ ∃ begins ends, p.Uses (.block begins ends))
    (hs : s ∈ k.steps p r) :
    ∃ whole scope? steps, k.HasRound p r whole scope? steps ∧ s ∈ steps := by
  rcases hp with ⟨source, hp, hstrategy⟩ | ⟨begins, ends, hp, hstrategy⟩
  · simp only [Tokenizer.steps, hp, hstrategy, Bool.false_eq_true, if_false] at hs
    split at hs
    · next finds hfinds =>
      obtain ⟨m, hm, hs | ⟨hwhole, -⟩⟩ := mem_singleSteps.mp hs
      · exact ⟨_, _, _, .single ⟨source, finds, ⟨hp, hstrategy⟩, hfinds, hm⟩, hs⟩
      · rw [hnested] at hwhole
        cases hwhole
    · cases hs
  · simp only [Tokenizer.steps, hp, hstrategy, Bool.false_eq_true, if_false] at hs
    split at hs
    · next opens closes hopens hcloses =>
      obtain ⟨b, hb, hs⟩ := List.mem_flatMap.mp hs
      exact ⟨_, _, _,
        .block ⟨begins, ends, opens, closes, ⟨hp, hstrategy⟩, hopens, hcloses, hb⟩, hs⟩
    · cases hs

/-- What is assumed of the expressions of a tokenizer: groups lie within their match. -/
def GroupsWithin (k : Tokenizer) : Prop :=
  ∀ source finds, k.table.get? source = some finds → finds.GroupsWithin

theorem HasMatch.group_within {found : Match} {group : Nat} (hgroups : k.GroupsWithin)
    (hm : k.HasMatch p r found) (hg : (group, r') ∈ found.participating) :
    r'.Within found.whole := by
  obtain ⟨source, finds, -, hfinds, hm⟩ := hm
  obtain ⟨pos, m', hfind, rfl⟩ := exists_find_of_mem_matchesFrom (List.mem_filter.mp hm).1
  exact (hgroups source finds hfinds).within hfind hg

theorem HasBlock.group_within {b : Block (k.text.extract 0 r.stop).size} {found : Match}
    {captures : List (Nat × Capture Pattern)} {group : Nat} (hgroups : k.GroupsWithin)
    (hb : k.HasBlock p r b) (he : (found, captures) ∈ p.edges b)
    (hg : (group, r') ∈ found.participating) : r'.Within b.whole := by
  obtain ⟨begins, ends, opens, closes, -, hopens, hcloses, hb⟩ := hb
  obtain ⟨pos, m', hfind, hm'⟩ := exists_find_opening hb
  have hclosing := closing_eq_of_mem_blocksFrom hb
  rcases List.mem_cons.mp he with h | h
  · cases h
    rw [← hm'] at hg
    have hwithin := (hgroups begins opens hopens).within hfind hg
    rw [hm'] at hwithin
    exact hwithin.trans b.opening_within_whole
  · obtain ⟨found', hfound, h⟩ := List.mem_map.mp h
    cases h
    rw [Option.mem_toList.mp hfound] at hclosing
    exact ((hgroups ends closes hcloses).within hclosing.symm hg).trans
      (b.closing_within_whole (Option.mem_toList.mp hfound))

/-- **The steps of a round** stay in what the round covers. -/
theorem HasRound.within (hgroups : k.GroupsWithin) (h : k.HasRound p r whole scope? steps)
    (hs : s ∈ steps) (hr : s.region? = some r') : r'.Within whole := by
  cases h with
  | single hm =>
    rcases mem_matchSteps.mp hs with
      ⟨group, r'', hg, ⟨scope, -, -, rfl⟩ | ⟨q, -, rfl⟩⟩ | ⟨-, q, -, rfl⟩
    · obtain rfl := Option.some.inj hr
      exact hm.group_within hgroups hg
    · obtain rfl := Option.some.inj hr
      exact hm.group_within hgroups hg
    · obtain rfl := Option.some.inj hr
      exact .refl _
  | @block b hb =>
    rcases mem_blockSteps.mp hs with ⟨scope, -, -, rfl⟩ | ⟨scope, -, -, rfl⟩ |
      ⟨found, captures, he, group, r'', hg, ⟨scope, -, -, rfl⟩ | ⟨q, -, rfl⟩⟩ | ⟨q, -, rfl⟩
    · obtain rfl := Option.some.inj hr
      exact .refl _
    · obtain rfl := Option.some.inj hr
      exact b.interior_within_whole
    · obtain rfl := Option.some.inj hr
      exact hb.group_within hgroups he hg
    · obtain rfl := Option.some.inj hr
      exact hb.group_within hgroups he hg
    · obtain rfl := Option.some.inj hr
      exact b.interior_within_whole

theorem HasRound.whole_within (h : k.HasRound p r whole scope? steps) : whole.Within r := by
  cases h with
  | single hm => exact hm.within (Match.zero_mem_participating _)
  | block hb => exact hb.whole_within

/-! ## Marks of rounds -/

theorem infix_flatMap {α β : Type} {l l' : List α} (f : α → List β) (h : l <:+: l') :
    l.flatMap f <:+: l'.flatMap f := by
  obtain ⟨front, back, rfl⟩ := h
  exact ⟨front.flatMap f, back.flatMap f, by simp only [List.flatMap_append]⟩

/-- The marks of a call that is made are neighbours in the marks of the call that makes it. -/
theorem made_infix_made (h : c' ∈ k.calls c) : k.made c' <:+: k.made c := by
  obtain ⟨s, hs, hc'⟩ := List.mem_flatMap.mp h
  have hstep : k.made c' <:+: k.marksOf c.following s :=
    (List.infix_of_mem_flatten (List.mem_map_of_mem hc')).trans List.infix_append_right
  rw [k.made_eq c]
  exact hstep.trans (List.infix_of_mem_flatten (List.mem_map_of_mem hs))

theorem Reached.made_infix (h : k.Reached c) : k.made c <:+: k.topCalls.flatMap k.made := by
  induction h with
  | top h => exact List.infix_of_mem_flatten (List.mem_map_of_mem h)
  | call _ hc ih => exact (made_infix_made hc).trans ih

/-- **The marks of a round** are neighbours in the marks of the text. The first one marks what the
round covers, and the others lie within it. -/
theorem Reached.exists_marks_of_hasRound (hgroups : k.GroupsWithin) (hc : k.Reached c)
    (h : k.HasRound c.pattern c.region whole (some scope) steps) (hr : whole.isEmpty = false) :
    ∃ inner, steps.flatMap (k.marksOf c.following) = ⟨whole, scope⟩ :: inner ∧
      (∀ m ∈ inner, m.region.Within whole) ∧
      ⟨whole, scope⟩ :: inner <:+: k.topCalls.flatMap k.made := by
  obtain ⟨rest, rfl⟩ := h.exists_steps_eq hr
  have heq : (.mark ⟨whole, scope⟩ :: rest).flatMap (k.marksOf c.following) =
      ⟨whole, scope⟩ :: rest.flatMap (k.marksOf c.following) := by
    rw [List.flatMap_cons]
    rfl
  have hinfix := infix_flatMap (k.marksOf c.following) h.infix_steps
  rw [heq, ← k.made_eq c] at hinfix
  refine ⟨_, heq, fun m hm ↦ ?_, hinfix.trans hc.made_infix⟩
  obtain ⟨s, hs, hm⟩ := List.mem_flatMap.mp hm
  have hs : s ∈ .mark ⟨whole, scope⟩ :: rest := List.mem_cons_of_mem _ hs
  cases hregion : s.region? with
  | none =>
    rw [marksOf_of_region?_eq_none hregion] at hm
    cases hm
  | some r' =>
    exact (within_of_mem_marksOf hregion hm).trans (h.within hgroups hs hregion)

end Tokenizer

/-! ## Tokens of rounds -/

/-- What it means for a token to enclose others in a list of tokens, where it has a place. -/
structure Encloses (tokens : List Token) (size place : Nat) (outer : Token) (inner : List Token) :
    Prop where
  /-- The others come right after the token. -/
  follow : ∃ before after, tokens = before ++ (outer :: inner) ++ after ∧ before.length = place
  /-- The others lie within the token. -/
  within : ∀ e ∈ inner, outer.start ≤ e.start ∧ e.stop ≤ outer.stop
  /-- Where one of the others covers an offset and ranks at least as high, what is shown lies over
  the token. -/
  shown : ∀ (t : Theme) policy, ∀ e ∈ inner, ∀ offset, e.Covers size offset →
    t.rank policy outer ≤ t.rank policy e →
    ∃ place' top, IsTopAt t policy size tokens offset place' top ∧
      (t.rank policy outer < t.rank policy top ∨
        t.rank policy outer = t.rank policy top ∧ place < place') ∧
      IsShownAt (spansOf t policy size tokens) offset (t.resolve policy top.scope).style

/-- Tokens that come after another one lie over it, unless they rank lower. -/
theorem encloses_append {before after inner : List Token} {outer : Token} {size : Nat}
    (hwithin : ∀ e ∈ inner, outer.start ≤ e.start ∧ e.stop ≤ outer.stop) :
    Encloses (before ++ (outer :: inner) ++ after) size before.length outer inner where
  follow := ⟨before, after, rfl, rfl⟩
  within := hwithin
  shown := by
    intro t policy e he offset hc hrank
    obtain ⟨i, hi⟩ := List.getElem?_of_mem he
    have hplace : (before ++ (outer :: inner) ++ after)[before.length + (i + 1)]? = some e := by
      have hlt : i < inner.length := (List.getElem?_eq_some_iff.mp hi).1
      rw [List.append_assoc, List.getElem?_append_right (Nat.le_add_right _ _),
        Nat.add_sub_cancel_left, List.getElem?_append_left (by simpa using hlt),
        List.getElem?_cons_succ, hi]
    have hlt : offset < size := Nat.lt_of_lt_of_le hc.2 (Nat.min_le_right _ _)
    obtain ⟨place', top, htop⟩ : ∃ place' top, IsTopAt t policy size _ offset place' top :=
      exists_isTopAt (List.mem_of_getElem? hplace) hc
    refine ⟨place', top, htop, ?_, isShownAt_spansOf hlt htop.isStyleAt⟩
    rcases htop.top _ e hplace hc with hover | ⟨heq, hle⟩
    · exact .inl (Int.lt_of_le_of_lt hrank hover)
    · rw [← heq]
      rcases Int.lt_or_eq_of_le hrank with hover | heq'
      · exact .inl hover
      · exact .inr ⟨heq', by omega⟩

/-- What it means for the rounds of a call to enclose what they lead to. -/
structure Tokenizer.RoundsEnclose (k : Tokenizer) (text : String) (tokens : List Token)
    (c : Call) : Prop where
  /-- What a rule with an expression does belongs to some round. -/
  covered : ((∃ source, c.pattern.Uses (.single source)) ∨
      ∃ begins ends, c.pattern.Uses (.block begins ends)) →
    ∀ s ∈ k.steps c.pattern c.region, ∃ whole scope? steps,
      k.HasRound c.pattern c.region whole scope? steps ∧ s ∈ steps
  /-- The token of what a round covers, if it has an extent and a scope, is the first token that the
  round leads to and encloses the others. -/
  encloses : ∀ whole scope steps, k.HasRound c.pattern c.region whole (some scope) steps →
    whole.isEmpty = false → ∃ place inner,
      (steps.flatMap (k.marksOf c.following)).map (Source.ofString text).token =
        (Source.ofString text).token ⟨whole, scope⟩ :: inner ∧
      Encloses tokens text.utf8ByteSize place ((Source.ofString text).token ⟨whole, scope⟩) inner

/-- **What encloses comes first.** In every text, each round of a rule whose whole has an extent and
a scope makes the token of the whole first. All other tokens that the round leads to come right
after it and lie within it, and where they rank as high they lie over it. -/
theorem tokenize_encloses {engine : Engine} {g : Grammar} {table : RuleTable}
    {options : TokenizeOptions} (hengine : engine.GroupsWithin)
    (hnested : options.nestedScope = .confined)
    (hcompile : RuleTable.compile engine g = .ok table) (text : String) :
    ∃ tokens, tokenize engine g text options = .ok tokens ∧
      ∀ c, (g.tokenizer table (.ofString text) options).Reached c →
        (g.tokenizer table (.ofString text) options).RoundsEnclose text tokens c := by
  let k := g.tokenizer table (.ofString text) options
  have hgroups : k.GroupsWithin := fun source finds hget ↦
    hengine source finds (RuleTable.engine_eq_of_get? hcompile hget)
  refine ⟨_, tokenize_eq_ok hcompile text options, fun c hc ↦
    ⟨fun hp s hs ↦ Tokenizer.exists_hasRound hnested hp hs, fun whole scope steps h hr ↦ ?_⟩⟩
  obtain ⟨inner, heq, hwithin, before, after, htokens⟩ :=
    hc.exists_marks_of_hasRound (k := k) hgroups h hr
  have hstop : whole.stop ≤ (Source.ofString text).size :=
    Nat.le_trans h.whole_within.2 hc.isSound.stop_le
  refine ⟨(before.map (Source.ofString text).token).length,
    inner.map (Source.ofString text).token, ?_, ?_⟩
  · rw [heq, List.map_cons]
  · rw [← htokens, List.map_append, List.map_append, List.map_cons]
    refine encloses_append fun e he ↦ ?_
    obtain ⟨m, hm, rfl⟩ := List.mem_map.mp he
    exact Source.token_within (hwithin m hm) hstop

theorem groupsWithin_letterEngine : letterEngine.GroupsWithin := by
  intro source finds hsource text pos m hm r hr
  unfold letterEngine at hsource
  split at hsource
  · obtain rfl := Option.some.inj hsource
    unfold Searcher.letter at hm
    dsimp only at hm
    split at hm
    · cases hm
    · obtain rfl := Option.some.inj hm
      cases hr
  · cases hsource

/-- A grammar with a rule that refers to another one for what it matches. -/
def nestingGrammar : Grammar :=
  (Grammar.new "source.test").withPattern
      (((Pattern.single "x").named "string").withPatterns [.including "#a"])
    |>.withRule "a" ((Pattern.single "x").named "keyword")

theorem tokenize_nestingGrammar_encloses :
    letterEngine.GroupsWithin ∧
    RuleTable.compile letterEngine nestingGrammar = .ok cyclicTable ∧
    tokenize letterEngine nestingGrammar "x" {} =
      .ok [⟨0, 1, "string", "x"⟩, ⟨0, 1, "keyword", "x"⟩] ∧
    ∃ c steps, (nestingGrammar.tokenizer cyclicTable (.ofString "x") {}).HasRound c.pattern c.region
        ⟨0, 1, Nat.zero_le 1⟩ (some "string") steps ∧
      (nestingGrammar.tokenizer cyclicTable (.ofString "x") {}).RoundsEnclose "x"
        [⟨0, 1, "string", "x"⟩, ⟨0, 1, "keyword", "x"⟩] c := by
  have hcompile : RuleTable.compile letterEngine nestingGrammar = .ok cyclicTable := rfl
  have htokens : tokenize letterEngine nestingGrammar "x" {} =
      .ok [⟨0, 1, "string", "x"⟩, ⟨0, 1, "keyword", "x"⟩] :=
    tokenize_eq_ok_of_tokenizeUpTo (n := 4) (by decide +kernel)
  have hnested : ({} : TokenizeOptions).nestedScope = .confined := rfl
  obtain ⟨tokens, hok, hencloses⟩ :=
    tokenize_encloses groupsWithin_letterEngine hnested hcompile "x"
  obtain rfl := Except.ok.inj (htokens.symm.trans hok)
  let k := nestingGrammar.tokenizer cyclicTable (.ofString "x") {}
  have hround : k.HasMatch (nestingGrammar.patterns.head (by decide)) ⟨0, 1, Nat.zero_le 1⟩
      ⟨⟨0, 1, Nat.zero_le 1⟩, []⟩ :=
    ⟨"x", .letter 'x', ⟨rfl, rfl⟩, rfl, by decide +kernel⟩
  exact ⟨groupsWithin_letterEngine, hcompile, htokens, _, _, .single hround,
    hencloses _ (.top (List.mem_singleton_self _))⟩

end Highlighter
