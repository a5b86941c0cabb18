import Highlighter.Proofs.Tokenize.Evaluation
import Highlighter.Proofs.Tokenize.Tokens

/-!
# Literals come last

Many a grammar marks its literals, which are comments, strings and characters, by one rule: an
alternation in which each kind of literal is a group with a scope and, at most, escapes to be marked
inside it. The rule is included at the end of the grammar (`Grammar.EndsInLiterals`). This module
tells what the tokens of a text look like then (`LiteralsLast`): those of literals and escapes come
after all others, and where two literals have text in common, they are the same.

Nothing here depends on which literals a language has.
-/

namespace Highlighter

/-! ## The rule for the literals -/

/-- Whether a pattern marks the groups of one expression, and not the whole matches. -/
structure Pattern.MarksGroups (p : Pattern) (source : String) : Prop where
  strategy : p.strategy = .ok (.single source)
  name : p.name = none
  whole : p.captures.lookup 0 = none

namespace Tokenizer

variable {k : Tokenizer} {p : Pattern} {r : Region} {m m' : Mark} {source : String}

theorem Takes.exists_group (hp : p.MarksGroups source) (h : k.Takes p r (.mark m)) :
    ∃ finds found group, k.table.get? source = some finds ∧ found ∈ finds.matchesIn k.text r ∧
      (group + 1, m.region) ∈ found.participating ∧
      captureName? p.captures (group + 1) = some m.scope := by
  obtain ⟨finds, found, group, hfinds, hfound, hg, hs⟩ := h.exists_participating hp.strategy
  rw [hp.name, Option.or_none] at hs
  cases group with
  | zero => simp [captureName?, hp.whole] at hs
  | succ group => exact ⟨finds, found, group, hfinds, hfound, hg, hs⟩

/-- Marks of an alternation that have text in common are the same. -/
theorem Takes.eq_of_overlaps (hp : p.MarksGroups source)
    (hfinds : ∀ finds, k.table.get? source = some finds → finds.IsAlternation)
    (h : k.Takes p r (.mark m)) (h' : k.Takes p r (.mark m'))
    (hoverlaps : m.region.Overlaps m'.region) : m = m' := by
  obtain ⟨finds, found, group, hget, hfound, hg, hs⟩ := h.exists_group hp
  obtain ⟨finds', found', group', hget', hfound', hg', hs'⟩ := h'.exists_group hp
  obtain rfl : finds = finds' := Option.some.inj (hget.symm.trans hget')
  obtain ⟨rfl, hregion⟩ := (hfinds finds hget).eq_of_overlaps (List.mem_filter.mp hfound).1
    (List.mem_filter.mp hfound').1 hg hg' hoverlaps
  have hscope : m.scope = m'.scope := Option.some.inj (hs.symm.trans hs')
  cases m
  cases m'
  cases hregion
  cases hscope
  rfl

end Tokenizer

/-! ## Grammars -/

/-- Whether a grammar includes a rule for literals at the end, after patterns that lead to some
other scopes only. The rule applies patterns for escapes to what it marks. -/
structure Grammar.EndsInLiterals (g : Grammar) (literals : Pattern) (others : List String)
    (escape : String) : Prop where
  patterns : ∃ front, g.patterns = front ++ [.including "#literals"] ∧
    ∀ p ∈ front, g.Confines others p
  resolve : g.resolve (.ofString "#literals") = [literals]
  marksGroups : ∃ source, literals.MarksGroups source
  children : ∀ q ∈ literals.children, g.Confines [escape] q
  /-- No scope is both that of a literal or an escape and that of something else. -/
  disjoint : ∀ scope ∈ escape :: literals.scopes, scope ∉ others
  escape_not_mem : escape ∉ literals.scopes

/-- Checks that a grammar ends in literals, following what patterns refer to for some steps. -/
theorem Grammar.EndsInLiterals.of_confinesWithin {g : Grammar} {literals : Pattern}
    {others : List String} {escape : String} (n : Nat)
    (hlast : g.patterns = g.patterns.dropLast ++ [.including "#literals"])
    (hresolve : g.resolve (.ofString "#literals") = [literals])
    (hmarks : ∃ source, literals.MarksGroups source)
    (hfront : ∀ p ∈ g.patterns.dropLast, g.confinesWithin others n p = true)
    (hchildren : ∀ q ∈ literals.children, g.confinesWithin [escape] n q = true)
    (hdisjoint : ∀ scope ∈ escape :: literals.scopes, scope ∉ others)
    (hescape : escape ∉ literals.scopes) : g.EndsInLiterals literals others escape where
  patterns := ⟨_, hlast, fun p hp ↦ confines_of_confinesWithin (hfront p hp)⟩
  resolve := hresolve
  marksGroups := hmarks
  children := fun q hq ↦ confines_of_confinesWithin (hchildren q hq)
  disjoint := hdisjoint
  escape_not_mem := hescape

/-- What is assumed of an engine for a grammar with literals: it compiles the expressions of all
enabled rules, and that for the literals is an alternation of groups. -/
structure Engine.Suits (engine : Engine) (g : Grammar) (literals : Pattern) : Prop where
  compiles : ∀ rule ∈ g.enabledRules, ∀ source ∈ rule.regexes, (engine source).isSome
  isAlternation : ∀ source finds, literals.strategy = .ok (.single source) →
    engine source = some finds → finds.IsAlternation

theorem Engine.suits_recorded {records : List (String × List Match)} {g : Grammar}
    {literals : Pattern} {source : String} {count : Nat} {found : List (Nat × Region)}
    (hsource : literals.strategy = .ok (.single source))
    (hfound : records.lookup source = some (Match.alternatives count found)) :
    (Engine.recorded records).Suits g literals where
  compiles := fun _ _ _ _ ↦ rfl
  isAlternation := by
    intro source' finds hsource' hfinds
    rw [hsource] at hsource'
    cases hsource'
    obtain rfl : .ofMatches (Match.alternatives count found) = finds := by
      simpa [recorded, hfound] using hfinds
    exact Searcher.isAlternation_ofMatches fun _ ↦ Match.isAlternative_of_mem_alternatives

namespace Tokenizer

variable {k : Tokenizer} {p : Pattern} {r : Region} {m : Mark} {following : List Frame}
  {target : RuleRef} {source : String}

/-- What an inclusion marks is marked by what it refers to. -/
theorem exists_mem_resolve_of_mem_made {target : String}
    (h : m ∈ k.made ⟨following, .including target, r⟩) :
    ∃ following', ∃ q ∈ k.grammar.resolve (.ofString target), m ∈ k.made ⟨following', q, r⟩ := by
  rcases mem_made.mp h with hs | ⟨c, hc, hm⟩
  · have hscope := hs.scope_mem
    simp [Pattern.scopes, Pattern.including] at hscope
  · rcases mem_calls.mp hc with ⟨q, r', hs, rfl⟩ | ⟨target', r', q, hs, -, hq, rfl⟩
    · have hchild := hs.mem_children
      simp [Pattern.children, Pattern.including] at hchild
    · obtain ⟨written, hwritten, rfl⟩ := hs.exists_target
      obtain rfl : target = written := Option.some.inj hwritten
      cases hs with
      | follow hp => exact ⟨_, q, hq, hm⟩

/-- What the rule for the literals marks is a literal or an escape. -/
theorem takes_or_scope_eq_of_mem_made {escape : String} (hp : p.MarksGroups source)
    (hchildren : ∀ q ∈ p.children, k.grammar.Confines [escape] q)
    (h : m ∈ k.made ⟨following, p, r⟩) : k.Takes p r (.mark m) ∨ m.scope = escape := by
  refine (takes_or_exists_scope_mem hp.strategy h).imp_right ?_
  rintro ⟨q, hq, hscope⟩
  exact List.mem_singleton.mp (hscope _ (hchildren q hq))

variable {literals : Pattern} {others : List String} {escape : String}

/-- The marks of a text are those of other scopes, and then those of literals and escapes. -/
theorem exists_parts (hg : k.grammar.EndsInLiterals literals others escape) :
    ∃ front back, k.topCalls.flatMap k.made = front ++ back ∧
      (∀ m ∈ front, m.scope ∈ others) ∧
      ∀ m ∈ back, k.Takes literals ⟨0, k.text.size, Nat.zero_le _⟩ (.mark m) ∨
        m.scope = escape := by
  obtain ⟨front, hpatterns, hfront⟩ := hg.patterns
  obtain ⟨source, hmarks⟩ := hg.marksGroups
  let whole : Region := ⟨0, k.text.size, Nat.zero_le _⟩
  refine ⟨(front.map fun p ↦ ⟨[], p, whole⟩).flatMap k.made,
    k.made ⟨[], .including "#literals", whole⟩, ?_, fun m hm ↦ ?_, fun m hm ↦ ?_⟩
  · rw [topCalls, hpatterns, List.map_append, List.flatMap_append, List.map_singleton,
      List.flatMap_singleton]
  · obtain ⟨c, hc, hm⟩ := List.mem_flatMap.mp hm
    obtain ⟨p, hp, rfl⟩ := List.mem_map.mp hc
    exact scope_mem_of_mem_made (hfront p hp) hm
  · obtain ⟨following, q, hq, hm⟩ := exists_mem_resolve_of_mem_made hm
    rw [hg.resolve, List.mem_singleton] at hq
    exact takes_or_scope_eq_of_mem_made hmarks hg.children (hq ▸ hm)

/-- A mark with the scope of a literal is made by the rule for the literals. -/
theorem takes_of_scope_mem (hg : k.grammar.EndsInLiterals literals others escape)
    (hm : m ∈ k.topCalls.flatMap k.made) (hscope : m.scope ∈ literals.scopes) :
    k.Takes literals ⟨0, k.text.size, Nat.zero_le _⟩ (.mark m) := by
  obtain ⟨front, back, hparts, hfront, hback⟩ := exists_parts hg
  rw [hparts] at hm
  rcases List.mem_append.mp hm with hm | hm
  · exact absurd (hfront m hm) (hg.disjoint m.scope (List.mem_cons_of_mem escape hscope))
  · refine (hback m hm).resolve_right fun heq ↦ hg.escape_not_mem ?_
    rwa [← heq]

/-- The expression of the literals is compiled to an alternation. -/
theorem isAlternation_of_get?_eq_some {engine : Engine} {source : String}
    (hengine : engine.Suits k.grammar literals)
    (hcompile : RuleTable.compile engine k.grammar = .ok k.table)
    (hg : k.grammar.EndsInLiterals literals others escape) (hp : literals.MarksGroups source)
    (henabled : literals.isDisabled = false) {finds : Searcher}
    (hfinds : k.table.get? source = some finds) : finds.IsAlternation := by
  have hliterals : literals ∈ k.grammar.resolve (.ofString "#literals") := by simp [hg.resolve]
  have henables : k.grammar.Enables literals := .of_mem_resolve hliterals henabled
  obtain ⟨finds', hcompiles, hget⟩ := henables.exists_get?_eq_some hcompile hp.strategy
  obtain rfl : finds = finds' := Option.some.inj (hfinds.symm.trans hget)
  exact hengine.isAlternation source finds hp.strategy hcompiles

/-- **Literals that have text in common are the same.** -/
theorem eq_of_overlaps_of_scope_mem {engine : Engine} {m' : Mark}
    (hengine : engine.Suits k.grammar literals)
    (hcompile : RuleTable.compile engine k.grammar = .ok k.table)
    (hg : k.grammar.EndsInLiterals literals others escape)
    (hm : m ∈ k.topCalls.flatMap k.made) (hscope : m.scope ∈ literals.scopes)
    (hm' : m' ∈ k.topCalls.flatMap k.made) (hscope' : m'.scope ∈ literals.scopes)
    (hoverlaps : m.region.Overlaps m'.region) : m = m' := by
  obtain ⟨source, hmarks⟩ := hg.marksGroups
  have hs := takes_of_scope_mem hg hm hscope
  have hs' := takes_of_scope_mem hg hm' hscope'
  exact hs.eq_of_overlaps hmarks
    (fun _ ↦ isAlternation_of_get?_eq_some hengine hcompile hg hmarks hs.isDisabled_eq_false) hs'
    hoverlaps

end Tokenizer

/-! ## Tokens -/

/-- Whether in a list of tokens those of literals and escapes come last, and literals that have text
in common are the same. -/
structure LiteralsLast (literals others : List String) (escape : String) (tokens : List Token) :
    Prop where
  disjoint : ∀ scope ∈ escape :: literals, scope ∉ others
  parts : ∃ front back, tokens = front ++ back ∧ (∀ t ∈ front, t.scope ∈ others) ∧
    ∀ t ∈ back, t.scope ∈ escape :: literals
  unique : ∀ t ∈ tokens, ∀ t' ∈ tokens, t.scope ∈ literals → t'.scope ∈ literals →
    ∀ offset, t.start ≤ offset → offset < t.stop → t'.start ≤ offset → offset < t'.stop → t = t'

/-- Marks whose tokens have an offset in common have text in common. -/
theorem Source.overlaps_of_offset {s : Source} {m m' : Mark} {offset : Nat}
    (h : m.region.stop ≤ s.size) (h' : m'.region.stop ≤ s.size)
    (hle : (s.token m).start ≤ offset) (hlt : offset < (s.token m).stop)
    (hle' : (s.token m').start ≤ offset) (hlt' : offset < (s.token m').stop) :
    m.region.Overlaps m'.region := by
  have hlt_stop : ∀ {r r' : Region}, r.stop ≤ s.size → s.offset r.start ≤ offset →
      offset < s.offset r'.stop → r.start < r'.stop := by
    intro r r' hr hle hlt
    by_contra hnot
    have := offset_le_offset (Nat.le_of_not_lt hnot) (Nat.le_trans r.start_le_stop hr)
    omega
  exact ⟨hlt_stop h hle hlt', hlt_stop h' hle' hlt⟩

/-- **Literals come last** in the tokens of a grammar that ends in literals, and those that have
text in common are the same. -/
theorem literalsLast_tokenize {engine : Engine} {g : Grammar} {table : RuleTable}
    {literals : Pattern} {others : List String} {escape text : String} {options : TokenizeOptions}
    {tokens : List Token} (hg : g.EndsInLiterals literals others escape)
    (hengine : engine.Suits g literals) (hcompile : RuleTable.compile engine g = .ok table)
    (htokens : tokenize engine g text options = .ok tokens) :
    LiteralsLast literals.scopes others escape tokens := by
  let k := g.tokenizer table (.ofString text) options
  obtain rfl : tokens = (k.topCalls.flatMap k.made).map (Source.ofString text).token :=
    Except.ok.inj (htokens.symm.trans (tokenize_eq_ok hcompile text options))
  refine ⟨hg.disjoint, ?_, fun t ht t' ht' hscope hscope' offset hle hlt hle' hlt' ↦ ?_⟩
  · obtain ⟨front, back, hparts, hfront, hback⟩ := Tokenizer.exists_parts (k := k) hg
    refine ⟨_, _, by rw [hparts, List.map_append], fun t ht ↦ ?_, fun t ht ↦ ?_⟩
    · obtain ⟨m, hm, rfl⟩ := List.mem_map.mp ht
      exact hfront m hm
    · obtain ⟨m, hm, rfl⟩ := List.mem_map.mp ht
      exact List.mem_cons.mpr ((hback m hm).symm.imp id Tokenizer.Takes.scope_mem)
  · obtain ⟨m, hm, rfl⟩ := List.mem_map.mp ht
    obtain ⟨m', hm', rfl⟩ := List.mem_map.mp ht'
    have hstop : ∀ {m}, m ∈ k.topCalls.flatMap k.made → m.scope ∈ literals.scopes →
        m.region.stop ≤ (Source.ofString text).size := fun hm hscope ↦
      ((Tokenizer.takes_of_scope_mem hg hm hscope).within rfl).2
    have hoverlaps := Source.overlaps_of_offset (hstop hm hscope) (hstop hm' hscope') hle hlt
      hle' hlt'
    rw [Tokenizer.eq_of_overlaps_of_scope_mem (k := k) hengine hcompile hg hm hscope hm' hscope'
      hoverlaps]

end Highlighter
