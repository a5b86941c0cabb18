import Highlighter.Tokenize.Step

/-!
# What a pattern may do

The steps of a pattern in a region, told case by case: one for each kind of rule and each part of
the grammar that a step can come from. `Tokenizer.mem_steps_iff` says that these are the steps that
are listed. Whatever holds of every step is proved from the cases and not from the list.

A group that repeats the mark of the whole match is not marked again. The cases do not mention
this, because the mark is among the steps nevertheless.
-/

namespace Highlighter

/-- Whether a pattern is enabled, and is applied in some way. -/
def Pattern.Uses (p : Pattern) (s : Strategy) : Prop := p.isDisabled = false ∧ p.strategy = .ok s

namespace Tokenizer

/-- Whether a match is one of those that a pattern has in a region. -/
def HasMatch (k : Tokenizer) (p : Pattern) (r : Region) (m : Match) : Prop :=
  ∃ source finds, p.Uses (.single source) ∧ k.table.get? source = some finds ∧
    m ∈ finds.matchesIn k.text r

/-- Whether a block is one of those that a pattern has in a region. -/
def HasBlock (k : Tokenizer) (p : Pattern) (r : Region)
    (b : Block (k.text.extract 0 r.stop).size) : Prop :=
  ∃ begins ends opens closes, p.Uses (.block begins ends) ∧ k.table.get? begins = some opens ∧
    k.table.get? ends = some closes ∧ b ∈ opens.blocksIn closes k.text r

/-- What a pattern does in a region. -/
inductive Takes (k : Tokenizer) (p : Pattern) (r : Region) : Step → Prop
  /-- A faulty rule gives up. -/
  | fail {e : GrammarError} (hp : p.isDisabled = false) (he : p.strategy = .error e) :
      Takes k p r (.fail e)
  /-- A group applies the patterns below it to the region. -/
  | child {q : Pattern} (hp : p.Uses .group) (hq : q ∈ p.patterns) : Takes k p r (.apply q r)
  /-- A reference is followed on the region. -/
  | follow {target : RuleRef} (hp : p.Uses (.reference target)) : Takes k p r (.follow target r)
  /-- A group of a match is marked with its own scope, or else with that of the rule. -/
  | matchGroup {m : Match} {group : Nat} {r' : Region} {scope : String} (hm : k.HasMatch p r m)
      (hg : (group, r') ∈ m.participating)
      (hs : (captureName? p.captures group).or p.name = some scope) (hr : r'.isEmpty = false) :
      Takes k p r (.mark ⟨r', scope⟩)
  /-- The patterns that are assigned to a group of a match are applied to the group. -/
  | matchCapture {m : Match} {group : Nat} {r' : Region} {q : Pattern} (hm : k.HasMatch p r m)
      (hg : (group, r') ∈ m.participating) (hq : q ∈ capturePatterns p.captures group) :
      Takes k p r (.apply q r')
  /-- The patterns below are applied to a match. -/
  | confined {m : Match} {q : Pattern} (hm : k.HasMatch p r m)
      (hn : k.options.nestedScope = .confined) (hq : q ∈ p.patterns) :
      Takes k p r (.apply q m.whole)
  /-- The patterns below are applied to the region, if there is a match. -/
  | wholeBuffer {m : Match} {q : Pattern} (hm : k.HasMatch p r m)
      (hn : k.options.nestedScope = .wholeBuffer) (hq : q ∈ p.patterns) : Takes k p r (.apply q r)
  /-- A block is marked. -/
  | block {b : Block (k.text.extract 0 r.stop).size} {scope : String} (hb : k.HasBlock p r b)
      (hs : p.name = some scope) (hr : b.whole.isEmpty = false) :
      Takes k p r (.mark ⟨b.whole, scope⟩)
  /-- The interior of a block is marked. -/
  | interior {b : Block (k.text.extract 0 r.stop).size} {scope : String} (hb : k.HasBlock p r b)
      (hs : p.contentName = some scope) (hr : b.interior.isEmpty = false) :
      Takes k p r (.mark ⟨b.interior, scope⟩)
  /-- A group of an opening or closing match is marked with its own scope. The whole match may have
  that of the rule. -/
  | edgeGroup {b : Block (k.text.extract 0 r.stop).size} {m : Match}
      {captures : List (Nat × Capture Pattern)} {group : Nat} {r' : Region} {scope : String}
      (hb : k.HasBlock p r b) (he : (m, captures) ∈ p.edges b) (hg : (group, r') ∈ m.participating)
      (hs : (captureName? captures group).or (if group = 0 then p.name else none) = some scope)
      (hr : r'.isEmpty = false) : Takes k p r (.mark ⟨r', scope⟩)
  /-- The patterns that are assigned to a group of an opening or closing match are applied to the
  group. -/
  | edgeCapture {b : Block (k.text.extract 0 r.stop).size} {m : Match}
      {captures : List (Nat × Capture Pattern)} {group : Nat} {r' : Region} {q : Pattern}
      (hb : k.HasBlock p r b) (he : (m, captures) ∈ p.edges b) (hg : (group, r') ∈ m.participating)
      (hq : q ∈ capturePatterns captures group) : Takes k p r (.apply q r')
  /-- The patterns below are applied to the interior of a block. -/
  | inside {b : Block (k.text.extract 0 r.stop).size} {q : Pattern} (hb : k.HasBlock p r b)
      (hq : q ∈ p.patterns) : Takes k p r (.apply q b.interior)

end Tokenizer

/-! ## The steps of the parts -/

section Parts

variable {p : Pattern} {r : Region} {s : Step} {captures : List (Nat × Capture Pattern)}

theorem mem_markSteps {scope? : Option String} : s ∈ markSteps r scope? ↔
    ∃ scope, scope? = some scope ∧ r.isEmpty = false ∧ s = .mark ⟨r, scope⟩ := by
  cases scope? with
  | none => simp [markSteps, tag]
  | some scope => cases h : r.isEmpty <;> simp [markSteps, tag, h]

theorem mem_applySteps {patterns : List Pattern} :
    s ∈ applySteps patterns r ↔ ∃ q ∈ patterns, s = .apply q r := by
  simp [applySteps, eq_comm]

theorem mem_groupSteps {m : Match} {mark : Nat → Region → List Step} :
    s ∈ m.groupSteps captures mark ↔ ∃ group r', (group, r') ∈ m.participating ∧
      (s ∈ mark group r' ∨ ∃ q ∈ capturePatterns captures group, s = .apply q r') := by
  simp only [Match.groupSteps, List.mem_flatMap, List.mem_append, mem_applySteps, Prod.exists]

theorem mem_singleMark {rule : Rule} {whole : Region} {group : Nat} {r' : Region}
    (h : s ∈ singleMark rule captures whole group r') :
    ∃ scope, (captureName? captures group).or rule.name = some scope ∧ r'.isEmpty = false ∧
      s = .mark ⟨r', scope⟩ := by
  unfold singleMark at h
  dsimp only at h
  split at h
  · exact mem_markSteps.1 h
  · simp at h

/-- A group that is not marked again has the mark of the whole match. -/
theorem exists_mem_singleMark {rule : Rule} {m : Match} {group : Nat} {r' : Region}
    {scope : String} (hg : (group, r') ∈ m.participating)
    (hs : (captureName? captures group).or rule.name = some scope) (hr : r'.isEmpty = false) :
    ∃ group' r'', (group', r'') ∈ m.participating ∧
      .mark ⟨r', scope⟩ ∈ singleMark rule captures m.whole group' r'' := by
  by_cases hown : group = 0 ∨ r' ≠ m.whole ∨
      (captureName? captures group).or rule.name ≠ (captureName? captures 0).or rule.name
  · exact ⟨group, r', hg, by
      simpa only [singleMark, if_pos hown] using mem_markSteps.2 ⟨scope, hs, hr, rfl⟩⟩
  · simp only [not_or, Decidable.not_not] at hown
    -- Group 0 makes the mark: it has the same region and the same scope.
    obtain ⟨-, rfl, hsame⟩ := hown
    exact ⟨0, m.whole, m.zero_mem_participating, by
      simpa only [singleMark, true_or, if_true] using mem_markSteps.2 ⟨scope, hsame ▸ hs, hr, rfl⟩⟩

theorem mem_matchSteps {nested : NestedScope} {m : Match} : s ∈ p.matchSteps nested m ↔
    (∃ group r', (group, r') ∈ m.participating ∧
      ((∃ scope, (captureName? p.captures group).or p.name = some scope ∧ r'.isEmpty = false ∧
        s = .mark ⟨r', scope⟩) ∨ ∃ q ∈ capturePatterns p.captures group, s = .apply q r')) ∨
    (nested = .confined ∧ ∃ q ∈ p.patterns, s = .apply q m.whole) := by
  unfold Pattern.matchSteps
  rw [List.mem_append, mem_groupSteps]
  refine or_congr ⟨?_, ?_⟩ ?_
  · rintro ⟨group, r', hg, h | h⟩
    · exact ⟨group, r', hg, .inl (mem_singleMark h)⟩
    · exact ⟨group, r', hg, .inr h⟩
  · rintro ⟨group, r', hg, ⟨scope, hs, hr, rfl⟩ | h⟩
    · obtain ⟨group', r'', hg', h⟩ := exists_mem_singleMark hg hs hr
      exact ⟨group', r'', hg', .inl h⟩
    · exact ⟨group, r', hg, .inr h⟩
  · split <;> simp [mem_applySteps, *]

theorem mem_singleSteps {nested : NestedScope} {found : List Match} :
    s ∈ p.singleSteps nested found r ↔ ∃ m ∈ found, s ∈ p.matchSteps nested m ∨
      (nested = .wholeBuffer ∧ ∃ q ∈ p.patterns, s = .apply q r) := by
  unfold Pattern.singleSteps
  rw [List.mem_append, List.mem_flatMap]
  constructor
  · rintro (⟨m, hm, h⟩ | h)
    · exact ⟨m, hm, .inl h⟩
    · split at h
      · next hif =>
        obtain ⟨m, rest, rfl⟩ := List.exists_cons_of_ne_nil (by simpa using hif.2)
        exact ⟨m, List.mem_cons_self, .inr ⟨hif.1, mem_applySteps.1 h⟩⟩
      · simp at h
  · rintro ⟨m, hm, h | ⟨hn, h⟩⟩
    · exact .inl ⟨m, hm, h⟩
    · rw [if_pos ⟨hn, by simpa using List.ne_nil_of_mem hm⟩]
      exact .inr (mem_applySteps.2 h)

theorem mem_blockSteps {size : Nat} {b : Block size} : s ∈ p.blockSteps b ↔
    (∃ scope, p.name = some scope ∧ b.whole.isEmpty = false ∧ s = .mark ⟨b.whole, scope⟩) ∨
    (∃ scope, p.contentName = some scope ∧ b.interior.isEmpty = false ∧
      s = .mark ⟨b.interior, scope⟩) ∨
    (∃ m captures, (m, captures) ∈ p.edges b ∧ ∃ group r', (group, r') ∈ m.participating ∧
      ((∃ scope, (captureName? captures group).or (if group = 0 then p.name else none) =
          some scope ∧ r'.isEmpty = false ∧ s = .mark ⟨r', scope⟩) ∨
        ∃ q ∈ capturePatterns captures group, s = .apply q r')) ∨
    ∃ q ∈ p.patterns, s = .apply q b.interior := by
  simp only [Pattern.blockSteps, List.mem_append, List.mem_flatMap, mem_markSteps, mem_groupSteps,
    mem_applySteps, edgeMark, Prod.exists, or_assoc]

end Parts

/-! ## The steps of a pattern -/

namespace Tokenizer

variable {k : Tokenizer} {p q : Pattern} {r r' : Region} {s : Step}

theorem takes_of_mem_singleSteps {m : Match} (hm : k.HasMatch p r m)
    (h : s ∈ p.matchSteps k.options.nestedScope m ∨
      (k.options.nestedScope = .wholeBuffer ∧ ∃ q ∈ p.patterns, s = .apply q r)) :
    k.Takes p r s := by
  rw [mem_matchSteps] at h
  rcases h with (⟨group, r', hg, ⟨scope, hs, hr, rfl⟩ | ⟨q, hq, rfl⟩⟩ | ⟨hn, q, hq, rfl⟩) |
    ⟨hn, q, hq, rfl⟩
  · exact .matchGroup hm hg hs hr
  · exact .matchCapture hm hg hq
  · exact .confined hm hn hq
  · exact .wholeBuffer hm hn hq

theorem takes_of_mem_blockSteps {b : Block (k.text.extract 0 r.stop).size} (hb : k.HasBlock p r b)
    (h : s ∈ p.blockSteps b) : k.Takes p r s := by
  rcases mem_blockSteps.1 h with ⟨scope, hs, hr, rfl⟩ | ⟨scope, hs, hr, rfl⟩ |
    ⟨m, captures, he, group, r', hg, ⟨scope, hs, hr, rfl⟩ | ⟨q, hq, rfl⟩⟩ | ⟨q, hq, rfl⟩
  · exact .block hb hs hr
  · exact .interior hb hs hr
  · exact .edgeGroup hb he hg hs hr
  · exact .edgeCapture hb he hg hq
  · exact .inside hb hq

theorem mem_steps_of_hasMatch {m : Match} (hm : k.HasMatch p r m)
    (h : s ∈ p.matchSteps k.options.nestedScope m ∨
      (k.options.nestedScope = .wholeBuffer ∧ ∃ q ∈ p.patterns, s = .apply q r)) :
    s ∈ k.steps p r := by
  obtain ⟨source, finds, ⟨hp, hs⟩, hfinds, hm⟩ := hm
  simp only [steps, hp, hs, hfinds]
  exact mem_singleSteps.2 ⟨m, hm, h⟩

theorem mem_steps_of_hasBlock {b : Block (k.text.extract 0 r.stop).size} (hb : k.HasBlock p r b)
    (h : s ∈ p.blockSteps b) : s ∈ k.steps p r := by
  obtain ⟨begins, ends, opens, closes, ⟨hp, hs⟩, hopens, hcloses, hb⟩ := hb
  simp only [steps, hp, hs, hopens, hcloses]
  exact List.mem_flatMap.2 ⟨b, hb, h⟩

/-- The steps that are listed are those that the cases give. -/
theorem mem_steps_iff : s ∈ k.steps p r ↔ k.Takes p r s := by
  constructor
  · intro h
    unfold steps at h
    split at h
    · simp at h
    · next hp =>
      simp only [Bool.not_eq_true] at hp
      split at h
      · next e he =>
        obtain rfl := List.mem_singleton.1 h
        exact .fail hp he
      · next hs =>
        obtain ⟨q, hq, rfl⟩ := mem_applySteps.1 h
        exact .child ⟨hp, hs⟩ hq
      · next hs =>
        obtain rfl := List.mem_singleton.1 h
        exact .follow ⟨hp, hs⟩
      · next source hs =>
        split at h
        · next finds hfinds =>
          obtain ⟨m, hm, h⟩ := mem_singleSteps.1 h
          exact takes_of_mem_singleSteps ⟨source, finds, ⟨hp, hs⟩, hfinds, hm⟩ h
        · simp at h
      · next begins ends hs =>
        split at h
        · next opens closes hopens hcloses =>
          obtain ⟨b, hb, h⟩ := List.mem_flatMap.1 h
          exact takes_of_mem_blockSteps
            ⟨begins, ends, opens, closes, ⟨hp, hs⟩, hopens, hcloses, hb⟩ h
        · simp at h
  · intro h
    cases h with
    | fail hp he => simp [steps, hp, he]
    | child hp hq => simpa [steps, hp.1, hp.2] using mem_applySteps.2 ⟨_, hq, rfl⟩
    | follow hp => simp [steps, hp.1, hp.2]
    | matchGroup hm hg hs hr =>
      exact mem_steps_of_hasMatch hm
        (.inl (mem_matchSteps.2 (.inl ⟨_, _, hg, .inl ⟨_, hs, hr, rfl⟩⟩)))
    | matchCapture hm hg hq =>
      exact mem_steps_of_hasMatch hm (.inl (mem_matchSteps.2 (.inl ⟨_, _, hg, .inr ⟨_, hq, rfl⟩⟩)))
    | confined hm hn hq =>
      exact mem_steps_of_hasMatch hm (.inl (mem_matchSteps.2 (.inr ⟨hn, _, hq, rfl⟩)))
    | wholeBuffer hm hn hq => exact mem_steps_of_hasMatch hm (.inr ⟨hn, _, hq, rfl⟩)
    | block hb hs hr =>
      exact mem_steps_of_hasBlock hb (mem_blockSteps.2 (.inl ⟨_, hs, hr, rfl⟩))
    | interior hb hs hr =>
      exact mem_steps_of_hasBlock hb (mem_blockSteps.2 (.inr (.inl ⟨_, hs, hr, rfl⟩)))
    | edgeGroup hb he hg hs hr =>
      exact mem_steps_of_hasBlock hb (mem_blockSteps.2
        (.inr (.inr (.inl ⟨_, _, he, _, _, hg, .inl ⟨_, hs, hr, rfl⟩⟩))))
    | edgeCapture hb he hg hq =>
      exact mem_steps_of_hasBlock hb (mem_blockSteps.2
        (.inr (.inr (.inl ⟨_, _, he, _, _, hg, .inr ⟨_, hq, rfl⟩⟩))))
    | inside hb hq =>
      exact mem_steps_of_hasBlock hb (mem_blockSteps.2 (.inr (.inr (.inr ⟨_, hq, rfl⟩))))

end Tokenizer

/-! ## The patterns that are applied -/

theorem mem_of_mem_capturePatterns {captures : List (Nat × Capture Pattern)} {group : Nat}
    {q : Pattern} (h : q ∈ capturePatterns captures group) : ∃ c ∈ captures, q ∈ c.2.patterns := by
  cases hc : captures.lookup group with
  | none => simp [capturePatterns, hc] at h
  | some c =>
    obtain ⟨l₁, l₂, rfl, -⟩ := List.lookup_eq_some_iff.1 hc
    exact ⟨(group, c), by simp, by simpa [capturePatterns, hc] using h⟩

theorem Pattern.mem_captures_of_mem_edges {size : Nat} {p : Pattern} {b : Block size} {m : Match}
    {captures : List (Nat × Capture Pattern)} {c : Nat × Capture Pattern}
    (he : (m, captures) ∈ p.edges b) (hc : c ∈ captures) :
    c ∈ p.captures ++ p.beginCaptures ++ p.endCaptures := by
  have hedge : ∀ {own : List (Nat × Capture Pattern)}, c ∈ edgeCaptures own p.captures →
      c ∈ own ∨ c ∈ p.captures := by
    intro own h
    unfold edgeCaptures at h
    split at h
    · exact .inr h
    · exact .inl h
  rcases List.mem_cons.1 he with h | h
  · cases h
    rcases hedge hc with h | h <;> simp [h]
  · obtain ⟨m', -, h⟩ := List.mem_map.1 h
    cases h
    rcases hedge hc with h | h <;> simp [h]

/-- A pattern applies only its children, which is why tokenizing comes to an end between two
references. -/
theorem Tokenizer.Takes.mem_children {k : Tokenizer} {p q : Pattern} {r r' : Region}
    (h : k.Takes p r (.apply q r')) : q ∈ p.children := by
  cases h with
  | child _ hq | confined _ _ hq | wholeBuffer _ _ hq | inside _ hq =>
    exact List.mem_append_left _ hq
  | matchCapture _ _ hq =>
    obtain ⟨c, hc, hq⟩ := mem_of_mem_capturePatterns hq
    exact List.mem_append_right _ (List.mem_flatMap.2 ⟨c, by simp [hc], hq⟩)
  | edgeCapture _ he _ hq =>
    obtain ⟨c, hc, hq⟩ := mem_of_mem_capturePatterns hq
    exact List.mem_append_right _
      (List.mem_flatMap.2 ⟨c, Pattern.mem_captures_of_mem_edges he hc, hq⟩)

end Highlighter
