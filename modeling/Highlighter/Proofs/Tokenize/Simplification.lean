import Highlighter.Proofs.Grammar.Simplification
import Highlighter.Tokenize

/-!
# Tokenizing with a simpler grammar

A grammar and a simpler one tokenize every text alike. The steps of a pattern are the same for both,
except that other patterns are applied, so they are compared by what they result in. Lists of steps
are `Alike` if they result in the same, and that is passed on from the parts of a pattern to its
steps (`Alike.steps`). For patterns that are applied it is shown by induction along the
simplification, and for references by induction on how many more may be followed. So it does not
matter that a pattern which is simplified can be reached again through a reference.
-/

namespace Highlighter

/-! ## Steps that result in the same -/

section StepReadings

variable {β : Type} {f f' : Step → List β}

/-- Two lists of steps result in the same, read in two ways. -/
def Alike (f f' : Step → List β) (l l' : List Step) : Prop := l.flatMap f = l'.flatMap f'

/-- Two ways to read steps agree on all steps, except where a pattern is applied. -/
structure ReadAlike (f f' : Step → List β) : Prop where
  mark (m : Mark) : f (.mark m) = f' (.mark m)
  follow (target : RuleRef) (r : Region) : f (.follow target r) = f' (.follow target r)
  fail (e : GrammarError) : f (.fail e) = f' (.fail e)

/-- Applying two lists of patterns results in the same. -/
def AppliedAlike (f f' : Step → List β) (ps ps' : List Pattern) : Prop :=
  ∀ r, Alike f f' (applySteps ps r) (applySteps ps' r)

/-- Two capture tables assign the same names, and patterns that result in the same. -/
structure TableAlike (f f' : Step → List β) (cs cs' : List (Nat × Capture Pattern)) : Prop where
  isEmpty_eq : cs.isEmpty = cs'.isEmpty
  captureName?_eq : captureName? cs = captureName? cs'
  patterns (group : Nat) : AppliedAlike f f' (capturePatterns cs group) (capturePatterns cs' group)

/-- Two patterns have the same rule, and parts that result in the same. -/
structure PartsAlike (f f' : Step → List β) (p p' : Pattern) : Prop where
  toRule_eq : p.toRule = p'.toRule
  patterns : AppliedAlike f f' p.patterns p'.patterns
  captures : TableAlike f f' p.captures p'.captures
  beginCaptures : TableAlike f f' p.beginCaptures p'.beginCaptures
  endCaptures : TableAlike f f' p.endCaptures p'.endCaptures

variable {l l' : List Step} {p p' : Pattern} {cs cs' : List (Nat × Capture Pattern)}

theorem TableAlike.edgeCaptures {own own' : List (Nat × Capture Pattern)}
    (hown : TableAlike f f' own own') (hshared : TableAlike f f' cs cs') :
    TableAlike f f' (edgeCaptures own cs) (edgeCaptures own' cs') := by
  unfold Highlighter.edgeCaptures
  rw [hown.isEmpty_eq]
  split
  · exact hshared
  · exact hown

namespace Alike

theorem append {l₁ l₁' : List Step} (h : Alike f f' l l') (h₁ : Alike f f' l₁ l₁') :
    Alike f f' (l ++ l₁) (l' ++ l₁') := by
  rw [Alike, List.flatMap_append, List.flatMap_append, h, h₁]

theorem flatMap {α : Type} {as : List α} {g g' : α → List Step}
    (h : ∀ a ∈ as, Alike f f' (g a) (g' a)) : Alike f f' (as.flatMap g) (as.flatMap g') := by
  rw [Alike, List.flatMap_assoc, List.flatMap_assoc]
  exact List.flatMap_congr h

theorem markSteps (h : ReadAlike f f') (r : Region) (scope : Option String) :
    Alike f f' (markSteps r scope) (markSteps r scope) := by
  rw [Alike, Highlighter.markSteps, List.flatMap_map, List.flatMap_map]
  exact List.flatMap_congr fun m _ ↦ h.mark m

theorem groupSteps {mark : Nat → Region → List Step} (hcs : TableAlike f f' cs cs')
    (hmark : ∀ group r, Alike f f' (mark group r) (mark group r)) (m : Match) :
    Alike f f' (m.groupSteps cs mark) (m.groupSteps cs' mark) :=
  flatMap fun (group, r) _ ↦ (hmark group r).append (hcs.patterns group r)

theorem matchSteps (h : ReadAlike f f') (hp : PartsAlike f f' p p') (nested : NestedScope)
    (m : Match) : Alike f f' (p.matchSteps nested m) (p'.matchSteps nested m) := by
  have hmark : singleMark p.toRule p.captures m.whole =
      singleMark p'.toRule p'.captures m.whole := by
    unfold singleMark
    rw [hp.toRule_eq, hp.captures.captureName?_eq]
  rw [Pattern.matchSteps, Pattern.matchSteps, hmark]
  refine (groupSteps hp.captures (fun group r ↦ ?_) m).append ?_
  · unfold singleMark
    dsimp only
    split
    · exact markSteps h _ _
    · rfl
  · split
    · exact hp.patterns m.whole
    · rfl

theorem singleSteps (h : ReadAlike f f') (hp : PartsAlike f f' p p') (nested : NestedScope)
    (found : List Match) (r : Region) :
    Alike f f' (p.singleSteps nested found r) (p'.singleSteps nested found r) := by
  refine (flatMap fun m _ ↦ matchSteps h hp nested m).append ?_
  split
  · exact hp.patterns r
  · rfl

theorem edgeSteps (h : ReadAlike f f') (rule : Rule) (hcs : TableAlike f f' cs cs') (m : Match) :
    Alike f f' (m.groupSteps cs (edgeMark rule cs)) (m.groupSteps cs' (edgeMark rule cs')) := by
  have hmark : edgeMark rule cs = edgeMark rule cs' := by
    unfold edgeMark
    rw [hcs.captureName?_eq]
  rw [hmark]
  exact groupSteps hcs (fun _ _ ↦ markSteps h _ _) m

theorem blockSteps {size : Nat} (h : ReadAlike f f') (hp : PartsAlike f f' p p')
    (b : Block size) : Alike f f' (p.blockSteps b) (p'.blockSteps b) := by
  unfold Pattern.blockSteps Pattern.edges
  rw [hp.toRule_eq, List.flatMap_cons, List.flatMap_cons, List.flatMap_map, List.flatMap_map]
  refine (((markSteps h _ _).append (markSteps h _ _)).append (append ?_ ?_)).append ?_
  · exact edgeSteps h _ (hp.beginCaptures.edgeCaptures hp.captures) b.opening
  · exact flatMap fun m _ ↦ edgeSteps h _ (hp.endCaptures.edgeCaptures hp.captures) m.1
  · exact hp.patterns b.interior

/-- **Patterns whose parts result in the same take steps that result in the same.** -/
theorem steps (h : ReadAlike f f') (hp : PartsAlike f f' p p') (k : Tokenizer) (r : Region) :
    Alike f f' (k.steps p r) (k.steps p' r) := by
  unfold Tokenizer.steps
  rw [hp.toRule_eq]
  split
  · rfl
  split
  · simp [Alike, h.fail]
  · exact hp.patterns r
  · simp [Alike, h.follow]
  · split
    · exact singleSteps h hp _ _ r
    · rfl
  · split
    · exact flatMap fun b _ ↦ blockSteps h hp b
    · rfl

end Alike

/-! ## Patterns that result in the same -/

/-- Where a pattern is applied, its steps are taken. -/
def Performs (k : Tokenizer) (f : Step → List β) : Prop :=
  ∀ p r, f (.apply p r) = (k.steps p r).flatMap f

/-- Two ways to read steps agree, and both go on with the patterns that are applied. -/
structure PerformAlike (k : Tokenizer) (f f' : Step → List β) : Prop extends ReadAlike f f' where
  left : Performs k f
  right : Performs k f'

namespace AppliedAlike

variable {k : Tokenizer} {ps ps' qs : List Pattern}

theorem cons (hp : ∀ r, f (.apply p r) = f' (.apply p' r)) (hps : AppliedAlike f f' ps ps') :
    AppliedAlike f f' (p :: ps) (p' :: ps') := by
  intro r
  rw [applySteps, applySteps, List.map_cons, List.map_cons, Alike, List.flatMap_cons,
    List.flatMap_cons, hp r]
  exact congrArg _ (hps r)

/-- A disabled pattern takes no steps. -/
theorem drop (hf : Performs k f) (hp : p.isDisabled = true) (hps : AppliedAlike f f' ps ps') :
    AppliedAlike f f' (p :: ps) ps' := by
  intro r
  rw [applySteps, List.map_cons, Alike, List.flatMap_cons, hf p r, Tokenizer.steps, if_pos hp,
    List.flatMap_nil, List.nil_append]
  exact hps r

/-- A group applies the patterns below it to the same region. -/
theorem splice (hf : Performs k f) (hp : p.IsPlainGroup) (hqs : AppliedAlike f f' p.patterns qs)
    (hps : AppliedAlike f f' ps ps') : AppliedAlike f f' (p :: ps) (qs ++ ps') := by
  intro r
  have hsteps : k.steps p r = applySteps p.patterns r := by
    rw [Tokenizer.steps, if_neg (by simp [hp.isDisabled]), hp.strategy]
  rw [applySteps, applySteps, List.map_cons, List.map_append, Alike, List.flatMap_cons,
    List.flatMap_append, hf p r, hsteps, hqs r]
  exact congrArg _ (hps r)

end AppliedAlike

theorem TableAlike.cons {group : Nat} {name : Option String} {qs qs' : List Pattern}
    (hqs : AppliedAlike f f' qs qs') (hcs : TableAlike f f' cs cs') :
    TableAlike f f' ((group, ⟨name, qs⟩) :: cs) ((group, ⟨name, qs'⟩) :: cs') where
  isEmpty_eq := rfl
  captureName?_eq := by
    funext group'
    have hrest := congrFun hcs.captureName?_eq group'
    simp only [captureName?, List.lookup_cons] at hrest ⊢
    split
    · rfl
    · exact hrest
  patterns := by
    intro group'
    have hrest := hcs.patterns group'
    simp only [capturePatterns, List.lookup_cons] at hrest ⊢
    split
    · exact hqs
    · exact hrest

mutual

theorem Pattern.SimplifiesTo.apply_eq {k : Tokenizer} (h : PerformAlike k f f') {p p' : Pattern}
    (hp : p.SimplifiesTo p') (r : Region) : f (.apply p r) = f' (.apply p' r) := by
  rw [h.left, h.right]
  refine Alike.steps h.toReadAlike ?_ k r
  match hp with
  | .mk hrule hpatterns hcaptures hbegin hend =>
    exact ⟨hrule, hpatterns.appliedAlike h, hcaptures.tableAlike h, hbegin.tableAlike h,
      hend.tableAlike h⟩

theorem PatternsSimplifyTo.appliedAlike {k : Tokenizer} (h : PerformAlike k f f')
    {ps ps' : List Pattern} (hps : PatternsSimplifyTo ps ps') : AppliedAlike f f' ps ps' := by
  match hps with
  | .nil => exact fun _ ↦ rfl
  | .cons hp hps => exact .cons (hp.apply_eq h) (hps.appliedAlike h)
  | .drop hp hps => exact .drop h.left hp (hps.appliedAlike h)
  | .splice hp hqs hps => exact .splice h.left hp (hqs.appliedAlike h) (hps.appliedAlike h)

theorem TableSimplifiesTo.tableAlike {k : Tokenizer} (h : PerformAlike k f f')
    {cs cs' : List (Nat × Capture Pattern)} (hcs : TableSimplifiesTo cs cs') :
    TableAlike f f' cs cs' := by
  match hcs with
  | .nil => exact ⟨rfl, rfl, fun _ _ ↦ rfl⟩
  | .cons hqs hcs => exact .cons (hqs.appliedAlike h) (hcs.tableAlike h)

end

end StepReadings

/-! ## Calls that result in the same -/

namespace Tokenizer

variable {k : Tokenizer} {g' : Grammar}

/-- What a step of a call results in, with the calls that it makes. -/
def results (k : Tokenizer) (following : List Frame) (s : Step) :
    List (Except GrammarError Mark) :=
  s.outcome ++ (k.callsOf following s).flatMap k.run

theorem results_apply (following : List Frame) (p : Pattern) (r : Region) :
    k.results following (.apply p r) = k.run ⟨following, p, r⟩ := by
  simp [results, Step.outcome, callsOf]

theorem performs_results (k : Tokenizer) (following : List Frame) :
    Performs k (k.results following) := by
  intro p r
  rw [results_apply, run_eq]
  rfl

/-- Following a reference is applying what it stands for, with one more reference followed. -/
theorem results_follow (following : List Frame) (target : RuleRef) (r : Region) :
    k.results following (.follow target r) =
      if k.Follows following (target, r) then
        (applySteps (k.grammar.resolve target) r).flatMap (k.results ((target, r) :: following))
      else [] := by
  rw [results, callsOf]
  split
  · simp only [applySteps, List.flatMap_map, results_apply]
    rfl
  · rfl

/-- The same tokenizer for another grammar. -/
def withGrammar (k : Tokenizer) (g : Grammar) : Tokenizer := { k with grammar := g }

/-- **Steps result in the same for a simpler grammar.** The induction is on how many more references
may be followed. -/
theorem performAlike_results (h : k.grammar.SimplifiesTo g') (following : List Frame) :
    PerformAlike k (k.results following) ((k.withGrammar g').results following) := by
  obtain ⟨n, hn⟩ : ∃ n, n = k.options.maxIncludeDepth - following.length := ⟨_, rfl⟩
  induction n using Nat.strongRecOn generalizing following with
  | _ n ih =>
    refine ⟨⟨fun _ ↦ rfl, fun target r ↦ ?_, fun _ ↦ rfl⟩, k.performs_results following,
      (k.withGrammar g').performs_results following⟩
    rw [results_follow, results_follow]
    by_cases hfollows : k.Follows following (target, r)
    · have hfollows' : (k.withGrammar g').Follows following (target, r) := hfollows
      have hlt : k.options.maxIncludeDepth - ((target, r) :: following).length < n := by
        have := hfollows.2
        simp only [List.length_cons]
        omega
      rw [if_pos hfollows, if_pos hfollows']
      exact (h.resolve target).appliedAlike (ih _ hlt ((target, r) :: following) rfl) r
    · have hfollows' : ¬(k.withGrammar g').Follows following (target, r) := hfollows
      rw [if_neg hfollows, if_neg hfollows']

theorem marks_withGrammar (h : k.grammar.SimplifiesTo g') :
    (k.withGrammar g').marks = k.marks := by
  have hmarks (k : Tokenizer) : k.marks = ((applySteps k.grammar.patterns
      ⟨0, k.text.size, Nat.zero_le _⟩).flatMap (k.results [])).mapM id := by
    simp only [marks, topCalls, applySteps, List.flatMap_map, results_apply]
  rw [hmarks, hmarks]
  congr 1
  exact (h.patterns.appliedAlike (performAlike_results h []) _).symm

end Tokenizer

/-- **A simpler grammar tokenizes every text alike.** -/
theorem Grammar.SimplifiesTo.tokenize_eq {g g' : Grammar} (h : g.SimplifiesTo g')
    (engine : Engine) (text : String) (options : TokenizeOptions) :
    tokenize engine g' text options = tokenize engine g text options := by
  have hmarks (table : RuleTable) (s : Source) :
      (g'.tokenizer table s options).marks = (g.tokenizer table s options).marks :=
    Tokenizer.marks_withGrammar (k := g.tokenizer table s options) h
  unfold tokenize
  simp only [← h.compile_eq, hmarks]

end Highlighter
