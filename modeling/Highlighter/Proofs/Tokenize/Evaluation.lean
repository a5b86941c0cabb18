import Highlighter.Proofs.Search.Alternatives
import Highlighter.Proofs.Tokenize.Marks

/-!
# Tokenizing fixed texts

A tokenizer calls itself by well-founded recursion, which does not evaluate. With a limit on how
deep the calls may go it does: where the limit is sufficient, `tokenizeUpTo` returns the tokens of
the text. The engine for a fixed text is one that has the matches of each expression on record.
-/

namespace Highlighter

/-! ## Recorded matches -/

deriving instance DecidableEq for Match

instance (m : Match) (start stop : Nat) : Decidable (m.Between start stop) :=
  decidable_of_iff (∀ o ∈ m.allGroups, ∀ r ∈ o, start ≤ r.start ∧ r.stop ≤ stop)
    ⟨fun h r hr ↦ h (some r) hr r rfl, fun h _ ho r hr ↦ h r (hr ▸ ho)⟩

/-- The match of some number of characters without any groups. -/
def Match.ofLength (start length : Nat) : Match :=
  ⟨⟨start, start + length, Nat.le_add_right start length⟩, []⟩

/-- What finds the first of some matches that lies behind a position. -/
def Searcher.ofMatches (ms : List Match) : Searcher where
  find text start :=
    match h : ms.find? fun m ↦ decide (m.Between start text.size) with
    | some m => some ⟨m, by simpa using List.find?_some h⟩
    | none => none

/-- The engine that has the matches of some expressions on record. Others match nowhere. -/
def Engine.recorded (records : List (String × List Match)) : Engine :=
  fun source ↦ some (.ofMatches ((records.lookup source).getD []))

theorem Searcher.isAlternation_ofMatches {ms : List Match} (h : ∀ m ∈ ms, m.IsAlternative) :
    (ofMatches ms).IsAlternation := by
  intro text start m hm
  unfold ofMatches at hm
  dsimp only at hm
  split at hm
  · next m' hfind =>
    obtain rfl := Option.some.inj hm
    exact h m' (List.mem_of_find?_eq_some hfind)
  · cases hm

/-! ## Calls with a limit -/

/-- The results for some arguments, one after the other, if each of them has a result. -/
def gather {α β : Type} (f : α → Option (List β)) : List α → Option (List β)
  | [] => some []
  | a :: as => do return (← f a) ++ (← gather f as)

theorem gather_eq_some {α β : Type} {f : α → Option (List β)} {f' : α → List β} {as : List α}
    {l : List β} (hf : ∀ a l, f a = some l → f' a = l) (h : gather f as = some l) :
    as.flatMap f' = l := by
  induction as generalizing l with
  | nil => exact Option.some.inj h
  | cons a as ih =>
    obtain ⟨l₁, h₁, h⟩ := Option.bind_eq_some_iff.mp h
    obtain ⟨l₂, h₂, h⟩ := Option.bind_eq_some_iff.mp h
    rw [List.flatMap_cons, hf a l₁ h₁, ih h₂]
    exact Option.some.inj h

namespace Tokenizer

/-- The results of a call, if the calls do not go deeper than a limit. -/
def runUpTo (k : Tokenizer) : Nat → Call → Option (List (Except GrammarError Mark))
  | 0, _ => none
  | n + 1, c => gather (fun s ↦
      (gather (k.runUpTo n) (k.callsOf c.following s)).map (s.outcome ++ ·))
    (k.steps c.pattern c.region)

theorem run_eq_of_runUpTo {k : Tokenizer} {n : Nat} {c : Call}
    {l : List (Except GrammarError Mark)} (h : k.runUpTo n c = some l) : k.run c = l := by
  induction n generalizing c l with
  | zero => cases h
  | succ n ih =>
    rw [run_eq]
    refine gather_eq_some (fun s l hs ↦ ?_) h
    obtain ⟨l', hl', rfl⟩ := Option.map_eq_some_iff.mp hs
    rw [gather_eq_some (fun c l hc ↦ ih hc) hl']

end Tokenizer

/-- The tokens of a text, if the calls do not go deeper than a limit. -/
def tokenizeUpTo (n : Nat) (engine : Engine) (g : Grammar) (text : String)
    (options : TokenizeOptions) : Option (List Token) := do
  let table ← (RuleTable.compile engine g).toOption
  let k := g.tokenizer table (.ofString text) options
  let results ← gather (k.runUpTo n) k.topCalls
  return (results.filterMap Except.toOption).map (Source.ofString text).token

theorem tokenize_eq_ok_of_tokenizeUpTo {n : Nat} {engine : Engine} {g : Grammar} {text : String}
    {options : TokenizeOptions} {tokens : List Token}
    (h : tokenizeUpTo n engine g text options = some tokens) :
    tokenize engine g text options = .ok tokens := by
  obtain ⟨table, htable, h⟩ := Option.bind_eq_some_iff.mp h
  obtain ⟨results, hresults, h⟩ := Option.bind_eq_some_iff.mp h
  have hcompile : RuleTable.compile engine g = .ok table := by
    cases hc : RuleTable.compile engine g with
    | error e => simp [hc, Except.toOption] at htable
    | ok table' =>
      rw [hc] at htable
      rw [Option.some.inj htable]
  let k := g.tokenizer table (.ofString text) options
  have hrun : k.topCalls.flatMap k.run = results :=
    gather_eq_some (fun _ _ ↦ Tokenizer.run_eq_of_runUpTo) hresults
  have hmade : k.topCalls.flatMap k.made = results.filterMap Except.toOption := by
    rw [← hrun, List.filterMap_flatMap]
    rfl
  rw [tokenize_eq_ok hcompile, ← Option.some.inj h, hmade]

end Highlighter
