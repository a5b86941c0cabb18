import Highlighter.Proofs.Tokenize.Evaluation
import Highlighter.Proofs.Tokenize.Limit
import Mathlib.Data.List.Flatten

/-!
# A greater limit only adds tokens

How many references may be nested decides which references are followed and nothing else: the steps
of a pattern do not depend on it, and a reference that is followed below some limit is followed
below every greater one, with the same frames being followed then. So of two runs the one with the
smaller limit leaves out some calls of the other one. What the other calls mark stays, in its order
and as often as it was (`tokenize_sublist_of_le`).
-/

namespace Highlighter

namespace Tokenizer

variable {k : Tokenizer} {d d' : Nat}

/-- A step makes the same calls below a greater limit, if it makes any. -/
theorem callsOf_withDepth_cases (hd : d ≤ d') (following : List Frame) (s : Step) :
    (k.withDepth d).callsOf following s = (k.withDepth d').callsOf following s ∨
      (k.withDepth d).callsOf following s = [] := by
  cases s with
  | mark m | fail e | apply p r => exact .inl rfl
  | follow target r =>
    by_cases hf : (k.withDepth d).Follows following (target, r)
    · have hf' : (k.withDepth d').Follows following (target, r) :=
        ⟨hf.1, Nat.lt_of_lt_of_le hf.2 hd⟩
      left
      rw [callsOf, callsOf, if_pos hf, if_pos hf']
      rfl
    · right
      rw [callsOf, if_neg hf]

/-- **What a call results in** below a limit is a part of what it results in below a greater one. -/
theorem run_withDepth_sublist (hd : d ≤ d') (c : Call) :
    ((k.withDepth d).run c).Sublist ((k.withDepth d').run c) := by
  -- The run with the greater limit makes all the calls of the other one, so the induction is on its
  -- chains of calls.
  induction (k.withDepth d').acc_calls c with
  | intro c _ ih =>
    rw [run_eq, run_eq]
    refine List.Sublist.flatMap_right _ fun s hs ↦ ?_
    refine List.Sublist.append (List.Sublist.refl s.outcome) ?_
    rcases callsOf_withDepth_cases (k := k) hd c.following s with hcalls | hcalls
    · rw [hcalls]
      refine List.Sublist.flatMap_right _ fun c' hc' ↦ ?_
      exact ih c' (List.mem_flatMap.mpr ⟨s, hs, hc'⟩)
    · rw [hcalls]
      exact List.nil_sublist _

/-- The marks of the calls for the whole text, below two limits. -/
theorem flatMap_made_withDepth_sublist (hd : d ≤ d') :
    ((k.withDepth d).topCalls.flatMap (k.withDepth d).made).Sublist
      ((k.withDepth d').topCalls.flatMap (k.withDepth d').made) :=
  List.Sublist.flatMap_right _ fun c _ ↦ (run_withDepth_sublist hd c).filterMap _

end Tokenizer

/-- **A greater limit only adds tokens.** Whether a text has tokens does not depend on the limit,
and if it has, those below a limit are among those below a greater one, in the same order and as
often at least. -/
theorem tokenize_sublist_of_le {d d' : Nat} (hd : d ≤ d') (engine : Engine) (g : Grammar)
    (text : String) (nested : NestedScope) :
    (∀ e, tokenize engine g text ⟨d, nested⟩ = .error e ↔
      tokenize engine g text ⟨d', nested⟩ = .error e) ∧
    ∀ tokens, tokenize engine g text ⟨d, nested⟩ = .ok tokens →
      ∃ tokens', tokenize engine g text ⟨d', nested⟩ = .ok tokens' ∧ tokens.Sublist tokens' := by
  cases hcompile : RuleTable.compile engine g with
  | error e =>
    rw [tokenize_of_compile_eq_error hcompile, tokenize_of_compile_eq_error hcompile]
    exact ⟨fun _ ↦ Iff.rfl, fun tokens htokens ↦ nomatch htokens⟩
  | ok table =>
    rw [tokenize_eq_ok hcompile, tokenize_eq_ok hcompile]
    refine ⟨fun e ↦ ⟨(nomatch ·), (nomatch ·)⟩, fun tokens htokens ↦ ?_⟩
    obtain rfl := Except.ok.inj htokens
    refine ⟨_, rfl, List.Sublist.map _ ?_⟩
    exact Tokenizer.flatMap_made_withDepth_sublist
      (k := g.tokenizer table (.ofString text) ⟨d, nested⟩) hd

/-- A grammar with a rule that it refers to, and a rule of its own after it. -/
def referringGrammar : Grammar :=
  (Grammar.new "source.test").withPattern (.including "#a")
    |>.withPattern ((Pattern.single "x").named "variable")
    |>.withRule "a" ((Pattern.single "x").named "keyword")

theorem tokenize_referringGrammar_sublist :
    0 ≤ 1 ∧
    tokenize letterEngine referringGrammar "x" ⟨0, .confined⟩ = .ok [⟨0, 1, "variable", "x"⟩] ∧
    tokenize letterEngine referringGrammar "x" ⟨1, .confined⟩ =
      .ok [⟨0, 1, "keyword", "x"⟩, ⟨0, 1, "variable", "x"⟩] ∧
    List.Sublist [(⟨0, 1, "variable", "x"⟩ : Token)]
      [⟨0, 1, "keyword", "x"⟩, ⟨0, 1, "variable", "x"⟩] := by
  have hd : 0 ≤ 1 := Nat.zero_le 1
  have htokens : tokenize letterEngine referringGrammar "x" ⟨0, .confined⟩ =
      .ok [⟨0, 1, "variable", "x"⟩] := tokenize_eq_ok_of_tokenizeUpTo (n := 4) (by decide +kernel)
  have htokens' : tokenize letterEngine referringGrammar "x" ⟨1, .confined⟩ =
      .ok [⟨0, 1, "keyword", "x"⟩, ⟨0, 1, "variable", "x"⟩] :=
    tokenize_eq_ok_of_tokenizeUpTo (n := 4) (by decide +kernel)
  obtain ⟨tokens, hok, hsublist⟩ :=
    (tokenize_sublist_of_le hd letterEngine referringGrammar "x" .confined).2 _ htokens
  obtain rfl := Except.ok.inj (htokens'.symm.trans hok)
  exact ⟨hd, htokens, htokens', hsublist⟩

end Highlighter
