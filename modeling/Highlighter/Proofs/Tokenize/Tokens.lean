import Highlighter.Proofs.Search.Offsets
import Highlighter.Proofs.Tokenize.Marks

/-!
# Tokens as parts of a text

Calls and marks have positions, and tokens have byte offsets. This module says what the offsets are:
those of calls, of searches and of tokens lie between characters, they are in order, and what a call
marks lies within its region. Nothing here depends on how many bytes a character takes, since
offsets come from positions only.
-/

namespace Highlighter

/-! ## Searches -/

namespace Searcher

variable {text : Array Char} {pos : Nat} {r : Region}

/-- What a scan for matches finds from a position on. -/
def foundFrom (finds : Searcher) (text : Array Char) (pos : Nat) : Option Region :=
  (finds.find text pos).map (·.1.whole)

/-- What a scan for blocks finds from a position on. -/
def foundBlockFrom (opens closes : Searcher) (text : Array Char) (pos : Nat) : Option Region :=
  (opens.find text pos).map fun m ↦ (closes.close text m.1 m.2.stop_le).whole

theorem between_of_foundFrom {finds : Searcher} (h : finds.foundFrom text pos = some r) :
    pos ≤ r.stop ∧ r.stop ≤ text.size := by
  obtain ⟨⟨m, hm⟩, -, rfl⟩ := Option.map_eq_some_iff.mp h
  exact ⟨Nat.le_trans hm.le_start m.whole.start_le_stop, hm.stop_le⟩

theorem between_of_foundBlockFrom {opens closes : Searcher}
    (h : opens.foundBlockFrom closes text pos = some r) : pos ≤ r.stop ∧ r.stop ≤ text.size := by
  obtain ⟨⟨m, hm⟩, -, rfl⟩ := Option.map_eq_some_iff.mp h
  have hstop := (closes.close text m hm.stop_le).opening_start_le_stop
  refine ⟨Nat.le_trans hm.le_start hstop, ?_⟩
  change (closes.close text m hm.stop_le).stop ≤ text.size
  unfold Block.stop
  split
  · next m' _ => exact m'.2.stop_le
  · exact Nat.le_refl _

end Searcher

namespace Tokenizer

variable {k : Tokenizer} {p : Pattern} {r : Region} {offset : Nat}

/-- What is seen of the text in a region: the text up to the end of the region. -/
def haystack (k : Tokenizer) (r : Region) : Source := (Source.ofChars k.text).upTo r.stop

theorem size_haystack (h : r.stop ≤ k.text.size) : (k.haystack r).size = r.stop :=
  Source.size_upTo h

theorem offset_haystack {pos : Nat} (hpos : pos ≤ r.stop) (h : r.stop ≤ k.text.size) :
    (k.haystack r).offset pos = (Source.ofChars k.text).offset pos :=
  Source.offset_upTo hpos h

/-- The byte offsets at which a pattern searches in a region. -/
inductive SearchesAt (k : Tokenizer) (p : Pattern) (r : Region) : Nat → Prop
  /-- The scan for matches searches. -/
  | single {source : String} {finds : Searcher} {offset : Nat} (hp : p.Uses (.single source))
      (hfinds : k.table.get? source = some finds)
      (h : (k.haystack r).ScansAt (finds.foundFrom (k.haystack r).chars)
        ((k.haystack r).offset r.start) offset) : SearchesAt k p r offset
  /-- The scan for blocks searches for the opening match. -/
  | opening {begins ends : String} {opens closes : Searcher} {offset : Nat}
      (hp : p.Uses (.block begins ends)) (hopens : k.table.get? begins = some opens)
      (hcloses : k.table.get? ends = some closes)
      (h : (k.haystack r).ScansAt (opens.foundBlockFrom closes (k.haystack r).chars)
        ((k.haystack r).offset r.start) offset) : SearchesAt k p r offset
  /-- The scan for blocks has found an opening match, and searches for the closing one. -/
  | closing {begins ends : String} {opens closes : Searcher} {offset pos : Nat}
      {m : { m : Match // m.Between pos (k.haystack r).chars.size }}
      (hp : p.Uses (.block begins ends)) (hopens : k.table.get? begins = some opens)
      (hcloses : k.table.get? ends = some closes)
      (h : (k.haystack r).ScansAt (opens.foundBlockFrom closes (k.haystack r).chars)
        ((k.haystack r).offset r.start) offset)
      (hpos : (k.haystack r).position? offset = some pos)
      (hm : opens.find (k.haystack r).chars pos = some m) :
      SearchesAt k p r ((k.haystack r).offset m.1.whole.stop)

/-- **A pattern searches at positions of the region only.** -/
theorem SearchesAt.exists_position (h : k.SearchesAt p r offset) (hr : r.stop ≤ k.text.size) :
    ∃ pos, r.start ≤ pos ∧ pos ≤ r.stop ∧ offset = (k.haystack r).offset pos := by
  have hstart : r.start ≤ (k.haystack r).size := size_haystack hr ▸ r.start_le_stop
  rw [← size_haystack hr]
  cases h with
  | single _ _ h => exact h.exists_position (fun _ _ ↦ Searcher.between_of_foundFrom) hstart rfl
  | opening _ _ _ h =>
    exact h.exists_position (fun _ _ ↦ Searcher.between_of_foundBlockFrom) hstart rfl
  | @closing _ _ _ _ _ pos m _ _ _ h hpos hm =>
    obtain ⟨pos', hle, hpos', rfl⟩ :=
      h.exists_position (fun _ _ ↦ Searcher.between_of_foundBlockFrom) hstart rfl
    rw [Source.position?_offset hpos'] at hpos
    obtain rfl := Option.some.inj hpos
    exact ⟨m.1.whole.stop,
      Nat.le_trans hle (Nat.le_trans m.2.le_start m.1.whole.start_le_stop), m.2.stop_le, rfl⟩

end Tokenizer

/-! ## Tokens -/

section Tokens

variable {s : Source} {m : Mark} {r : Region}

theorem Source.token_start_lt_stop (hm : m.region.isEmpty = false) (h : m.region.stop ≤ s.size) :
    (s.token m).start < (s.token m).stop :=
  offset_lt_offset (Region.start_lt_stop_of_isEmpty_eq_false hm) h

theorem Source.isSlice_token (h : m.region.stop ≤ s.size) :
    IsSlice s.text (s.token m).start (s.token m).stop (s.token m).text :=
  isSlice_slice h

theorem Source.token_within (hm : m.region.Within r) (h : r.stop ≤ s.size) :
    s.offset r.start ≤ (s.token m).start ∧ (s.token m).stop ≤ s.offset r.stop := by
  have hstart := Nat.le_trans m.region.start_le_stop (Nat.le_trans hm.2 h)
  exact ⟨offset_le_offset hm.1 hstart, offset_le_offset hm.2 h⟩

end Tokens

section Tokenize

variable {engine : Engine} {g : Grammar} {table : RuleTable} {text : String}
  {options : TokenizeOptions}

namespace Tokenizer.Reached

variable {c : Call} {m : Mark}

theorem stop_le_of_takes (hc : (g.tokenizer table (.ofString text) options).Reached c)
    (hs : (g.tokenizer table (.ofString text) options).Takes c.pattern c.region (.mark m)) :
    m.region.stop ≤ (Source.ofString text).size :=
  Nat.le_trans (hs.within rfl).2 hc.isSound.stop_le

theorem isSlice_token (hc : (g.tokenizer table (.ofString text) options).Reached c)
    (hs : (g.tokenizer table (.ofString text) options).Takes c.pattern c.region (.mark m)) :
    IsSlice text ((Source.ofString text).token m).start ((Source.ofString text).token m).stop
      ((Source.ofString text).token m).text := by
  have hslice := Source.isSlice_token (hc.stop_le_of_takes hs)
  rwa [Source.text_ofString] at hslice

end Tokenizer.Reached

/-- Whenever tokens are returned, they are parts of the text. -/
theorem isSlice_of_mem_tokenize {tokens : List Token}
    (h : tokenize engine g text options = .ok tokens) {t : Token} (ht : t ∈ tokens) :
    IsSlice text t.start t.stop t.text := by
  cases hcompile : RuleTable.compile engine g with
  | error e =>
    rw [tokenize_of_compile_eq_error hcompile] at h
    cases h
  | ok table =>
    obtain ⟨tokens', htokens, hmem⟩ := exists_tokenize_eq_ok hcompile text options
    obtain rfl : tokens = tokens' := Except.ok.inj (h.symm.trans htokens)
    obtain ⟨c, m, hc, hs, rfl⟩ := (hmem t).mp ht
    exact hc.isSlice_token hs

end Tokenize

/-- What keeping to a text means for a call. -/
structure Tokenizer.KeepsTo (k : Tokenizer) (s : Source) (c : Call) : Prop where
  /-- The region is a part of the text. -/
  region : IsSlice s.text (s.offset c.region.start) (s.offset c.region.stop) (s.slice c.region)
  /-- What the searches in the region see is the front of the text up to the end of the region. -/
  haystack : IsSlice s.text 0 (s.offset c.region.stop) (k.haystack c.region).text
  /-- A search begins between two characters of what it sees, and not before the region. -/
  searches : ∀ offset, k.SearchesAt c.pattern c.region offset →
    s.offset c.region.start ≤ offset ∧
      String.Pos.Raw.IsValid (k.haystack c.region).text ⟨offset⟩
  /-- What the call marks becomes tokens within the region. -/
  made : ∀ m ∈ k.made c,
    s.offset c.region.start ≤ (s.token m).start ∧ (s.token m).stop ≤ s.offset c.region.stop

theorem Tokenizer.keepsTo {k : Tokenizer} {c : Call} (hr : c.region.stop ≤ k.text.size) :
    k.KeepsTo (.ofChars k.text) c where
  region := Source.isSlice_slice hr
  haystack := by
    have h := Source.isSlice_slice (s := .ofChars k.text)
      (r := ⟨0, c.region.stop, Nat.zero_le _⟩) hr
    rwa [Source.offset_zero] at h
  searches := by
    intro offset hoffset
    obtain ⟨pos, hle, hpos, rfl⟩ := hoffset.exists_position hr
    refine ⟨?_, Source.isValid_offset (by rwa [size_haystack hr])⟩
    rw [offset_haystack hpos hr]
    exact Source.offset_le_offset hle (Nat.le_trans hpos hr)
  made := fun _ hm ↦ Source.token_within (within_of_mem_made hm) hr

/-- **Calls and tokens keep to the text.** For a grammar that compiles this holds of every call that
is reached, and each token has an extent, is the part of the text between its offsets, and has a
scope that an enabled rule of the grammar gives. -/
theorem tokenize_keeps_to_text {engine : Engine} {g : Grammar} {table : RuleTable}
    (hcompile : RuleTable.compile engine g = .ok table) (text : String)
    (options : TokenizeOptions) :
    (∀ c, (g.tokenizer table (.ofString text) options).Reached c →
      (g.tokenizer table (.ofString text) options).KeepsTo (.ofString text) c) ∧
    ∃ tokens, tokenize engine g text options = .ok tokens ∧ ∀ t ∈ tokens,
      t.start < t.stop ∧ IsSlice text t.start t.stop t.text ∧
        ∃ p, g.Enables p ∧ p.toRule ∈ g.enabledRules ∧ t.scope ∈ p.scopes := by
  obtain ⟨tokens, htokens, hmem⟩ := exists_tokenize_eq_ok hcompile text options
  refine ⟨fun c hc ↦ Tokenizer.keepsTo hc.isSound.stop_le, tokens, htokens, fun t ht ↦ ?_⟩
  obtain ⟨c, m, hc, hs, rfl⟩ := (hmem t).mp ht
  obtain ⟨p, hp, hscope⟩ := hc.exists_enables hs
  exact ⟨Source.token_start_lt_stop hs.isEmpty_eq_false (hc.stop_le_of_takes hs),
    hc.isSlice_token hs, p, hp, hp.toRule_mem, hscope⟩

theorem tokenize_cyclicGrammar_keeps_to_text :
    RuleTable.compile letterEngine cyclicGrammar = .ok cyclicTable ∧
    (∀ c, (cyclicGrammar.tokenizer cyclicTable (.ofString "é x") {}).Reached c →
      (cyclicGrammar.tokenizer cyclicTable (.ofString "é x") {}).KeepsTo (.ofString "é x") c) ∧
    ∃ tokens, tokenize letterEngine cyclicGrammar "é x" {} = .ok tokens ∧ ∀ t ∈ tokens,
      t.start < t.stop ∧ IsSlice "é x" t.start t.stop t.text ∧
        ∃ p, cyclicGrammar.Enables p ∧ p.toRule ∈ cyclicGrammar.enabledRules ∧
          t.scope ∈ p.scopes :=
  have hcompile : RuleTable.compile letterEngine cyclicGrammar = .ok cyclicTable := rfl
  ⟨hcompile, tokenize_keeps_to_text hcompile "é x" {}⟩

end Highlighter
