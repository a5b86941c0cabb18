import Highlighter.Search.Match

/-!
# Scanning a text for matches and blocks

A scan repeats a search from where the last find ended. An empty find would repeat itself, so the
scan then goes on one character further; that character may lie behind the end of the text, where
the scan stops. Both scans end because their position grows.
-/

namespace Highlighter

/-! ## Matches -/

/-- Where the search for the next match begins. -/
def Match.resume (m : Match) : Nat :=
  if m.whole.isEmpty then m.whole.stop + 1 else m.whole.stop

theorem Match.start_lt_resume (m : Match) : m.whole.start < m.resume := by
  have := m.whole.start_le_stop
  unfold resume
  cases h : m.whole.isEmpty
  · simpa using Region.start_lt_stop_of_isEmpty_eq_false h
  · simp only [if_true]
    omega

/-- The matches in a text from a position on, each as far left as the one before it allows. -/
def Searcher.matchesFrom (s : Searcher) (text : Array Char) (pos : Nat) : List Match :=
  if pos ≤ text.size then
    match s.find text pos with
    | none => []
    | some ⟨m, hm⟩ =>
      have : pos < m.resume := Nat.lt_of_le_of_lt hm.le_start m.start_lt_resume
      m :: s.matchesFrom text m.resume
  else []
termination_by text.size + 1 - pos

/-! ## Blocks -/

/-- What an opening match and the first closing match after it enclose. Without a closing match
the block runs to the end of the text. -/
structure Block (size : Nat) where
  /-- The match that opens the block. -/
  opening : Match
  /-- The match that closes it. -/
  closing : Option { m : Match // m.Between opening.whole.stop size }
  opening_stop_le : opening.whole.stop ≤ size

namespace Block

variable {size : Nat}

/-- The text between the opening and the closing match. -/
def interior (b : Block size) : Region :=
  match b.closing with
  | some ⟨m, hm⟩ => ⟨b.opening.whole.stop, m.whole.start, hm.le_start⟩
  | none => ⟨b.opening.whole.stop, size, b.opening_stop_le⟩

/-- Where the block ends. -/
def stop (b : Block size) : Nat :=
  match b.closing with
  | some m => m.1.whole.stop
  | none => size

theorem opening_start_le_stop (b : Block size) : b.opening.whole.start ≤ b.stop := by
  have h := b.opening.whole.start_le_stop
  unfold stop
  split
  · next m _ =>
    have := m.2.le_start
    have := m.1.whole.start_le_stop
    omega
  · have := b.opening_stop_le
    omega

/-- The block with its opening and closing match. -/
def whole (b : Block size) : Region :=
  ⟨b.opening.whole.start, b.stop, b.opening_start_le_stop⟩

/-- Where the search for the next block begins. -/
def resume (b : Block size) : Nat :=
  if b.whole.isEmpty then b.stop + 1 else b.stop

theorem opening_start_lt_resume (b : Block size) : b.opening.whole.start < b.resume := by
  have := b.opening_start_le_stop
  unfold resume
  cases h : b.whole.isEmpty
  · exact Region.start_lt_stop_of_isEmpty_eq_false h
  · simp only [if_true]
    omega

end Block

/-- The block that a match opens and a searcher closes. -/
def Searcher.close (closes : Searcher) (text : Array Char) (opening : Match)
    (h : opening.whole.stop ≤ text.size) : Block text.size :=
  ⟨opening, closes.find text opening.whole.stop, h⟩

/-- The blocks in a text from a position on that one searcher opens and another one closes. -/
def Searcher.blocksFrom (opens closes : Searcher) (text : Array Char) (pos : Nat) :
    List (Block text.size) :=
  if pos ≤ text.size then
    match opens.find text pos with
    | none => []
    | some ⟨m, hm⟩ =>
      have : pos < (closes.close text m hm.stop_le).resume :=
        Nat.lt_of_le_of_lt hm.le_start (closes.close text m hm.stop_le).opening_start_lt_resume
      closes.close text m hm.stop_le
        :: opens.blocksFrom closes text (closes.close text m hm.stop_le).resume
  else []
termination_by text.size + 1 - pos

end Highlighter
