import Highlighter.Regex.Expr
import Std.Data.HashSet

/-!
# The room that an expression takes up

An expression that is too large is refused, before anything is built from it. Its size is that of
an automaton over the bytes of a text: so many bytes for each state and for each way out of a state
that has several. The automaton is wanted in both directions, one that reads a match from its start
and one that reads it from its end, and each of them has to fit.

The two differ in sets of characters and in groups. Read forwards, states of a set that are followed
by the same bytes are one state. Read backwards, only those with the same bytes before them are.
Groups are recorded forwards only.
-/

namespace Highlighter.Regex

/-- The direction in which an automaton reads. -/
inductive Direction where
  | forward
  | backward
deriving DecidableEq, Repr

/-! ## Sets of characters as bytes -/

/-- A range of bytes. -/
abbrev ByteRange := Nat × Nat

/-- The numbers from `a` to `b` as ranges of digits to the base 64, each of `k` digits after the
first one. A range of digits is followed by full ranges only. -/
def digitRanges : Nat → Nat → Nat → List (List (Nat × Nat))
  | 0, a, b => [[(a, b)]]
  | k + 1, a, b =>
    let unit := Nat.pow 64 (k + 1)
    let first := a / unit
    let last := b / unit
    if first = last then (digitRanges k (a % unit) (b % unit)).map ((first, first) :: ·)
    else
      let isWhole := a % unit = 0
      let endsWhole := b % unit = unit - 1
      let front := if isWhole then []
        else (digitRanges k (a % unit) (unit - 1)).map ((first, first) :: ·)
      let back := if endsWhole then []
        else (digitRanges k 0 (b % unit)).map ((last, last) :: ·)
      let first := if isWhole then first else first + 1
      let last := if endsWhole then last else last - 1
      let middle := if first ≤ last then [(first, last) :: List.replicate (k + 1) (0, 63)] else []
      front ++ middle ++ back

/-- The code points that are encoded in the same number of bytes: the first and the last one, how
many bytes follow the first byte, and what is added to the first digit. -/
def encodings : List (Nat × Nat × Nat × Nat) := [
  (0x0000, 0x007f, 0, 0x00),
  (0x0080, 0x07ff, 1, 0xc0),
  (0x0800, 0xd7ff, 2, 0xe0),
  (0xe000, 0xffff, 2, 0xe0),
  (0x10000, 0x10ffff, 3, 0xf0)]

/-- A first digit and the digits after it as bytes. -/
def bytesOfDigits (marker : Nat) : List (Nat × Nat) → List ByteRange
  | [] => []
  | (a, b) :: digits => (marker + a, marker + b) :: digits.map fun (a, b) ↦ (0x80 + a, 0x80 + b)

/-- The characters of a set as sequences of byte ranges, in ascending order. -/
def CharSet.byteSequences (s : CharSet) : List (List ByteRange) :=
  s.ranges.toList.flatMap fun (a, b) ↦
    encodings.flatMap fun (lo, hi, k, marker) ↦
      let first := max a lo
      let last := min b hi
      if first ≤ last then (digitRanges k first last).map (bytesOfDigits marker) else []

/-! ## States of a set -/

/-- The first byte ranges of some sequences, each with the rests of the sequences that it begins. -/
def byFirst (seqs : List (List ByteRange)) : List (ByteRange × List (List ByteRange)) :=
  seqs.foldr (fun q groups ↦
    match q, groups with
    | [], groups => groups
    | r :: rest, (r', rests) :: groups =>
      if r = r' then (r, rest :: rests) :: groups else (r, [rest]) :: (r', rests) :: groups
    | r :: rest, [] => [(r, [rest])]) []

/-- What may still be read from the states that some sequences lead through, given how long the
sequences are at most. -/
def statesOf : Nat → List (List ByteRange) → List (List (List ByteRange))
  | 0, _ => []
  | n + 1, seqs =>
    if seqs = [[]] then []
    else seqs :: (byFirst seqs).flatMap fun (_, rests) ↦ statesOf n rests

/-- How many front parts some sequences have in ascending order, those that neighbours share
counted once. -/
def frontCount : List (List ByteRange) → Nat
  | [] => 0
  | [q] => q.length
  | q :: q' :: seqs =>
    q.length - ((q.zip q').takeWhile fun (r, r') ↦ r == r').length + frontCount (q' :: seqs)

/-- The room of a state. -/
def stateRoom : Nat := 32

/-- The room of a way out of a state that reads one of several bytes. -/
def rangeRoom : Nat := 8

/-- The room of a way out of a state that reads nothing. -/
def branchRoom : Nat := 4

/-- The room of a set of characters. -/
def CharSet.room (d : Direction) (s : CharSet) : Nat :=
  if s.isBelow 0x80 then 2 * stateRoom + rangeRoom * s.ranges.size
  else
    let seqs := CharSet.byteSequences s
    match d with
    | .forward =>
      (Std.HashSet.ofList (statesOf 4 seqs)).fold
        (fun room state ↦ room + stateRoom + rangeRoom * (byFirst state).length) stateRoom
    | .backward => 2 * stateRoom + branchRoom * seqs.length + stateRoom * frontCount seqs

/-! ## Choices between texts -/

/-- Texts with common fronts, as a tree. Each node has chunks of ways out: where a text ends at the
node, it is preferred to what comes later, and a later chunk begins. -/
inductive Fronts where
  | node (chunks : List (List (UInt8 × Fronts)))

/-- The bytes of a text in the order in which they are read. -/
def Direction.bytes (d : Direction) (s : List Char) : List UInt8 :=
  let bytes := (String.ofList s).toUTF8.toList
  match d with
  | .forward => bytes
  | .backward => bytes.reverse

namespace Fronts

/-- The tree that holds no text. -/
def none : Fronts := .node [[]]

/-- Whether no way leads out of a node. -/
def isLeaf : Fronts → Bool
  | .node chunks => chunks.all (·.isEmpty)

/-- The tree after a text. The last chunk is the first in the list. -/
def insert : List UInt8 → Fronts → Fronts
  | [], .node chunks =>
    if (node chunks).isLeaf && chunks.length > 1 then .node chunks else .node ([] :: chunks)
  | b :: bs, .node chunks =>
    match chunks with
    | [] => .node [[(b, insert bs none)]]
    | chunk :: earlier =>
      match chunk.lookup b with
      | some child =>
        .node (chunk.map (fun e ↦ if e.1 == b then (b, insert bs child) else e) :: earlier)
      | Option.none => .node (((b, insert bs none) :: chunk) :: earlier)

mutual

/-- The room of a tree: a leaf takes none, and every other node one state that chooses between its
chunks and one state for each chunk. -/
def room : Fronts → Nat
  | .node chunks =>
    if (node chunks).isLeaf then 0
    else stateRoom + branchRoom * (chunks.length - 1) + chunksRoom chunks

/-- The room of the chunks of a node. -/
def chunksRoom : List (List (UInt8 × Fronts)) → Nat
  | [] => 0
  | chunk :: chunks =>
    (if chunk.isEmpty then 0
      else branchRoom + stateRoom + (if chunk.length = 1 then 0 else rangeRoom * chunk.length))
    + childrenRoom chunk + chunksRoom chunks

/-- The room of the nodes that a chunk leads to. -/
def childrenRoom : List (UInt8 × Fronts) → Nat
  | [] => 0
  | (_, child) :: rest => child.room + childrenRoom rest

end

end Fronts

/-! ## Expressions -/

/-- The texts of some expressions, if each of them is one. -/
def Expr.texts? (es : List Expr) : Option (List (List Char)) :=
  es.mapM fun
    | .text s => some s
    | _ => none

/-- The room of a state that chooses between two ways on. -/
def forkRoom : Nat := stateRoom + 2 * branchRoom

mutual

/-- The room of an expression in a direction. -/
def Expr.room (d : Direction) : Expr → Nat
  | .empty | .look _ => stateRoom
  | .text s => stateRoom * (d.bytes s).length
  | .chars s => CharSet.room d s
  | .group _ body =>
    match d with
    | .forward => body.room d + 2 * stateRoom
    | .backward => body.room d
  | .seq parts => roomOfAll d parts
  | .alt branches =>
    match Expr.texts? branches with
    | some texts =>
      stateRoom + (texts.foldl (fun tree s ↦ tree.insert (d.bytes s)) Fronts.none).room
    | none => 2 * stateRoom + branchRoom * branches.length + roomOfAll d branches
  | .rep 0 none _ body =>
    if body.consumes then body.room d + forkRoom else body.room d + 2 * forkRoom + stateRoom
  | .rep least none _ body => least * body.room d + forkRoom
  | .rep 0 (some 1) _ body => body.room d + forkRoom + stateRoom
  | .rep 0 (some most) _ body => most * (body.room d + forkRoom) + 2 * stateRoom
  | .rep least (some most) _ body =>
    if least = most then least * body.room d
    else least * body.room d + (most - least) * (body.room d + forkRoom) + stateRoom

/-- The room of some expressions together. -/
def roomOfAll (d : Direction) : List Expr → Nat
  | [] => 0
  | e :: es => e.room d + roomOfAll d es

end

/-- The room of what is put around an expression: a loop that looks for the start of a match, the
group of the whole match, and the state at the end. -/
def Direction.frameRoom : Direction → Nat
  | .forward => forkRoom + stateRoom + (stateRoom + rangeRoom) + 2 * stateRoom + stateRoom
  | .backward => forkRoom + stateRoom + (stateRoom + rangeRoom) + stateRoom

/-- The room that an automaton may take up. -/
def maxRoom : Nat := 10 * Nat.pow 2 20

/-- Whether the automata of an expression fit into the room that they may take up. -/
def Expr.fits (e : Expr) : Bool :=
  [Direction.forward, .backward].all fun d ↦ e.room d + d.frameRoom ≤ maxRoom

end Highlighter.Regex
