import Highlighter.Regex.Room

/-!
# Programs that match expressions

An expression is turned into instructions that name the instruction to go on with. The instructions
are written back to front: each part is emitted for a given continuation, which is already there.
Only a loop needs an instruction that is filled in later, and it is the one that is jumped back to.

A program that would take up too much room is refused before it is written out.
-/

namespace Highlighter.Regex

/-- One step of a match, and the instruction that follows it. -/
inductive Inst where
  /-- Takes one character of a set. -/
  | chars (set : CharSet) (next : Nat)
  /-- Goes on only where a condition holds. -/
  | look (l : Look) (next : Nat)
  /-- Notes where a group begins. -/
  | openGroup (next : Nat)
  /-- Records the group that began last. -/
  | closeGroup (index : Nat) (next : Nat)
  /-- Tries one way, and the other one if that fails. -/
  | split (first second : Nat)
  /-- The expression has matched. -/
  | accept

/-- Instructions, and which of them is the first. -/
structure Program where
  insts : Array Inst
  entry : Nat
  /-- The largest number of a group. -/
  groupCount : Nat

/-! ## Emitting instructions -/

/-- Emits code in front of a continuation: the instructions so far and the continuation's address
become the longer list and the address of what was emitted. -/
abbrev Emitter := Array Inst × Nat → Array Inst × Nat

/-- The instructions with one more at the end, and its address. -/
def appendInst (code : Array Inst) (i : Inst) : Array Inst × Nat :=
  let address := code.size
  (code.push i, address)

/-- A choice between a body and the continuation after it, in the order that the greed says. -/
def Inst.choice (greedy : Bool) (body after : Nat) : Inst :=
  if greedy then .split body after else .split after body

/-- Emits one instruction that goes on with the continuation. -/
def Emitter.inst (f : Nat → Inst) : Emitter := fun (code, next) ↦
  appendInst code (f next)

/-- Emits a body that may be skipped, the skip leading to `skip`. -/
def Emitter.optional (greedy : Bool) (skip : Nat) (body : Emitter) : Emitter := fun at_ ↦
  let (code, entry) := body at_
  appendInst code (.choice greedy entry skip)

/-- Emits a body after which it is decided whether to repeat it. The address of this decision comes
first in the result. -/
def Emitter.loop (greedy : Bool) (body : Emitter) (code : Array Inst) (next : Nat) :
    Nat × Array Inst × Nat :=
  let decision := code.size
  let (code, entry) := body (code.push .accept, decision)
  (decision, code.setIfInBounds decision (.choice greedy entry next), entry)

/-- Emits a body that is repeated at least once: it comes before the decision. -/
def Emitter.plus (greedy : Bool) (body : Emitter) : Emitter := fun (code, next) ↦
  (body.loop greedy code next).2

/-- Emits a body that always takes a character and is repeated any number of times: the decision
comes first. -/
def Emitter.star (greedy : Bool) (body : Emitter) : Emitter := fun (code, next) ↦
  let (decision, code, _) := body.loop greedy code next
  (code, decision)

/-- Emits a body some number of times. -/
def Emitter.copies (body : Emitter) : Nat → Emitter
  | 0 => id
  | n + 1 => fun at_ ↦ copies body n (body at_)

/-- Emits a body at most some number of times, each skip leading to the end. -/
def Emitter.upTo (greedy : Bool) (body : Emitter) (n : Nat) : Emitter := fun (code, next) ↦
  (Emitter.optional greedy next body).copies n (code, next)

/-- Emits a repetition. A body that may match the empty text is tried once before it is left out:
its loop is one that is repeated at least once, and may be skipped. -/
def Emitter.repetition (least : Nat) (most : Option Nat) (greedy consumes : Bool)
    (body : Emitter) : Emitter :=
  match most, least with
  | none, 0 =>
    if consumes then body.star greedy
    else fun (code, next) ↦ (body.plus greedy).optional greedy next (code, next)
  | none, n + 1 => body.copies n ∘ body.plus greedy
  | some m, n => body.copies n ∘ body.upTo greedy (m - n)

/-- Emits choices between the instructions at some addresses, the first one preferred. -/
def emitChoices (code : Array Inst) : List Nat → Array Inst × Nat
  | [] => (code, code.size)
  | [entry] => (code, entry)
  | entry :: entries =>
    let (code, other) := emitChoices code entries
    appendInst code (.split entry other)

mutual

/-- Emits an expression. -/
def Expr.emit : Expr → Emitter
  | .empty => id
  | .text s => fun at_ ↦ s.foldr (fun c at_ ↦ Emitter.inst (.chars (.single c)) at_) at_
  | .chars set => .inst (.chars set)
  | .look l => .inst (.look l)
  | .group index body => Emitter.inst .openGroup ∘ body.emit ∘ Emitter.inst (.closeGroup index)
  | .seq parts => emitAll parts
  | .alt branches => fun (code, next) ↦
    let (code, entries) := emitBranches branches next code
    emitChoices code entries
  | .rep least most greedy body => .repetition least most greedy body.consumes body.emit

/-- Emits expressions after one another. -/
def emitAll : List Expr → Emitter
  | [] => id
  | [e] => e.emit
  | e :: e' :: es => e.emit ∘ emitAll (e' :: es)

/-- Emits expressions next to each other, all with one continuation, and gives their addresses. -/
def emitBranches : List Expr → Nat → Array Inst → Array Inst × List Nat
  | [], _, code => (code, [])
  | e :: es, next, code =>
    let (code, entry) := e.emit (code, next)
    let (code, entries) := emitBranches es next code
    (code, entry :: entries)

end

/-- The program of an expression, unless it takes up too much room. -/
def Expr.program? (e : Expr) : Option Program :=
  if e.fits then
    let (insts, entry) := e.emit (#[.accept], 0)
    some ⟨insts, entry, e.groupCount⟩
  else none

end Highlighter.Regex
