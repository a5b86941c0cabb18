import Highlighter.Error
import Highlighter.Render

/-!
# Printing as a run goes

A run prints piece by piece. A step that fails ends it, but what was printed before stays printed.
Most steps print nothing; they are steps of an underlying monad, through which files are reached.
-/

namespace Highlighter

/-- What a run has printed, and the error that it ended in. -/
structure Outcome where
  output : List Piece
  error : Option Error

/-- What is sent to the standard output. -/
def Outcome.text (o : Outcome) : String := String.join (o.output.map Piece.render)

/-- Steps of a run, with what was printed so far. -/
abbrev Session (m : Type → Type) := ExceptT Error (StateT (Array Piece) m)

namespace Session

variable {m : Type → Type} [Monad m]

/-- Prints a piece. -/
def print (p : Piece) : Session m Unit := modify (·.push p)

/-- Prints pieces, one after the other. -/
def printAll (ps : List Piece) : Session m Unit := ps.forM print

/-- Steps that print nothing. -/
def quietly {α : Type} (x : ExceptT Error m α) : Session m α := ExceptT.mk (StateT.lift x.run)

/-- The error that a run ended in, if it did. -/
def error? : Except Error Unit → Option Error
  | .ok () => none
  | .error e => some e

/-- The outcome of a run, before which nothing is printed. -/
def outcome (x : Session m Unit) : m Outcome := do
  let (result, output) ← x.run.run #[]
  return ⟨output.toList, error? result⟩

end Session

end Highlighter
