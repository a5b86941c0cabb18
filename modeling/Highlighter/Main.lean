import Highlighter.CommandLine
import Highlighter.Regex.Search

/-!
# The program

Reads the arguments, prints what the call prints, and ends with a message where it failed.
-/

namespace Highlighter

/-- Why reading a file failed. -/
def fileErrorOf : IO.Error → FileError
  | .noFileOrDirectory .. | .noSuchThing .. => .notFound
  | .inappropriateType _ code details =>
    if code = 21 then .isDirectory
    else if code = 20 then .notDirectory
    else .system details
  | .permissionDenied _ code details =>
    .system (details ++ " (os error " ++ toString code ++ ")")
  | e => .system (toString e)

/-- What a file of the system holds. -/
def readSystemFile (path : String) : IO (Except FileError ByteArray) := do
  try
    return .ok (← IO.FS.readBinFile path)
  catch e => return .error (fileErrorOf e)

/-- Files as the system has them. A file that cannot be read for a reason of its own is there. -/
def systemFiles : FileAccess IO where
  read := readSystemFile
  isFile path := do
    match ← readSystemFile path with
    | .ok _ | .error (.system _) => return true
    | .error _ => return false

end Highlighter

open Highlighter in
/-- Runs the program. -/
def main (words : List String) : IO UInt32 := do
  let home ← IO.getEnv "HOME"
  let o ← run Regex.compile systemFiles home words
  IO.print o.text
  match o.error with
  | none => return 0
  | some e =>
    IO.eprintln ("Error: " ++ e.message)
    return 1
