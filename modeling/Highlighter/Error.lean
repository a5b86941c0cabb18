import Highlighter.Grammar.Basic

/-!
# Errors

Everything that can go wrong between a command line and its output.
-/

namespace Highlighter

/-- Why a file cannot be read. -/
inductive FileError where
  | notFound
  | notDirectory
  | isDirectory
  | invalidEncoding
  /-- What the system says. -/
  | system (message : String)
deriving DecidableEq, Repr

/-- The text of an error. -/
def FileError.message : FileError → String
  | notFound => "No such file or directory (os error 2)"
  | notDirectory => "Not a directory (os error 20)"
  | isDirectory => "Is a directory (os error 21)"
  | invalidEncoding => "stream did not contain valid UTF-8"
  | system message => message

/-- Why an operation failed. -/
inductive Error where
  | file (e : FileError)
  /-- A grammar or theme document cannot be read. -/
  | document
  /-- The settings cannot be read. -/
  | config
  | grammar (e : GrammarError)
  | unknownGrammar (key : String)
  | unknownTheme (key : String)
  /-- An option of the command line lacks its value. -/
  | missingValue (option : String)
  /-- A word of the command line looks like an option and is none. -/
  | unknownOption (option : String)
  /-- The command line names no file. -/
  | noInputFile
deriving DecidableEq, Repr

/-- The text of an error. -/
def Error.message : Error → String
  | file e => "I/O error: " ++ e.message
  | document => "JSON error"
  | config => "Config error"
  | grammar e => "Grammar error: " ++ e.message
  | unknownGrammar key => "No such grammar: " ++ key
  | unknownTheme key => "No such theme: " ++ key
  | missingValue option => option ++ " requires a value"
  | unknownOption option => "unknown option: " ++ option
  | noInputFile => "no input file"

end Highlighter
