import Highlighter.Text.Words

/-!
# Paths

A path is a text whose pieces are separated by slashes. Empty pieces and pieces that are a single
dot count for nothing, except for a slash or a dot at the very beginning.
-/

namespace Highlighter.Path

/-! ## Components -/

/-- A part of a path that counts. -/
inductive Component where
  /-- The root of all directories. -/
  | root
  /-- The directory that the path starts from. -/
  | current
  /-- The directory above. -/
  | parent
  | name (name : List Char)
deriving DecidableEq, Repr

/-- The pieces of a path between slashes. -/
def pieces (path : List Char) : List (List Char) := Words.piecesChars (· == '/') path

/-- Whether a piece counts for nothing. -/
def isVoid (piece : List Char) : Bool := piece == [] || piece == ['.']

/-- The component of a piece. -/
def Component.ofPiece? (piece : List Char) : Option Component :=
  if isVoid piece then none
  else if piece = ['.', '.'] then some .parent
  else some (.name piece)

/-- What a path begins with, apart from the pieces that count. -/
def leading (path : List Char) : List Component :=
  match pieces path with
  | [] :: _ :: _ => [.root]
  | ['.'] :: _ => [.current]
  | _ => []

/-- The components of a path. -/
def components (path : List Char) : List Component :=
  leading path ++ (pieces path).filterMap Component.ofPiece?

/-! ## File names -/

/-- The last component of a path, if it is a name. -/
def fileName? (path : List Char) : Option (List Char) :=
  match (components path).getLast? with
  | some (.name n) => some n
  | _ => none

/-- A name cut at its last dot, unless it has none or begins with it. -/
def splitAtDot (name : List Char) : List Char × Option (List Char) :=
  let extension := (name.reverse.takeWhile (· != '.')).reverse
  let stem := name.take (name.length - extension.length - 1)
  if !name.contains '.' || stem.isEmpty then (name, none) else (stem, some extension)

/-- The extension of a file name. -/
def extension? (path : String) : Option String :=
  (fileName? path.toList).bind fun n ↦ (splitAtDot n).2.map String.ofList

/-- The file name without its extension. -/
def stem? (path : String) : Option String :=
  (fileName? path.toList).map fun n ↦ String.ofList (splitAtDot n).1

/-! ## The home directory -/

/-- Drops the pieces at both ends that count for nothing. -/
def trimVoid (ps : List (List Char)) : List (List Char) :=
  ((ps.dropWhile isVoid).reverse.dropWhile isVoid).reverse

/-- The pieces written as a path. -/
def ofPieces (ps : List (List Char)) : List Char := (List.intersperse ['/'] ps).flatten

/-- The rest of a path that begins with the component `~`. -/
def afterTilde? (path : List Char) : Option (List Char) :=
  match pieces path with
  | ['~'] :: rest => some (ofPieces (trimVoid rest))
  | _ => none

/-- Whether a path starts from the root of all directories. -/
def isAbsolute (path : List Char) : Bool := path.head? == some '/'

/-- A path that is taken from a directory. An absolute path does not depend on the directory, and
the empty directory is the one that paths start from. -/
def join (directory path : List Char) : List Char :=
  if isAbsolute path || directory.isEmpty then path
  else if directory.getLast? = some '/' then directory ++ path
  else directory ++ '/' :: path

/-- Replaces a first component `~` by the home directory, if that is known. -/
def expandHome (path : String) (home : Option String) : String :=
  match afterTilde? path.toList, home with
  | some rest, some home => String.ofList (join home.toList rest)
  | _, _ => path

end Highlighter.Path
