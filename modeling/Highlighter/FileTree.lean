import Highlighter.CommandLine

/-!
# Files as a value

A tree of files that is given as a whole, for runs that do not touch the system. Directories are
there as far as files are in them.
-/

namespace Highlighter

/-- Files by the names on the way to them. -/
structure FileTree where
  files : List (List (List Char) × ByteArray)

namespace FileTree

/-- What is found in a tree. -/
inductive Entry where
  | file (contents : ByteArray)
  | directory

/-- The tree without files. -/
def empty : FileTree := ⟨[]⟩

/-- The names on the way that a path describes. -/
def names (path : String) : List (List Char) :=
  (Path.pieces path.toList).filter (!Path.isVoid ·)

/-- Puts a file into a tree, in place of one on the same path. -/
def insert (t : FileTree) (path : String) (contents : ByteArray) : FileTree :=
  ⟨(names path, contents) :: t.files.filter (·.1 != names path)⟩

/-- What is at the end of a way. -/
def entry? (t : FileTree) (way : List (List Char)) : Option Entry :=
  match t.files.lookup way with
  | some contents => some (.file contents)
  | none =>
    if way.isEmpty || t.files.any fun f ↦ way.isPrefixOf f.1 then some .directory else none

/-- Goes on from a way along the pieces of a path. Every piece needs a directory to start from. -/
def walk (t : FileTree) (way : List (List Char)) : List (List Char) → Except FileError Entry
  | [] => match t.entry? way with
    | some e => .ok e
    | none => .error .notFound
  | p :: ps => match t.entry? way with
    | none => .error .notFound
    | some (.file _) => .error .notDirectory
    | some .directory =>
      if Path.isVoid p then t.walk way ps
      else if p = ['.', '.'] then t.walk way.dropLast ps
      else t.walk (way ++ [p]) ps

/-- What a path leads to. The empty path leads nowhere. -/
def find (t : FileTree) (path : String) : Except FileError Entry :=
  if path.isEmpty then .error .notFound else t.walk [] (Path.pieces path.toList)

/-- What a file holds. -/
def read (t : FileTree) (path : String) : Except FileError ByteArray :=
  match t.find path with
  | .ok (.file contents) => .ok contents
  | .ok .directory => .error .isDirectory
  | .error e => .error e

/-- Whether a path leads to a file. -/
def isFile (t : FileTree) (path : String) : Bool :=
  match t.find path with
  | .ok (.file _) => true
  | _ => false

/-- The files of a tree. -/
def access (t : FileTree) : FileAccess Id where
  read := t.read
  isFile := t.isFile

end FileTree

end Highlighter
