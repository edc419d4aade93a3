import CatalogLint.FileTree
import CatalogLint.Path

/-! # File systems

    A file system is a tree with a working directory.  Paths are followed from there,
    or from the root if they are absolute. -/

namespace CatalogLint

/-- A tree of files, and the names that lead from its root to the working directory. -/
structure FileSystem where
  root : FileTree := .empty
  workDir : List String := []

namespace FileSystem

/-! ## Following paths -/

/-- What keeps a path from leading anywhere. -/
inductive PathError where
  | notFound
  | notFolder
  | isFolder
  deriving DecidableEq, Repr

namespace PathError

/-- The words for an error, as the operating system has them. -/
def message : PathError → String
  | .notFound => "No such file or directory (os error 2)"
  | .notFolder => "Not a directory (os error 20)"
  | .isFolder => "Is a directory (os error 21)"

end PathError

/-- A place in the tree: the names that lead to it, the innermost first. -/
abbrev Place := List String

/-- What stands at a place. -/
def at? (files : FileSystem) (place : Place) : Option FileTree :=
  files.root.descend? place.reverse

/-- The place that paths of a kind start from. -/
def start (files : FileSystem) (absolute : Bool) : Place :=
  if absolute then [] else files.workDir.reverse

/-- One segment of a path, taken from a place that must be a folder. -/
def step (files : FileSystem) (place : Place) (segment : String) : Except PathError Place :=
  match files.at? place with
  | none => .error .notFound
  | some (.file _) | some .special => .error .notFolder
  | some (.folder entries) =>
      if !Path.counts segment then .ok place
      else if segment = ".." then .ok place.tail
      else if (entries.lookup segment).isSome then .ok (segment :: place)
      else .error .notFound

/-- The place that a path leads to. -/
def locate (files : FileSystem) (path : String) : Except PathError Place :=
  if path.isEmpty then .error .notFound
  else (Path.segments path).foldlM files.step (files.start (Path.isAbsolute path))

/-- What stands where a path leads. -/
def find? (files : FileSystem) (path : String) : Option FileTree :=
  match files.locate path with
  | .ok place => files.at? place
  | .error _ => none

/-- The path leads to a folder. -/
def isFolderAt (files : FileSystem) (path : String) : Bool :=
  (files.find? path).any (·.isFolder)

/-- The bytes of the file that a path leads to. -/
def bytesAt? (files : FileSystem) (path : String) : Option ByteArray :=
  match files.find? path with
  | some (.file bytes) => some bytes
  | _ => none

/-! ## Adding and writing -/

/-- The place that a path names, whatever stands there: a step upwards takes the name
    before it away. -/
def placeOf (files : FileSystem) (path : String) : Place :=
  (Path.segments path).foldl
    (fun place segment =>
      if !Path.counts segment then place
      else if segment = ".." then place.tail
      else segment :: place)
    (files.start (Path.isAbsolute path))

/-- The file system with a tree laid over what stands at a path; folders on the way are
    made. -/
def add (files : FileSystem) (path : String) (tree : FileTree) : FileSystem :=
  { files with root := files.root.put (files.placeOf path).reverse tree }

/-- The place where a file can be written under a path.  The folder it is in must be
    there, no folder must stand in its place, and no slash may follow its name. -/
def writePlace (files : FileSystem) (path : String) : Except PathError Place :=
  let segments := Path.segments path
  match segments.reverse.dropWhile String.isEmpty with
  | [] => .error (if path.isEmpty then .notFound else .isFolder)
  | last :: before => do
      let folder ← before.reverse.foldlM files.step (files.start (Path.isAbsolute path))
      match files.at? folder with
      | some (.folder entries) =>
          if !Path.counts last || last = ".." || before.length + 1 < segments.length
              || (entries.lookup last).any FileTree.isFolder then
            .error .isFolder
          else .ok (last :: folder)
      | some (.file _) | some .special => .error .notFolder
      | none => .error .notFound

/-- The file system with a file written under a path. -/
def withFile (files : FileSystem) (path : String) (bytes : ByteArray) :
    Except PathError FileSystem :=
  (files.writePlace path).map fun place =>
    { files with root := files.root.put place.reverse (.file bytes) }

end FileSystem

end CatalogLint
