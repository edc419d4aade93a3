import CatalogLint.FileSystem
import CatalogLint.Text.Encoding
import CatalogLint.Text.Sweep

/-! # Finding files

    A directory pattern names a directory and says whether the directories below it
    belong to it.  `DirPattern.files` lists the files of the pattern that have one of
    the wanted extensions, in the order of their paths, and `SourceFile` is a file
    that has been read as text. -/

namespace CatalogLint

open Text

/-! ## Directory patterns -/

/-- A directory, with the directories below it or without them. -/
structure DirPattern where
  base : String
  recursive : Bool
  deriving DecidableEq, Repr

namespace DirPattern

/-- The text without the slashes at its end. -/
def trimSlashes (text : List Char) : List Char :=
  (text.reverse.dropWhile (· == '/')).reverse

/-- Reads a pattern: what stands before the first `**` is the directory, and the two
    stars ask for the directories below it. -/
def parse (pattern : String) : DirPattern :=
  match splitOnce ['*', '*'] pattern.toList with
  | some (start, _) =>
      let base := trimSlashes start
      ⟨if base.isEmpty then "." else String.ofList base, true⟩
  | none =>
      let base := trimSlashes pattern.toList
      ⟨if base.isEmpty then "/" else String.ofList base, false⟩

/-- The path as it is shown: relative to the directory of the pattern, with forward
    slashes. -/
def displayName (pattern : DirPattern) (path : String) : String :=
  let shown := (Path.under? pattern.base path).getD path
  String.ofList (shown.toList.map fun c => if c = '\\' then '/' else c)

end DirPattern

/-! ## Walking -/

/-- The directories whose content is never looked at. -/
def skippedDirs : List String := [".git", "node_modules", "target"]

/-- The name has one of the extensions, without regard to the case of ASCII letters. -/
def hasExtension (extensions : List String) (name : String) : Bool :=
  match (Path.cutName name).2 with
  | some extension =>
      extensions.any fun wanted =>
        wanted.toList.map Char.toLower == extension.toList.map Char.toLower
  | none => false

namespace FileTree

mutual

/-- The files of a tree that stands under a name, each with the names that lead to it.  What is
    neither a file nor a folder is passed by. -/
def filesUnder (recursive : Bool) (name : String) : FileTree → List (List String × ByteArray)
  | .file bytes => [([name], bytes)]
  | .folder entries =>
      if recursive && !skippedDirs.contains name then
        (filesIn recursive entries).map fun (names, bytes) => (name :: names, bytes)
      else []
  | .special => []

/-- The files of the entries of a folder, each with the names that lead to it. -/
def filesIn (recursive : Bool) : List (String × FileTree) → List (List String × ByteArray)
  | [] => []
  | (name, tree) :: rest => filesUnder recursive name tree ++ filesIn recursive rest

end

/-- The first list of names comes before the second one, or is the same. -/
def namesLe : List String → List String → Bool
  | [], _ => true
  | _ :: _, [] => false
  | first :: firsts, second :: seconds =>
      decide (first < second) || (first == second && namesLe firsts seconds)

/-- The files of a folder whose name has one of the extensions, in the order of the
    names on the way to them. -/
def filesWith (recursive : Bool) (extensions : List String) :
    FileTree → List (List String × ByteArray)
  | .file _ | .special => []
  | .folder entries =>
      let found := (filesIn recursive entries).filter fun (names, _) =>
        names.getLast?.any (hasExtension extensions)
      found.mergeSort fun first second => namesLe first.1 second.1

end FileTree

/-- Why the files of a pattern cannot be listed. -/
inductive DiscoveryError where
  | missingCatalogDir (path : String)
  | notADirectory (path : String)
  deriving DecidableEq, Repr

namespace DirPattern

/-- The files of a pattern with one of the extensions, in the order of the names on the
    way to them.  A directory that is not there has no files. -/
def files (pattern : DirPattern) (extensions : List String) (system : FileSystem) :
    Except DiscoveryError (List (String × ByteArray)) :=
  match system.find? pattern.base with
  | none => .ok []
  | some (.file _) | some .special => .error (.notADirectory pattern.base)
  | some base =>
      .ok ((base.filesWith pattern.recursive extensions).map fun (names, bytes) =>
        (Path.join pattern.base ("/".intercalate names), bytes))

end DirPattern

/-! ## Source files -/

/-- A file that has been read: its path, the name it is shown by, and its text. -/
structure SourceFile where
  path : String
  name : String
  content : String
  deriving DecidableEq, Repr

namespace SourceFile

/-- The last name of the path without its extension; for a catalog, its language. -/
def stem (file : SourceFile) : String :=
  (Path.stem? file.path).getD ""

/-- The directory that the file is in. -/
def group (file : SourceFile) : String :=
  (Path.parent? file.path).getD "."

end SourceFile

/-- The files that can be read as text; the others are left out. -/
def readAll (pattern : DirPattern) (files : List (String × ByteArray)) : List SourceFile :=
  files.filterMap fun (path, bytes) =>
    (decode? bytes).map fun content => ⟨path, pattern.displayName path, content⟩

/-- The catalogs of a pattern.  The directory must be there. -/
def discoverCatalogs (pattern extension : String) (files : FileSystem) :
    Except DiscoveryError (List SourceFile) :=
  let dir := DirPattern.parse pattern
  match files.find? dir.base with
  | none => .error (.missingCatalogDir dir.base)
  | some _ => (dir.files [extension] files).map (readAll dir)

/-- The templates of a pattern. -/
def discoverTemplates (pattern : String) (extensions : List String) (files : FileSystem) :
    Except DiscoveryError (List SourceFile) :=
  let dir := DirPattern.parse pattern
  (dir.files extensions files).map (readAll dir)

/-! ## Groups -/

/-- The groups with one more item: it joins the group of its directory, or starts a new
    one at the end. -/
def addToGroups {α : Type} (dir : String) (item : α) :
    List (String × List α) → List (String × List α)
  | [] => [(dir, [item])]
  | (other, members) :: rest =>
      if Path.same other dir then (other, members ++ [item]) :: rest
      else (other, members) :: addToGroups dir item rest

/-- Items split by their directory, in the order in which the directories first occur. -/
def groupByDirectory {α : Type} (dirOf : α → String) (items : List α) : List (List α) :=
  (items.foldl (fun groups item => addToGroups (dirOf item) item groups) []).map Prod.snd

end CatalogLint
