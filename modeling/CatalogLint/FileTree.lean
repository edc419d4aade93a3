/-! # File trees

    Files and folders as a value.  A folder holds named entries, each a file, a folder again,
    or something else that only has its place there. -/

namespace CatalogLint

/-- A file with its bytes, a folder with its named entries, or neither: a link, a pipe, a
    device.  What a link leads to is no part of the tree. -/
inductive FileTree where
  | file (bytes : ByteArray)
  | folder (entries : List (String × FileTree))
  | special

namespace FileTree

/-- The folder without entries. -/
def empty : FileTree := .folder []

/-- The tree is a folder. -/
def isFolder : FileTree → Bool
  | .folder _ => true
  | .file _ | .special => false

/-- The entries of a folder; nothing else has any. -/
def entries : FileTree → List (String × FileTree)
  | .folder entries => entries
  | .file _ | .special => []

/-- The tree that names lead to, one inside the other. -/
def descend? (tree : FileTree) : List String → Option FileTree
  | [] => some tree
  | name :: rest => (tree.entries.lookup name).bind (·.descend? rest)

/-! ## Changes -/

/-- The entries with one under a name set to a tree; a new one comes last. -/
def setEntry (name : String) (tree : FileTree) :
    List (String × FileTree) → List (String × FileTree)
  | [] => [(name, tree)]
  | (other, old) :: rest =>
      if other = name then (name, tree) :: rest else (other, old) :: setEntry name tree rest

mutual

/-- One tree laid over what was there, if anything was: its files take the place of that, its
    folders keep the entries that were there, and whatever is neither leaves it as it was. -/
def overlay (old : Option FileTree) : FileTree → FileTree
  | .file bytes => .file bytes
  | .folder new => .folder (overlayEntries ((old.map entries).getD []) new)
  | .special => old.getD .special

/-- The entries of one folder laid over those of another. -/
def overlayEntries (old : List (String × FileTree)) :
    List (String × FileTree) → List (String × FileTree)
  | [] => old
  | (name, tree) :: rest =>
      overlayEntries (setEntry name (overlay (old.lookup name) tree) old) rest

end

/-- The tree with another laid over what names lead to; folders on the way are made. -/
def put (tree : FileTree) (names : List String) (subtree : FileTree) : FileTree :=
  match names with
  | [] => overlay tree subtree
  | name :: rest =>
      let entry := (tree.entries.lookup name).getD .empty
      .folder (setEntry name (entry.put rest subtree) tree.entries)

end FileTree

end CatalogLint
