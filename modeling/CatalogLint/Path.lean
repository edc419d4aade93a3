/-! # Paths

    A path is a text of names between slashes.  What it means is the list of its
    components: empty names and single dots do not count, except for a dot at the
    start of a relative path.  Two paths are the same if their components are. -/

namespace CatalogLint.Path

/-! ## Components -/

/-- A step of a path: the root, the directory itself, the one above, or a name. -/
inductive Component where
  | root
  | current
  | parent
  | name (text : String)
  deriving DecidableEq, Repr

/-- The path starts at the root. -/
def isAbsolute (path : String) : Bool :=
  path.toList.head? = some '/'

/-- The names between the slashes of a path, empty ones included; the slash of the
    root stands before the first of them. -/
def segments (path : String) : List String :=
  let text := if isAbsolute path then path.toList.tail else path.toList
  (text.splitOn '/').map String.ofList

/-- A segment that is a component wherever it stands. -/
def counts (segment : String) : Bool :=
  segment != "" && segment != "."

/-- The component that a segment stands for. -/
def componentOf (segment : String) : Component :=
  if segment = ".." then .parent else .name segment

/-- The components of segments: a dot at the very start of a relative path counts. -/
def componentsOf (absolute : Bool) (segments : List String) : List Component :=
  let tail (segments : List String) := (segments.filter counts).map componentOf
  if absolute then .root :: tail segments
  else
    match segments with
    | "." :: rest => .current :: tail rest
    | _ => tail segments

/-- The components of a path. -/
def components (path : String) : List Component :=
  componentsOf (isAbsolute path) (segments path)

/-- The two paths are made of the same components. -/
def same (first second : String) : Bool :=
  components first == components second

/-! ## Parts of a path -/

/-- The name that a path ends with, if it ends with one. -/
def fileName? (path : String) : Option String :=
  match (components path).getLast? with
  | some (.name text) => some text
  | _ => none

/-- A name cut at its last dot.  A name without a dot, or with one at its start only,
    is not cut. -/
def cutName (name : String) : String × Option String :=
  let chars := name.toList.reverse
  let tail := chars.takeWhile (· != '.')
  match chars.drop tail.length with
  | _ :: head =>
      if head.isEmpty then (name, none)
      else (String.ofList head.reverse, some (String.ofList tail.reverse))
  | [] => (name, none)

/-- The name that a path ends with, without its extension. -/
def stem? (path : String) : Option String :=
  (fileName? path).map fun name => (cutName name).1

/-- The part of the last name after its last dot. -/
def extension? (path : String) : Option String :=
  (fileName? path).bind fun name => (cutName name).2

/-- The segments with those at the end that are no components taken away.  The flag
    says that a leading dot counts. -/
def trimSegments (dotCounts : Bool) (segments : List String) : List String :=
  match segments with
  | [] => []
  | first :: rest =>
      match (rest.reverse.dropWhile fun segment => !counts segment).reverse with
      | [] => if counts first || (dotCounts && first = ".") then [first] else []
      | kept => first :: kept

/-- A path written from its segments. -/
def write (absolute : Bool) (segments : List String) : String :=
  (if absolute then "/" else "") ++ "/".intercalate segments

/-- The path without its last component, as it is spelled; the root and the empty path
    have no such path. -/
def parent? (path : String) : Option String :=
  let absolute := isAbsolute path
  match trimSegments (!absolute) (segments path) with
  | [] => none
  | kept => some (write absolute (trimSegments (!absolute) kept.dropLast))

/-- A name, or a relative path, under a directory. -/
def join (dir path : String) : String :=
  if isAbsolute path then path
  else if dir.isEmpty || dir.toList.getLast? = some '/' then dir ++ path
  else dir ++ "/" ++ path

/-- What is left of segments once the given number of components has been taken from
    their start. -/
def dropComponents : Nat → List String → List String
  | _, [] => []
  | count, segment :: rest =>
      if !counts segment then dropComponents count rest
      else
        match count with
        | 0 => segment :: rest
        | count + 1 => dropComponents count rest

/-- The rest of a path under a directory, as it is spelled, if the components of the
    directory come first in it. -/
def under? (dir path : String) : Option String :=
  let base := components dir
  let own := components path
  if base.isPrefixOf own then
    let absolute := isAbsolute path
    let pieces := segments path
    match base with
    | [] => some (write absolute (trimSegments (!absolute) pieces))
    | first :: others =>
        let pieces := if first = .current then pieces.tail else pieces
        let count := if first = .root || first = .current then others.length else base.length
        some (write false (trimSegments false (dropComponents count pieces)))
  else none

end CatalogLint.Path
