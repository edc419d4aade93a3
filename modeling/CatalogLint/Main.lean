import CatalogLint.CommandLine.Execution
import CatalogLint.Instant
import Std.Time.DateTime.Timestamp

/-! # The program

    Puts the files that a call looks at into a file system, makes the call, prints what
    it says and writes its report. -/

namespace CatalogLint.CommandLine

/-- Reads what a path of the disk leads to, so many folders deep.  Deeper folders, and those
    that are never searched, are read as empty.  The links in a folder are not followed. -/
def readTree (depth : Nat) (path : String) : IO (Option FileTree) := do
  try
    let place := (← IO.currentDir) / path
    match (← place.metadata).type with
    | .file => return some (.file (← IO.FS.readBinFile place))
    | .dir =>
        match depth with
        | 0 => return some .empty
        | depth + 1 =>
            let mut entries := #[]
            for entry in ← place.readDir do
              let name := entry.fileName
              if skippedDirs.contains name then
                entries := entries.push (name, .empty)
              else
                match (← entry.path.symlinkMetadata).type with
                | .symlink | .other => entries := entries.push (name, .special)
                | .file | .dir =>
                    if let some tree ← readTree depth (Path.join path name) then
                      entries := entries.push (name, tree)
            return some (.folder entries.toList)
    | .symlink | .other => return some .special
  catch _ => return none

/-- The file system with what stands on the disk where a call looks. -/
def readLooks (looks : List Look) (files : FileSystem) : IO FileSystem :=
  looks.foldlM
    (fun files look => do
      match ← readTree look.depth look.path with
      | some tree => return files.add look.path tree
      | none => return files)
    files

/-- The file system with all that a call looks at. -/
def readFiles (arguments : List String) : IO FileSystem := do
  let workDir := ((← IO.currentDir).components).filter (!·.isEmpty)
  let files : FileSystem := { root := FileTree.empty.put workDir .empty, workDir }
  match Command.read [] arguments with
  | .error _ => return files
  | .ok command =>
      let files ← readLooks command.namedFiles files
      readLooks (command.searchedFolders files) files

/-- Colors are on if they are asked for, or if nothing speaks against them and a person
    reads along. -/
def wantsColor : IO Bool := do
  let isOn (name : String) : IO (Option Bool) := do
    return (← IO.getEnv name).map (· != "0")
  if (← isOn "CLICOLOR_FORCE") == some true then return true
  else if (← isOn "NO_COLOR").isSome || (← isOn "CLICOLOR") == some false then return false
  else (← IO.getStdout).isTty

/-- The time at which the call is made. -/
def now : IO Instant := do
  return ⟨(← Std.Time.Timestamp.now).toNanosecondsSinceUnixEpoch.toInt.toNat⟩

/-- Makes a call on the files of the disk, and gives its exit code. -/
def runOnDisk (arguments : List String) : IO UInt32 := do
  let setup : Setup := { color := ← wantsColor, time := (← now).written }
  let result := call setup arguments (← readFiles arguments)
  if let some path := result.saved then
    if let some bytes := result.files.bytesAt? path then IO.FS.writeBinFile path bytes
  IO.print result.output
  IO.eprint result.errors
  return result.exitCode.toUInt32

end CatalogLint.CommandLine

/-- The program. -/
def main (arguments : List String) : IO UInt32 :=
  CatalogLint.CommandLine.runOnDisk arguments
