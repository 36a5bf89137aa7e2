import Std.Time.Zoned
import Wireframe.Command.Run

/-! # The program

Looks up the files that a command line may concern, runs it on them, and then writes what
has changed and prints what there is to tell.
-/

namespace Wireframe

namespace Files

/-- What stands under some names on the disk. What cannot be read is taken for missing. -/
def entryOnDisk (names : List String) : IO (Option Entry) := do
  let path := (← IO.currentDir) / ("/" ++ "/".intercalate names)
  if ← path.isDir then return some .directory
  try return some (.file (← IO.FS.readBinFile path).toList)
  catch _ => return none

/-- Adds what stands on the disk under names, followed from a directory on. -/
def observeOn (files : Files) (here : List String) : List String → IO Files
  | [] => return files
  | name :: rest => do
    if name == ".." then observeOn files here.dropLast rest
    else
      let names := here ++ [name]
      match ← entryOnDisk names with
      | none => return files
      | some entry =>
        let files := { files with entries := files.entries.put names entry }
        match entry with
        | .directory => observeOn files names rest
        | .file _ => return files

/-- Adds what stands on the disk at a path and on the way there. -/
def observe (files : Files) (path : FilePath) : IO Files :=
  match files.namesOf path with
  | some names => observeOn files [] names
  | none => return files

/-- Puts an entry on the disk. -/
def settle (names : List String) (entry : Entry) : IO Unit := do
  let path := (← IO.currentDir) / ("/" ++ "/".intercalate names)
  match entry with
  | .directory => IO.FS.createDirAll path
  | .file bytes => IO.FS.writeBinFile path ⟨bytes.toArray⟩

end Files

namespace Command

/-- The files that a command line may concern. The second look finds those that the settings name. -/
def filesFor (words : List String) : IO Files := do
  let start : Files := ⟨FilePath.ofText (← IO.currentDir).toString, []⟩
  let files ← (paths start words).foldlM Files.observe start
  (paths files words).foldlM Files.observe files

/-- The moment at hand in microseconds, and by how many its clock differs from the one of the place. -/
def moment : IO (Int × Int) := do
  let now ← Std.Time.Timestamp.now
  let zone ← try
    pure ((← Std.Time.Database.defaultGetLocalZoneRules).timezoneAt now).offset.second.val
  catch _ => pure 0
  return (now.toNanosecondsSinceUnixEpoch.val / 1000, zone * 1000000)

end Command

end Wireframe

open Wireframe in
/-- Runs a command line. -/
def main (words : List String) : IO UInt32 := do
  let before ← Command.filesFor words
  let report := Command.run before words
  let (created, difference) ← Command.moment
  for (names, entry) in (report.filesAt created).changesFrom before do Files.settle names entry
  IO.print report.output
  IO.eprint (report.messages (Log.clockText (created + difference)))
  match report.ending with
  | .usage => IO.eprintln Command.helpText
  | .broken cause => IO.eprintln cause.message
  | _ => pure ()
  return report.ending.status.toUInt32
