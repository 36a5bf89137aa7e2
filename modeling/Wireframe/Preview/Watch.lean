import Wireframe.FilePath
import Wireframe.Table

/-! # Watching files

A watcher compares the times at which files were changed with those it saw before. A file
that is new, that has a later time, or that has gone counts as changed.
-/

namespace Wireframe.Preview

/-- The files that are there, with the times at which they were changed. -/
abbrev Times := Table FilePath Int

/-- A watcher: the files it looks at, and the times it saw last. -/
structure Watcher where
  paths : List FilePath
  seen : Times

namespace Watcher

/-- The times of the watched files that are there. -/
def scan (w : Watcher) (times : Times) : Times :=
  w.paths.foldl (fun found path =>
    match times.get? path with
    | some time => found.put path time
    | none => found) []

/-- Takes the present times as seen. -/
def observe (w : Watcher) (times : Times) : Watcher := { w with seen := w.scan times }

/-- Whether a file with a time is new or has changed since. -/
def isNewer (w : Watcher) (path : FilePath) (time : Int) : Bool :=
  match w.seen.get? path with
  | none => true
  | some before => before < time

/-- The files that have changed since the watcher last looked: those that are there first, then those
that have gone. -/
def poll (w : Watcher) (times : Times) : List FilePath × Watcher :=
  let now := w.scan times
  let changed := Table.keys (now.filter fun (path, time) => w.isNewer path time)
  let gone := w.seen.keys.filter fun path => (now.get? path).isNone
  (changed ++ gone, { w with seen := now })

end Watcher

end Wireframe.Preview
