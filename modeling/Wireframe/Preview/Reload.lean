import Wireframe.Files
import Wireframe.Preview.Session
import Wireframe.Preview.Watch

/-! # Reloading

What brings changes of files into a session. Changes are collected while they follow
each other closely, and applied together when they have come to rest: the theme first,
so that the document is rendered with it.
-/

namespace Wireframe

/-- What a theme is read from when it is read from a path. -/
def Files.themeContent (files : Files) (path : FilePath) : Theme.Content :=
  match files.readLines path with
  | .ok bytes => .bytes bytes
  | .error .missing => .missing
  | .error refusal => .unreadable (refusal.message path.text)

namespace Preview

/-- A reloader: its session, the files it looks after, the changes it has collected, and whether it
waits for them to come to rest. -/
structure Reloader where
  session : Session
  /-- Whether messages are encoded on their way to the surfaces, as a hub does. -/
  encodes : Bool
  documentPath : FilePath
  themePath : Option FilePath
  watcher : Watcher
  pending : List FilePath
  waiting : Bool

/-- A step of a reloader: the reloader after it, and the messages it sends. -/
structure Reloaded where
  reloader : Reloader
  sent : List HostMessage

/-- What breaks a reload off. -/
inductive ReloadFault where
  | theme (cause : Theme.Breakdown)
  | document (cause : Yaml.ScalarFault)
  /-- A message has no encoding. -/
  | unsent
  /-- A theme is to be reloaded where none is looked after. -/
  | noTheme
deriving DecidableEq, Repr

namespace Reloader

/-- A reloader that has not seen any file yet. -/
def start (session : Session) (encodes : Bool) (documentPath : FilePath)
    (themePath : Option FilePath) : Reloader :=
  ⟨session, encodes, documentPath, themePath, ⟨documentPath :: themePath.toList, []⟩, [], false⟩

/-- Collects a change, and waits for it to come to rest. -/
def collect (r : Reloader) (path : FilePath) : Reloader :=
  { r with
    pending := if r.pending.contains path then r.pending else r.pending ++ [path]
    waiting := true }

/-- Looks for changes and collects them. -/
def poll (r : Reloader) (times : Times) : List FilePath × Reloader :=
  let (changed, watcher) := r.watcher.poll times
  (changed, changed.foldl collect { r with watcher := watcher })

/-- Whether a message about the last failure does not get through. -/
def loses (r : Reloader) (session : Session) : Bool := r.encodes && !session.canTell

/-- The session has changed and sends messages, of which the last one may tell of a failure. -/
def send (r : Reloader) (session : Session) (sent : List HostMessage) (tells : Bool) :
    Reloaded × Option ReloadFault :=
  let after := { r with session := session }
  if tells && r.loses session then (⟨after, sent.dropLast⟩, some .unsent)
  else (⟨after, sent⟩, none)

/-- Loads the theme of a file into the session. A file that is not there stands for the defaults.
The failure after a good document is told anew. -/
def reloadThemeAt (r : Reloader) (path : FilePath) (files : Files) :
    Reloaded × Option ReloadFault :=
  let file :=
    if files.contains path then some (files.themeContent path, path.text) else none
  let reaction := r.session.themeFileChanged file
  match reaction.result with
  | .ok _ => r.send reaction.session reaction.sent reaction.session.slot.good.isSome
  | .error cause => (⟨{ r with session := reaction.session }, []⟩, some (.theme cause))

/-- Loads the theme. -/
def reloadTheme (r : Reloader) (files : Files) : Reloaded × Option ReloadFault :=
  match r.themePath with
  | some path => r.reloadThemeAt path files
  | none => (⟨r, []⟩, some .noTheme)

/-- Loads the document into the session. A file that cannot be read changes nothing. -/
def reloadDocument (r : Reloader) (files : Files) : Reloaded × Option ReloadFault :=
  match files.read r.documentPath with
  | .error _ => (⟨r, []⟩, none)
  | .ok bytes =>
    match r.session.documentChanged (.bytes bytes) with
    | .ok reaction => r.send reaction.session reaction.sent true
    | .error cause => (⟨r, []⟩, some (.document cause))

/-- The reloader without the changes it had collected. -/
def settled (r : Reloader) : Reloader := { r with pending := [], waiting := false }

/-- Reloads the theme if it is among the changes that were collected. -/
def flushTheme (r : Reloader) (pending : List FilePath) (files : Files) :
    Reloaded × Option ReloadFault :=
  match r.themePath with
  | some path => if pending.contains path then r.reloadThemeAt path files else (⟨r, []⟩, none)
  | none => (⟨r, []⟩, none)

/-- Reloads the document if it is among the changes that were collected. -/
def flushDocument (r : Reloader) (pending : List FilePath) (files : Files) :
    Reloaded × Option ReloadFault :=
  if pending.contains r.documentPath then r.reloadDocument files else (⟨r, []⟩, none)

/-- Applies the changes that were collected. They are no longer collected afterwards, even if a
reload breaks off; the first component is the reloader after all that was done. -/
def flush (r : Reloader) (files : Files) : Reloaded × Option ReloadFault :=
  match r.settled.flushTheme r.pending files with
  | (first, some fault) => (first, some fault)
  | (first, none) =>
    let second := first.reloader.flushDocument r.pending files
    (⟨second.1.reloader, first.sent ++ second.1.sent⟩, second.2)

end Reloader

end Preview

end Wireframe
