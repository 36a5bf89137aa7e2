import Wireframe.Preview.Reload
import Wireframe.Proofs.Preview.History
import Wireframe.Proofs.Theme.Fallback

/-! # Flushes

A flush applies the changes that have been collected: the theme first, then the document.
What a flush does is told once, by what is due (`Wireframe.Preview.Reloader.flush_of_themeFault`
and `Wireframe.Preview.Reloader.flush_of_themed`).

After a flush nothing is collected any more. A change of the document that was collected has
been given to the session, or the file could not be read, or the theme broke the flush off, and
then the change is lost (`Wireframe.Preview.Reloader.document_of_flush`). A theme breaks a flush
off if it cannot be resolved, if it has no encoding, or if the failure that is told anew with it
has none.
-/

namespace Wireframe

/-- What the theme at a path is loaded from: nothing if nothing is there. -/
def Files.themeAt (files : Files) (path : FilePath) : Option (Theme.Content × String) :=
  if files.contains path then some (files.themeContent path, path.text) else none

namespace Files

variable {files others : Files} {path : FilePath}

/-- What is read from a path is a matter of what stands at it alone. -/
theorem read_congr (same : files.lookUp path = others.lookUp path) :
    files.read path = others.read path := by
  rw [Files.read, same]
  rfl

theorem themeAt_congr (same : files.lookUp path = others.lookUp path) :
    files.themeAt path = others.themeAt path := by
  rw [themeAt, themeAt, contains, same, themeContent, readLines, read_congr same]
  rfl

end Files

namespace Preview.Reloader

/-! ## What is due -/

/-- The path of the theme, if a change of it has been collected. -/
def themeDue (r : Reloader) : Option FilePath := r.themePath.filter r.pending.contains

/-- The bytes of the document, if a change of it has been collected and it can be read. -/
def sourceDue (r : Reloader) (files : Files) : Option (List UInt8) :=
  if r.pending.contains r.documentPath then (files.read r.documentPath).toOption else none

/-- The session after the theme that is due, with the messages it sends. -/
def themeTurn (r : Reloader) (files : Files) : Session × List HostMessage :=
  match r.themeDue with
  | some path => r.session.step (.themeFile (files.themeAt path))
  | none => (r.session, [])

/-- What breaks off the theme that is due. -/
def themeFault (r : Reloader) (files : Files) : Option ReloadFault :=
  r.themeDue.bind fun path => (r.settled.reloadThemeAt path files).2

/-- What breaks off a source that a session is given, if there is one. -/
def turnFault (r : Reloader) (s : Session) (source : Option (List UInt8)) : Option ReloadFault :=
  source.bind fun bytes =>
    match s.documentChanged (.bytes bytes) with
    | .ok reaction => if r.loses reaction.session then some .unsent else none
    | .error cause => some (.document cause)

/-- The messages of a session that get through. -/
def through (r : Reloader) (s : Session) (sent : List HostMessage) : List HostMessage :=
  if r.loses s then sent.dropLast else sent

end Preview.Reloader

namespace Preview.Session

/-- A session after a source, if there is one, with the messages it sends. -/
def turn (s : Session) (source : Option (List UInt8)) : Session × List HostMessage :=
  match source with
  | some bytes => s.step (.document (.bytes bytes))
  | none => (s, [])

/-- A document that is parsed is rendered and takes the place of all results before it. -/
theorem slot_of_parsed {s : Session} {source : Source} {d : Document}
    (parsed : Document.renderable source = .ok d) :
    (s.step (.document source)).1.slot = ⟨some (s.pipeline.renderDocument d).1, none⟩ := by
  simp only [step, documentChanged, Pipeline.run, parsed]
  rfl

section Themes

variable {s : Session} {file : Option (Theme.Content × String)} {theme : Theme.Resolved}

theorem themeFileChanged_of_error {cause : Theme.Breakdown}
    (unresolved : Theme.Resolved.ofFile s.pipeline.base file = .error cause) :
    s.themeFileChanged file = ⟨s, [], .error cause⟩ := by
  rw [themeFileChanged, Pipeline.loadThemeFile, unresolved]
  rfl

theorem themeFileChanged_of_halved
    (resolved : Theme.Resolved.ofFile s.pipeline.base file = .ok theme)
    (halved : theme.hasHalves = true) :
    s.themeFileChanged file = ⟨{ s with pipeline := { s.pipeline with theme := theme } }, [],
      .error (.scalar .halved)⟩ := by
  rw [themeFileChanged, Pipeline.loadThemeFile, resolved, Pipeline.takeTheme, halved]
  rfl

theorem themeFileChanged_of_whole
    (resolved : Theme.Resolved.ofFile s.pipeline.base file = .ok theme)
    (whole : theme.hasHalves = false) :
    let shown := { s with pipeline := s.pipeline.setTheme theme }.refreshTheme
    s.themeFileChanged file = ⟨shown.session, shown.sent, .ok shown.result⟩ := by
  rw [themeFileChanged, Pipeline.loadThemeFile, resolved, Pipeline.takeTheme, whole]
  rfl

/-- Showing a theme leaves what is good good, and the failure as it is. -/
theorem refreshTheme_kept (s : Session) :
    s.refreshTheme.session.slot.failed = s.slot.failed ∧
      s.refreshTheme.session.slot.good.isSome = s.slot.good.isSome := by
  rw [refreshTheme]
  cases present : s.slot.good with
  | none => exact ⟨rfl, congrArg _ present⟩
  | some good => exact ⟨rfl, rfl⟩

end Themes

end Preview.Session

namespace Preview.Reloader

variable {r : Reloader} {files : Files} {path : FilePath}

theorem themeDue_of_mem (looked : path ∈ r.themePath) (pending : path ∈ r.pending) :
    r.themeDue = some path :=
  Option.filter_eq_some_iff.mpr ⟨looked, List.contains_iff_mem.mpr pending⟩

theorem themeDue_of_notMem (idle : ∀ path ∈ r.themePath, path ∉ r.pending) :
    r.themeDue = none :=
  Option.filter_eq_none_iff.mpr fun path looked due =>
    idle path looked (List.contains_iff_mem.mp due)

/-! ## Sending -/

theorem send_of_calm {s : Session} {sent : List HostMessage} {tells : Bool}
    (calm : (r.send s sent tells).2 = none) :
    r.send s sent tells = (⟨{ r with session := s }, sent⟩, none) := by
  rw [send] at calm ⊢
  split at calm
  · cases calm
  · rw [if_neg ‹_›]

/-- What cannot be sent is a failure that is told. -/
theorem send_of_fault {s : Session} {sent : List HostMessage} {tells : Bool} {fault : ReloadFault}
    (broken : (r.send s sent tells).2 = some fault) :
    tells = true ∧ r.loses s = true ∧
      r.send s sent tells = (⟨{ r with session := s }, sent.dropLast⟩, some .unsent) := by
  rw [send] at broken ⊢
  split at broken
  · rename_i lost
    obtain ⟨telling, lost⟩ := Bool.and_eq_true_iff.mp lost
    rw [telling, lost]
    exact ⟨rfl, rfl, rfl⟩
  · cases broken

theorem through_nil (r : Reloader) (s : Session) : r.through s [] = [] := by
  rw [through]
  split <;> rfl

/-! ## Loading a theme -/

theorem reloadThemeAt_eq (r : Reloader) (path : FilePath) (files : Files) :
    r.reloadThemeAt path files =
      let reaction := r.session.themeFileChanged (files.themeAt path)
      match reaction.result with
      | .ok _ => r.send reaction.session reaction.sent reaction.session.slot.good.isSome
      | .error cause => (⟨{ r with session := reaction.session }, []⟩, some (.theme cause)) :=
  rfl

/-- What comes of loading the theme at a path. The session takes it over as far as it can; what is
sent is what gets through. -/
inductive Reload (r : Reloader) (path : FilePath) (files : Files) :
    Reloaded × Option ReloadFault → Prop where
  | unresolved {cause : Theme.Breakdown}
    (unresolved :
      Theme.Resolved.ofFile r.session.pipeline.base (files.themeAt path) = .error cause) :
    Reload r path files (⟨r, []⟩, some (.theme cause))
  | halfway {theme : Theme.Resolved}
    (resolved : Theme.Resolved.ofFile r.session.pipeline.base (files.themeAt path) = .ok theme)
    (halved : theme.hasHalves = true) :
    Reload r path files
      (⟨{ r with
          session := { r.session with pipeline := { r.session.pipeline with theme := theme } } },
        []⟩, some (.theme (.scalar .halved)))
  | untold {theme : Theme.Resolved}
    (resolved : Theme.Resolved.ofFile r.session.pipeline.base (files.themeAt path) = .ok theme)
    (whole : theme.hasHalves = false) (present : r.session.slot.good.isSome)
    (lost : r.loses r.session = true) :
    Reload r path files
      (⟨{ r with session := (r.session.step (.themeFile (files.themeAt path))).1 },
        (r.session.step (.themeFile (files.themeAt path))).2.dropLast⟩, some .unsent)
  | shown {theme : Theme.Resolved}
    (resolved : Theme.Resolved.ofFile r.session.pipeline.base (files.themeAt path) = .ok theme)
    (whole : theme.hasHalves = false) :
    Reload r path files
      (⟨{ r with session := (r.session.step (.themeFile (files.themeAt path))).1 },
        (r.session.step (.themeFile (files.themeAt path))).2⟩, none)

theorem reload_themeAt (r : Reloader) (path : FilePath) (files : Files) :
    Reload r path files (r.reloadThemeAt path files) := by
  cases result : Theme.Resolved.ofFile r.session.pipeline.base (files.themeAt path) with
  | error cause =>
      rw [reloadThemeAt_eq, Session.themeFileChanged_of_error result]
      exact .unresolved result
  | ok theme =>
      cases halved : theme.hasHalves with
      | true =>
          rw [reloadThemeAt_eq, Session.themeFileChanged_of_halved result halved]
          exact .halfway result halved
      | false =>
          let themed := { r.session with pipeline := r.session.pipeline.setTheme theme }
          let shown := themed.refreshTheme
          have changed : r.session.themeFileChanged (files.themeAt path) =
              ⟨shown.session, shown.sent, .ok shown.result⟩ :=
            Session.themeFileChanged_of_whole result halved
          have step : r.session.step (.themeFile (files.themeAt path)) =
              (shown.session, shown.sent) := by
            rw [Session.step, changed]
          have sent : r.reloadThemeAt path files =
              r.send shown.session shown.sent shown.session.slot.good.isSome := by
            rw [reloadThemeAt_eq, changed]
          rw [sent]
          cases fault : (r.send shown.session shown.sent shown.session.slot.good.isSome).2 with
          | none =>
              rw [send_of_calm fault]
              have told := Reload.shown result halved
              rwa [step] at told
          | some fault =>
              obtain ⟨failed, present⟩ := themed.refreshTheme_kept
              obtain ⟨good, lost, told⟩ := send_of_fault ‹_›
              have lose : r.loses r.session = true := by
                rw [loses, Session.canTell, failed] at lost
                exact lost
              have untold := Reload.untold result halved (present.symm.trans good) lose
              rw [told]
              rwa [step] at untold

/-- However far loading a theme gets, the session is the one that takes the theme over. -/
theorem Reload.reloader {out : Reloaded × Option ReloadFault} (reload : Reload r path files out) :
    out.1.reloader =
      { r with session := (r.session.step (.themeFile (files.themeAt path))).1 } := by
  cases reload with
  | unresolved unresolved =>
      rw [Session.step, Session.themeFileChanged_of_error unresolved]
  | halfway resolved halved =>
      rw [Session.step, Session.themeFileChanged_of_halved resolved halved]
  | untold resolved whole present lost => rfl
  | shown resolved whole => rfl

theorem flushTheme_of_idle (idle : r.themeDue = none) :
    r.settled.flushTheme r.pending files = (⟨r.settled, []⟩, none) := by
  cases looked : r.themePath with
  | none => simp only [flushTheme, settled, looked]
  | some path =>
      have idle : r.pending.contains path = false := by
        rw [themeDue, looked] at idle
        cases pending : r.pending.contains path with
        | false => rfl
        | true => cases idle.symm.trans (Option.filter_some_pos pending)
      simp only [flushTheme, settled, looked, idle, Bool.false_eq_true, ↓reduceIte]

theorem flushTheme_of_due (due : r.themeDue = some path) :
    r.settled.flushTheme r.pending files = r.settled.reloadThemeAt path files := by
  obtain ⟨looked, pending⟩ := Option.filter_eq_some_iff.mp due
  simp only [flushTheme, settled, looked, pending, ↓reduceIte]

/-- A theme that is due and breaks off nowhere can be resolved and has an encoding. -/
theorem resolved_of_due (due : r.themeDue = some path) (calm : r.themeFault files = none) :
    ∃ theme, Theme.Resolved.ofFile r.session.pipeline.base (files.themeAt path) = .ok theme ∧
      theme.hasHalves = false := by
  rw [themeFault, due, Option.bind_some] at calm
  have reload := r.settled.reload_themeAt path files
  generalize r.settled.reloadThemeAt path files = out at calm reload
  cases reload with
  | unresolved unresolved => cases calm
  | halfway resolved halved => cases calm
  | untold resolved whole present lost => cases calm
  | shown resolved whole => exact ⟨_, resolved, whole⟩

/-- The theme that is due is applied, and all its messages get through, if nothing breaks it off. -/
theorem flushTheme_of_calm (calm : r.themeFault files = none) :
    r.settled.flushTheme r.pending files =
      (⟨{ r.settled with session := (r.themeTurn files).1 }, (r.themeTurn files).2⟩, none) := by
  cases due : r.themeDue with
  | none =>
      rw [flushTheme_of_idle due, themeTurn, due]
      rfl
  | some path =>
      rw [themeFault, due, Option.bind_some] at calm
      have reload := r.settled.reload_themeAt path files
      rw [flushTheme_of_due due, themeTurn, due]
      generalize r.settled.reloadThemeAt path files = out at calm reload
      cases reload with
      | unresolved unresolved => cases calm
      | halfway resolved halved => cases calm
      | untold resolved whole present lost => cases calm
      | shown resolved whole => rfl

/-! ## What a flush does -/

/-- The document is applied to what the theme has left, if it is due and can be read. -/
theorem flushDocument_eq {pending : List FilePath} {source : Option (List UInt8)}
    (due : (if pending.contains r.documentPath then (files.read r.documentPath).toOption
      else none) = source) :
    r.flushDocument pending files =
      (⟨{ r with session := (r.session.turn source).1 },
        r.through (r.session.turn source).1 (r.session.turn source).2⟩,
        r.turnFault r.session source) := by
  subst due
  rw [flushDocument]
  split
  · rw [reloadDocument]
    cases files.read r.documentPath with
    | error refusal =>
        dsimp only [Except.toOption, Session.turn]
        rw [through_nil]
        rfl
    | ok bytes =>
        dsimp only [Except.toOption, Session.turn, turnFault, Option.bind_some, Session.step]
        cases r.session.documentChanged (.bytes bytes) with
        | error cause =>
            dsimp only [Session.settle]
            rw [through_nil]
        | ok reaction =>
            dsimp only [Session.settle]
            rw [send, through, Bool.true_and]
            split <;> rfl
  · dsimp only [Session.turn]
    rw [through_nil]
    rfl

/-- A theme that breaks off breaks a flush off: the document that is due is not given to the
session, and nothing is collected any more. -/
theorem flush_of_themeFault {fault : ReloadFault} (broken : r.themeFault files = some fault) :
    ∃ path, r.themeDue = some path ∧
      r.flush files = r.settled.reloadThemeAt path files ∧ (r.flush files).2 = some fault := by
  obtain ⟨path, due, broken⟩ := Option.bind_eq_some_iff.mp broken
  have flushed : r.flush files = r.settled.reloadThemeAt path files := by
    rw [flush, flushTheme_of_due due]
    generalize r.settled.reloadThemeAt path files = out at broken
    obtain ⟨first, second⟩ := out
    obtain rfl := broken
    rfl
  exact ⟨path, due, flushed, flushed ▸ broken⟩

/-- **What a flush does.** Where the theme breaks off nowhere, the session takes the theme that is
due and then the document that is due. -/
theorem flush_of_themed (calm : r.themeFault files = none) :
    let first := r.themeTurn files
    let second := first.1.turn (r.sourceDue files)
    r.flush files =
      (⟨{ r.settled with session := second.1 }, first.2 ++ r.through second.1 second.2⟩,
        r.turnFault first.1 (r.sourceDue files)) := by
  intro first second
  have document : Reloader.flushDocument { r.settled with session := first.1 } r.pending files =
      (⟨{ r.settled with session := second.1 }, r.through second.1 second.2⟩,
        r.turnFault first.1 (r.sourceDue files)) :=
    flushDocument_eq rfl
  rw [flush, flushTheme_of_calm calm]
  dsimp only
  rw [document]

/-- A flush that breaks off nowhere has taken the theme and the document that were due. -/
theorem flush_of_calm (calm : (r.flush files).2 = none) :
    r.themeFault files = none ∧
      r.turnFault (r.themeTurn files).1 (r.sourceDue files) = none ∧
      (r.flush files).1.reloader =
        { r.settled with session := ((r.themeTurn files).1.turn (r.sourceDue files)).1 } := by
  cases themed : r.themeFault files with
  | some fault =>
      obtain ⟨path, -, -, broken⟩ := flush_of_themeFault themed
      cases calm.symm.trans broken
  | none =>
      rw [flush_of_themed themed] at calm ⊢
      exact ⟨rfl, calm, rfl⟩

/-- A theme that is due changes the session, and otherwise nothing does. -/
theorem themeTurn_cases (r : Reloader) (files : Files) :
    (r.themeDue = none ∧ r.themeTurn files = (r.session, [])) ∨
      ∃ path, r.themeDue = some path ∧
        Session.Change r.session (.themeFile (files.themeAt path)) (r.themeTurn files).1
          (r.themeTurn files).2 := by
  cases due : r.themeDue with
  | none =>
      refine .inl ⟨rfl, ?_⟩
      rw [themeTurn, due]
  | some path =>
      refine .inr ⟨path, rfl, ?_⟩
      rw [themeTurn, due]
      exact r.session.change_step _

/-- What a flush brings to a session. -/
def events (r : Reloader) (files : Files) : List Event :=
  (r.themeDue.map fun path => .themeFile (files.themeAt path)).toList ++
    ((r.sourceDue files).map fun bytes => .document (.bytes bytes)).toList

theorem turns_eq_run (r : Reloader) (files : Files) :
    ((r.themeTurn files).1.turn (r.sourceDue files)).1 = r.session.run (r.events files) := by
  rw [events, themeTurn]
  cases r.themeDue with
  | none => cases r.sourceDue files <;> rfl
  | some path => cases r.sourceDue files <;> rfl

/-! ## What becomes of the document -/

/-- What comes of a flush for a document that is due. It is given to the session that the theme has
left, or it cannot be read; or the theme, which is due as well, breaks the flush off, and then the
document is not given to the session and is no longer due. -/
inductive Flushed (r : Reloader) (files : Files) : Reloaded × Option ReloadFault → Prop where
  | given {bytes : List UInt8} (calm : r.themeFault files = none)
    (read : files.read r.documentPath = .ok bytes) :
    Flushed r files
      (⟨{ r.settled with session := ((r.themeTurn files).1.step (.document (.bytes bytes))).1 },
        (r.themeTurn files).2 ++
          r.through ((r.themeTurn files).1.step (.document (.bytes bytes))).1
            ((r.themeTurn files).1.step (.document (.bytes bytes))).2⟩,
        r.turnFault (r.themeTurn files).1 (some bytes))
  | unread {refusal : Files.Refusal} (calm : r.themeFault files = none)
    (read : files.read r.documentPath = .error refusal) :
    Flushed r files
      (⟨{ r.settled with session := (r.themeTurn files).1 }, (r.themeTurn files).2⟩, none)
  /-- The text of the theme has a fault that loading does not take for a refusal. -/
  | broken {path : FilePath} {file : Theme.Content} {content : String} {cause : Theme.Breakdown}
    (due : r.themeDue = some path) (found : files.themeAt path = some (file, path.text))
    (text : file.text? = some content) (breaks : Theme.Breaks content cause) :
    Flushed r files (⟨r.settled, []⟩, some (.theme cause))
  /-- The theme holds half of a surrogate pair. It is halfway in force. -/
  | halfway {path : FilePath} {theme : Theme.Resolved} (due : r.themeDue = some path)
    (resolved : Theme.Resolved.ofFile r.session.pipeline.base (files.themeAt path) = .ok theme)
    (halved : theme.hasHalves = true) :
    Flushed r files
      (⟨{ r.settled with
          session := { r.session with pipeline := { r.session.pipeline with theme := theme } } },
        []⟩, some (.theme (.scalar .halved)))
  /-- The theme is in force, but the failure that is told with it has no encoding. -/
  | untold {path : FilePath} {theme : Theme.Resolved} (due : r.themeDue = some path)
    (resolved : Theme.Resolved.ofFile r.session.pipeline.base (files.themeAt path) = .ok theme)
    (whole : theme.hasHalves = false) (present : r.session.slot.good.isSome)
    (lost : r.loses r.session = true) :
    Flushed r files
      (⟨{ r.settled with session := (r.themeTurn files).1 }, (r.themeTurn files).2.dropLast⟩,
        some .unsent)

/-- A theme that is there breaks resolution off only by its text. -/
theorem exists_of_breaks {base : Theme.Base} {cause : Theme.Breakdown}
    (breaks : Theme.Resolved.ofFile base (files.themeAt path) = .error cause) :
    ∃ file content, files.themeAt path = some (file, path.text) ∧ file.text? = some content ∧
      Theme.Breaks content cause := by
  cases there : files.contains path with
  | false =>
      rw [Files.themeAt, there] at breaks
      cases breaks
  | true =>
      have found : files.themeAt path = some (files.themeContent path, path.text) := by
        rw [Files.themeAt, there]
        rfl
      rw [found] at breaks
      obtain ⟨content, text, broken⟩ := Theme.Resolved.breaks_of_ofFile breaks
      exact ⟨_, content, found, text, broken⟩

/-- A theme that breaks a flush off does so in one of the ways listed. -/
theorem flushed_of_themeFault {fault : ReloadFault} (broken : r.themeFault files = some fault) :
    (r.flush files).1.reloader.pending = [] ∧ Flushed r files (r.flush files) := by
  obtain ⟨path, due, flushed, stopped⟩ := flush_of_themeFault broken
  have turn : r.themeTurn files = r.session.step (.themeFile (files.themeAt path)) := by
    rw [themeTurn, due]
  have reload := r.settled.reload_themeAt path files
  rw [← flushed] at reload
  refine ⟨by rw [reload.reloader]; rfl, ?_⟩
  generalize r.flush files = out at reload stopped
  cases reload with
  | unresolved unresolved =>
      obtain ⟨file, content, found, text, broken⟩ := exists_of_breaks unresolved
      exact .broken due found text broken
  | halfway resolved halved => exact .halfway due resolved halved
  | untold resolved whole present lost =>
      have untold := Flushed.untold due resolved whole present lost
      rwa [turn] at untold
  | shown resolved whole => cases stopped

/-- **What becomes of a document that is due.** A flush leaves nothing that is due. A document that
was due has been given to the session with the bytes of its file, or the file cannot be read, or the
theme was due as well and breaks the flush off: by a fault of its text, by half of a surrogate pair
that it holds, or by a failure that is told with it and has no encoding. -/
theorem document_of_flush (r : Reloader) (files : Files) (due : r.documentPath ∈ r.pending) :
    (r.flush files).1.reloader.pending = [] ∧ Flushed r files (r.flush files) := by
  have collected : r.pending.contains r.documentPath = true := List.contains_iff_mem.mpr due
  cases calm : r.themeFault files with
  | some fault => exact flushed_of_themeFault calm
  | none =>
      rw [flush_of_themed calm]
      refine ⟨rfl, ?_⟩
      cases read : files.read r.documentPath with
      | ok bytes =>
          have source : r.sourceDue files = some bytes := by
            rw [sourceDue, if_pos collected, read]
            rfl
          rw [source]
          exact .given calm read
      | error refusal =>
          have source : r.sourceDue files = none := by
            rw [sourceDue, if_pos collected, read]
            rfl
          rw [source, Session.turn, through_nil, List.append_nil]
          exact .unread calm read

/-- A directory with some files. -/
def filesOf (contents : List (String × String)) : Files :=
  ⟨⟨"/", []⟩, contents.map fun (name, content) => ([name], .file (Text.Utf8.encode content))⟩

/-- A reloader for a page and a theme, both of which have changed. -/
def bothDue : Reloader :=
  let session := Session.start (Pipeline.start .bare 1) none "" .html
  let r := start session true ⟨"/", ["page"]⟩ (some ⟨"/", ["theme"]⟩)
  (r.collect ⟨"/", ["page"]⟩).collect ⟨"/", ["theme"]⟩

/-- There is no theme, and the page is given to the session. -/
theorem document_of_flush_page :
    let files := filesOf [("page", "page: \x7b\x7d")]
    bothDue.documentPath ∈ bothDue.pending ∧
      (bothDue.flush files).1.reloader.session.slot.good.isSome ∧
      (bothDue.flush files).1.reloader.pending = [] ∧
      Flushed bothDue files (bothDue.flush files) := by
  intro files
  have due : bothDue.documentPath ∈ bothDue.pending := by decide
  have shown : (bothDue.flush files).1.reloader.session.slot.good.isSome := by
    decide +kernel
  exact ⟨due, shown, document_of_flush bothDue files due⟩

/-- A category of tokens goes by a number, so the flush breaks off. The page that was due as well is
not given to the session, and it is no longer due. -/
theorem page_lost :
    ¬ ∀ (r : Reloader) (files : Files), r.documentPath ∈ r.pending →
      (∃ before bytes, files.read r.documentPath = .ok bytes ∧
        (r.flush files).1.reloader.session =
          (Session.step before (.document (.bytes bytes))).1) ∨
      (∃ refusal, files.read r.documentPath = .error refusal) ∨
      r.documentPath ∈ (r.flush files).1.reloader.pending := by
  intro every
  have due : bothDue.documentPath ∈ bothDue.pending := by decide
  let theme := "theme: \x7btokens: \x7b1: a\x7d\x7d"
  let files := filesOf [("page", "page: \x7b\x7d"), ("theme", theme)]
  have readable : files.read bothDue.documentPath =
      .ok (Text.Utf8.encode "page: \x7b\x7d") := by
    decide +kernel
  have after : (bothDue.flush files).1.reloader.session.slot.good.isNone ∧
      (bothDue.flush files).1.reloader.pending = [] := by
    decide +kernel
  obtain ⟨before, bytes, read, same⟩ | ⟨refusal, unread⟩ | still := every bothDue files due
  · obtain rfl := Except.ok.inj (readable.symm.trans read)
    obtain ⟨d, parsed⟩ : ∃ d,
        Document.renderable (.bytes (Text.Utf8.encode "page: \x7b\x7d")) = .ok d := by
      have page : (Document.renderable
          (.bytes (Text.Utf8.encode "page: \x7b\x7d"))).toOption.isSome := by
        decide +kernel
      cases result : Document.renderable (.bytes (Text.Utf8.encode "page: \x7b\x7d")) with
      | ok d => exact ⟨d, rfl⟩
      | error fault =>
          rw [result] at page
          cases page
    have given := after.1
    rw [same, Session.slot_of_parsed parsed] at given
    cases given
  · cases readable.symm.trans unread
  · rw [after.2] at still
    cases still

end Preview.Reloader

end Wireframe
