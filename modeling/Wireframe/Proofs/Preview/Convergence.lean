import Wireframe.Proofs.Preview.InForce
import Wireframe.Proofs.Preview.Watching

/-! # Reloading converges

Files are written and taken away while a reloader looks at them and applies what it has
collected. At any time each file has been applied as it is, or the watcher will tell of a
change of it, or a change of it has been collected. This is what every action preserves
(`Wireframe.Preview.Workspace.Tracks.act`), and after a last look and a last flush only the
first is left (`Wireframe.Preview.Workspace.converges`).

There is one exception. A theme that comes back between the look that missed it and the flush
is loaded though the watcher does not know of it. If it goes again before the next look, the
watcher has nothing to tell, and the theme stays in force
(`Wireframe.Preview.Workspace.stale_theme`).
-/

namespace Wireframe.Preview

/-! ## Disks -/

/-- Files, with the times at which they were changed. -/
structure Disk where
  files : Files
  times : Times

/-- What stands at a path has a time, and nothing else has. -/
def Disk.Stamped (disk : Disk) (path : FilePath) : Prop :=
  disk.files.contains path = (disk.times.get? path).isSome

instance (disk : Disk) (path : FilePath) : Decidable (disk.Stamped path) :=
  inferInstanceAs (Decidable (_ = _))

/-- What may become of a file while a disk is changed: nothing at all; it goes; or it is written,
whether or not it was there, and has a later time than on any disk before. -/
inductive Edits (earlier : List Disk) (before after : Disk) (path : FilePath) : Prop where
  | kept (content : after.files.lookUp path = before.files.lookUp path)
    (time : after.times.get? path = before.times.get? path)
  | gone (missing : after.times.get? path = none)
  | written {time : Int} (found : after.times.get? path = some time)
    (later : ∀ disk ∈ earlier, ∀ before ∈ disk.times.get? path, before < time)

namespace Disk.Stamped

variable {disk : Disk} {path : FilePath}

/-- There is no theme where nothing has a time. -/
theorem themeAt_eq_none (stamped : disk.Stamped path) (missing : disk.times.get? path = none) :
    disk.files.themeAt path = none := by
  rw [Stamped, missing] at stamped
  rw [Files.themeAt, stamped]
  rfl

theorem read_ne_ok (stamped : disk.Stamped path) (missing : disk.times.get? path = none)
    {bytes : List UInt8} : disk.files.read path ≠ .ok bytes := by
  intro read
  rw [Stamped, missing, Files.contains] at stamped
  rw [Files.read] at read
  cases found : disk.files.lookUp path with
  | ok entry =>
      rw [found] at stamped
      cases stamped
  | error refusal =>
      rw [found] at read
      cases read

end Disk.Stamped

/-! ## Workspaces -/

/-- A reloader at work: the disk, all disks there have been, and whether the theme has been loaded
from a file that was not there when the watcher looked last. -/
structure Workspace where
  reloader : Reloader
  disk : Disk
  earlier : List Disk
  unseen : Bool

namespace Workspace

/-- What happens at a time. -/
inductive Action where
  /-- Files are written, or taken away, or both. -/
  | edit (after : Disk)
  /-- The watcher looks, and all changes of which it tells are collected. -/
  | poll
  | flush

/-- Whether a flush loads the theme from a file that was not there when the watcher looked last. -/
def loadsUnseen (x : Workspace) : Bool :=
  x.reloader.themeDue.any fun path =>
    x.disk.files.contains path && (x.reloader.watcher.seen.get? path).isNone

/-- A workspace after an action. -/
def act (x : Workspace) : Action → Workspace
  | .edit after => { x with disk := after, earlier := after :: x.earlier }
  | .poll => { x with reloader := (x.reloader.poll x.disk.times).2, unseen := false }
  | .flush =>
    { x with
      reloader := (x.reloader.flush x.disk.files).1.reloader
      unseen := x.unseen || x.loadsUnseen }

/-- A workspace after several actions. -/
def run (x : Workspace) (schedule : List Action) : Workspace := schedule.foldl act x

/-- A reloader begins to watch the files of a disk. -/
def start (s : Session) (encodes : Bool) (documentPath : FilePath) (themePath : Option FilePath)
    (disk : Disk) : Workspace :=
  let r := Reloader.start s encodes documentPath themePath
  ⟨{ r with watcher := r.watcher.observe disk.times }, disk, [disk], false⟩

/-- An action in the course of events: an edit gives each file that is watched a time of its own,
later than those before, if it writes it, and a flush breaks off nowhere. -/
def Regular (x : Workspace) : Action → Prop
  | .edit after => ∀ path ∈ x.reloader.watcher.paths,
    after.Stamped path ∧ Edits x.earlier x.disk after path
  | .poll => True
  | .flush => (x.reloader.flush x.disk.files).2 = none

/-- An action that does not take a theme away which has been loaded and which the watcher has not
seen. -/
def Noticed (x : Workspace) : Action → Prop
  | .edit after => x.unseen = true → ∀ path ∈ x.reloader.themePath, after.times.get? path ≠ none
  | .poll | .flush => True

/-- What holds of every action of a schedule at the time at which it happens. -/
def Throughout (holds : Workspace → Action → Prop) (x : Workspace) : List Action → Prop
  | [] => True
  | a :: schedule => holds x a ∧ (x.act a).Throughout holds schedule

/-- The documents that the file of the document has held. -/
def held (x : Workspace) : List Document :=
  x.earlier.filterMap fun disk =>
    (disk.files.read x.reloader.documentPath).toOption.bind fun bytes =>
      (Document.renderable (.bytes bytes)).toOption

/-- The themes that the file of the theme has held, each over a base. -/
def themesHeld (x : Workspace) (base : Theme.Base) : List Theme.Resolved :=
  x.earlier.filterMap fun disk =>
    (Theme.Resolved.ofFile base (x.reloader.themePath.bind disk.files.themeAt)).toOption

/-- A change of a file has been collected, or the watcher will notice it. -/
def Due (x : Workspace) (path : FilePath) : Prop :=
  path ∈ x.reloader.pending ∨ x.reloader.watcher.Notices x.disk.times path

/-- The session has the outcome of what the file of the document holds, if it can be read. -/
def Recorded (x : Workspace) : Prop :=
  ∀ bytes, x.disk.files.read x.reloader.documentPath = .ok bytes →
    x.reloader.session.Records (.bytes bytes)

/-- What is known of a workspace that has come from another. Each file has been applied as it is, or
its change is due. What is due can be overlooked only for a theme that is there no longer. -/
structure Tracks (x first : Workspace) (noticed : Prop) : Prop where
  documentPath : x.reloader.documentPath = first.reloader.documentPath
  themePath : x.reloader.themePath = first.reloader.themePath
  watched : x.reloader.watcher.paths = x.reloader.documentPath :: x.reloader.themePath.toList
  stamped : ∀ path ∈ x.reloader.watcher.paths, x.disk.Stamped path
  here : x.disk ∈ x.earlier
  remembered : ∀ path ∈ x.reloader.watcher.paths, ∀ time ∈ x.reloader.watcher.seen.get? path,
    ∃ disk ∈ x.earlier, disk.times.get? path = some time
  told : ∃ events, x.reloader.session = first.reloader.session.run events ∧
    documents events ⊆ x.held ∧ ∀ base, events.filterMap (Event.loaded? base) ⊆ x.themesHeld base
  whole : x.reloader.session.pipeline.theme.hasHalves = false
  unthemed : x.reloader.themePath = none → x.reloader.session.InForce none
  theme : ∀ path ∈ x.reloader.themePath,
    x.reloader.session.InForce (x.disk.files.themeAt path) ∨ x.Due path ∨
      (¬ noticed ∧ x.disk.times.get? path = none)
  /-- A theme that the watcher has not seen has not been loaded. -/
  unloaded : ∀ path ∈ x.reloader.themePath, x.reloader.watcher.seen.get? path = none →
    x.reloader.session.InForce none ∨ path ∈ x.reloader.pending ∨ x.unseen = true ∨ ¬ noticed
  document : x.Recorded ∨ x.Due x.reloader.documentPath

variable {first x : Workspace} {noticed : Prop} {after : Disk}

theorem Tracks.document_watched (tracks : x.Tracks first noticed) :
    x.reloader.documentPath ∈ x.reloader.watcher.paths := by
  rw [tracks.watched]
  exact List.mem_cons_self

theorem Tracks.theme_watched (tracks : x.Tracks first noticed) {path : FilePath}
    (looked : path ∈ x.reloader.themePath) : path ∈ x.reloader.watcher.paths := by
  rw [tracks.watched]
  exact List.mem_cons_of_mem _ (Option.mem_toList.mpr looked)

/-! ### Edits -/

theorem held_edit (x : Workspace) (after : Disk) : x.held ⊆ (x.act (.edit after)).held :=
  (List.Sublist.filterMap _ (List.sublist_cons_self after x.earlier)).subset

theorem themesHeld_edit (x : Workspace) (after : Disk) (base : Theme.Base) :
    x.themesHeld base ⊆ (x.act (.edit after)).themesHeld base :=
  (List.Sublist.filterMap _ (List.sublist_cons_self after x.earlier)).subset

/-- A file that is written is noticed. -/
theorem Tracks.due_written (tracks : x.Tracks first noticed) {path : FilePath}
    (watched : path ∈ x.reloader.watcher.paths) {time : Int}
    (found : after.times.get? path = some time)
    (later : ∀ disk ∈ x.earlier, ∀ before ∈ disk.times.get? path, before < time) :
    (x.act (.edit after)).Due path := by
  refine .inr (.inl ⟨time, found, fun before seen => ?_⟩)
  obtain ⟨disk, earlier, had⟩ := tracks.remembered path watched before seen
  exact later disk earlier before had

theorem Due.kept {path : FilePath} (due : x.Due path)
    (time : after.times.get? path = x.disk.times.get? path) :
    (x.act (.edit after)).Due path := by
  rcases due with pending | notices
  · exact .inl pending
  · exact .inr (notices.congr time)

theorem Tracks.theme_edit (tracks : x.Tracks first noticed) {path : FilePath}
    (looked : path ∈ x.reloader.themePath) (stamped : after.Stamped path)
    (edits : Edits x.earlier x.disk after path)
    (stays : noticed → x.Noticed (.edit after)) :
    x.reloader.session.InForce (after.files.themeAt path) ∨ (x.act (.edit after)).Due path ∨
      (¬ noticed ∧ after.times.get? path = none) := by
  cases edits with
  | kept content time =>
      rcases tracks.theme path looked with inForce | due | ⟨overlooked, missing⟩
      · rw [Files.themeAt_congr content]
        exact .inl inForce
      · exact .inr (.inl (due.kept time))
      · exact .inr (.inr ⟨overlooked, time.trans missing⟩)
  | gone missing =>
      cases seen : x.reloader.watcher.seen.get? path with
      | some before => exact .inr (.inl (.inr (.inr ⟨missing, before, seen⟩)))
      | none =>
          -- The watcher does not tell of this, so nothing may have been loaded from the file.
          rcases tracks.unloaded path looked seen with inForce | pending | unseen | overlooked
          · rw [stamped.themeAt_eq_none missing]
            exact .inl inForce
          · exact .inr (.inl (.inl pending))
          · refine .inr (.inr ⟨fun known => ?_, missing⟩)
            exact stays known unseen path looked missing
          · exact .inr (.inr ⟨overlooked, missing⟩)
  | written found later =>
      exact .inr (.inl (tracks.due_written (tracks.theme_watched looked) found later))

theorem Tracks.document_edit (tracks : x.Tracks first noticed)
    (stamped : after.Stamped x.reloader.documentPath)
    (edits : Edits x.earlier x.disk after x.reloader.documentPath) :
    (x.act (.edit after)).Recorded ∨ (x.act (.edit after)).Due x.reloader.documentPath := by
  cases edits with
  | kept content time =>
      rcases tracks.document with recorded | due
      · refine .inl fun bytes read => recorded bytes ?_
        rw [← Files.read_congr content]
        exact read
      · exact .inr (due.kept time)
  | gone missing =>
      exact .inl fun bytes read => absurd read (stamped.read_ne_ok missing)
  | written found later => exact .inr (tracks.due_written tracks.document_watched found later)

theorem Tracks.edit (tracks : x.Tracks first noticed) (regular : x.Regular (.edit after))
    (stays : noticed → x.Noticed (.edit after)) : (x.act (.edit after)).Tracks first noticed := by
  refine { tracks with
    stamped := fun path watched => (regular path watched).1
    here := List.mem_cons_self
    remembered := ?remembered
    told := ?told
    theme := ?theme
    document := ?document }
  case remembered =>
    intro path watched time seen
    obtain ⟨disk, earlier, had⟩ := tracks.remembered path watched time seen
    exact ⟨disk, List.mem_cons_of_mem _ earlier, had⟩
  case told =>
    obtain ⟨events, same, documents, themes⟩ := tracks.told
    exact ⟨events, same, List.Subset.trans documents (held_edit x after),
      fun base => List.Subset.trans (themes base) (themesHeld_edit x after base)⟩
  case theme =>
    intro path looked
    obtain ⟨stamped, edits⟩ := regular path (tracks.theme_watched looked)
    exact tracks.theme_edit looked stamped edits stays
  case document =>
    obtain ⟨stamped, edits⟩ := regular _ tracks.document_watched
    exact tracks.document_edit stamped edits

/-! ### Polls -/

theorem Tracks.poll (tracks : x.Tracks first noticed) : (x.act .poll).Tracks first noticed := by
  obtain ⟨pending, waiting, polled, members⟩ := x.reloader.poll_eq x.disk.times
  have collected : ∀ path ∈ x.reloader.watcher.paths, x.Due path → path ∈ pending := by
    intro path watched due
    rcases due with old | notices
    · exact (members path).mpr (.inl old)
    · exact (members path).mpr (.inr (notices.mem_poll watched))
  have seen : ∀ path ∈ x.reloader.watcher.paths,
      (x.reloader.watcher.poll x.disk.times).2.seen.get? path = x.disk.times.get? path :=
    fun path watched => Watcher.seen_poll watched
  rw [act, polled]
  refine { tracks with
    remembered := ?remembered
    theme := ?theme
    unloaded := ?unloaded
    document := ?document }
  case remembered =>
    intro path watched time had
    exact ⟨x.disk, tracks.here, (seen path watched).symm.trans had⟩
  case theme =>
    intro path looked
    rcases tracks.theme path looked with inForce | due | overlooked
    · exact .inl inForce
    · exact .inr (.inl (.inl (collected path (tracks.theme_watched looked) due)))
    · exact .inr (.inr overlooked)
  case unloaded =>
    -- What the watcher has not seen now is not there.
    intro path looked unseen
    have watched := tracks.theme_watched looked
    have missing : x.disk.times.get? path = none := (seen path watched).symm.trans unseen
    rcases tracks.theme path looked with inForce | due | ⟨overlooked, -⟩
    · rw [(tracks.stamped path watched).themeAt_eq_none missing] at inForce
      exact .inl inForce
    · exact .inr (.inl (collected path watched due))
    · exact .inr (.inr (.inr overlooked))
  case document =>
    rcases tracks.document with recorded | due
    · exact .inl recorded
    · exact .inr (.inl (collected _ tracks.document_watched due))

/-! ### Flushes -/

/-- A flush changes the session, and nothing is collected any more. -/
theorem act_flush (regular : x.Regular .flush) : x.act .flush = { x with
    reloader := { x.reloader.settled with session := (x.act .flush).reloader.session }
    unseen := x.unseen || x.loadsUnseen } := by
  rw [act, (Reloader.flush_of_calm regular).2.2]

theorem regular_edit_flush (regular : x.Regular .flush) :
    (x.act .flush).Regular (.edit after) ↔ x.Regular (.edit after) := by
  rw [act_flush regular]
  rfl

/-- A theme that is due is in force after a flush. -/
theorem inForce_of_due (regular : x.Regular .flush) {path : FilePath}
    (due : x.reloader.themeDue = some path) :
    (x.act .flush).reloader.session.InForce (x.disk.files.themeAt path) := by
  obtain ⟨calm, -, flushed⟩ := Reloader.flush_of_calm regular
  obtain ⟨theme, resolved, whole⟩ := Reloader.resolved_of_due due calm
  rw [act, flushed]
  refine Session.InForce.turn ?_ _
  rw [Reloader.themeTurn, due]
  exact (x.reloader.session.change_step _).inForce resolved whole

/-- A theme that is in force stays so in a flush if no theme is due. -/
theorem inForce_of_idle (regular : x.Regular .flush) (idle : x.reloader.themeDue = none)
    {file : Option (Theme.Content × String)} (inForce : x.reloader.session.InForce file) :
    (x.act .flush).reloader.session.InForce file := by
  obtain ⟨-, -, flushed⟩ := Reloader.flush_of_calm regular
  rw [act, flushed]
  refine Session.InForce.turn ?_ _
  rw [Reloader.themeTurn, idle]
  exact inForce

/-- The theme at a path is due in a flush, or no theme is. -/
theorem theme_flush (regular : x.Regular .flush) {path : FilePath}
    (looked : path ∈ x.reloader.themePath) :
    (path ∈ x.reloader.pending ∧ x.reloader.themeDue = some path ∧
      (x.act .flush).reloader.session.InForce (x.disk.files.themeAt path)) ∨
    (path ∉ x.reloader.pending ∧ ∀ file, x.reloader.session.InForce file →
      (x.act .flush).reloader.session.InForce file) := by
  by_cases pending : path ∈ x.reloader.pending
  · have due := Reloader.themeDue_of_mem looked pending
    exact .inl ⟨pending, due, inForce_of_due regular due⟩
  · have idle : x.reloader.themeDue = none := Reloader.themeDue_of_notMem fun other looked' => by
      obtain rfl := Option.some.inj (looked.symm.trans looked')
      exact pending
    exact .inr ⟨pending, fun file => inForce_of_idle regular idle⟩

/-- The theme that is named has an encoding after a flush if it had one before. -/
theorem whole_flush (regular : x.Regular .flush)
    (whole : x.reloader.session.pipeline.theme.hasHalves = false) :
    (x.act .flush).reloader.session.pipeline.theme.hasHalves = false := by
  cases due : x.reloader.themeDue with
  | some path => exact (inForce_of_due regular due).whole
  | none =>
      obtain ⟨-, -, flushed⟩ := Reloader.flush_of_calm regular
      have idle : x.reloader.themeTurn x.disk.files = (x.reloader.session, []) := by
        rw [Reloader.themeTurn, due]
      have named := x.reloader.session.theme_turn (x.reloader.sourceDue x.disk.files)
      rw [act, flushed, idle]
      exact named.2 ▸ whole

/-- After a flush, a document whose change has been collected is recorded, and any other is recorded
if it was before. -/
theorem recorded_flush (regular : x.Regular .flush)
    (known : x.Recorded ∨ x.reloader.documentPath ∈ x.reloader.pending) :
    (x.act .flush).Recorded := by
  obtain ⟨-, calm, flushed⟩ := Reloader.flush_of_calm regular
  intro bytes read
  rw [act, flushed] at read ⊢
  by_cases pending : x.reloader.documentPath ∈ x.reloader.pending
  · have source : x.reloader.sourceDue x.disk.files = some bytes := by
      rw [Reloader.sourceDue, if_pos (List.contains_iff_mem.mpr pending)]
      exact congrArg Except.toOption read
    rw [source] at calm ⊢
    rw [Reloader.turnFault, Option.bind_some] at calm
    cases changed : (x.reloader.themeTurn x.disk.files).1.documentChanged (.bytes bytes) with
    | ok reaction => exact Session.records_step changed
    | error fault =>
        rw [changed] at calm
        cases calm
  · have source : x.reloader.sourceDue x.disk.files = none :=
      if_neg fun due => pending (List.contains_iff_mem.mp due)
    have records := (known.resolve_right pending) bytes read
    rw [source]
    rcases x.reloader.themeTurn_cases x.disk.files with ⟨-, same⟩ | ⟨path, -, change⟩
    · rw [same]
      exact records
    · exact records.themeFile change

/-- The documents that a flush brings are there in the file of the document. -/
theorem held_of_flush (here : x.disk ∈ x.earlier) :
    documents (x.reloader.events x.disk.files) ⊆ x.held := by
  intro d brought
  obtain ⟨e, inside, brings⟩ := List.mem_filterMap.mp brought
  rcases List.mem_append.mp inside with theme | document
  · obtain ⟨path, -, rfl⟩ := Option.map_eq_some_iff.mp (Option.mem_toList.mp theme)
    cases brings
  · obtain ⟨bytes, due, rfl⟩ := Option.map_eq_some_iff.mp (Option.mem_toList.mp document)
    rw [Reloader.sourceDue] at due
    split at due
    · refine List.mem_filterMap.mpr ⟨x.disk, here, ?_⟩
      rw [due]
      exact brings
    · cases due

/-- The themes that a flush loads are there in the file of the theme. -/
theorem themesHeld_of_flush (here : x.disk ∈ x.earlier) (base : Theme.Base) :
    (x.reloader.events x.disk.files).filterMap (Event.loaded? base) ⊆ x.themesHeld base := by
  intro theme brought
  obtain ⟨e, inside, brings⟩ := List.mem_filterMap.mp brought
  rcases List.mem_append.mp inside with themed | document
  · obtain ⟨path, due, rfl⟩ := Option.map_eq_some_iff.mp (Option.mem_toList.mp themed)
    refine List.mem_filterMap.mpr ⟨x.disk, here, ?_⟩
    rw [(Option.filter_eq_some_iff.mp due).1]
    exact brings
  · obtain ⟨bytes, -, rfl⟩ := Option.map_eq_some_iff.mp (Option.mem_toList.mp document)
    cases brings

theorem Tracks.told_flush (tracks : x.Tracks first noticed) (regular : x.Regular .flush) :
    ∃ events, (x.act .flush).reloader.session = first.reloader.session.run events ∧
      documents events ⊆ x.held ∧
      ∀ base, events.filterMap (Event.loaded? base) ⊆ x.themesHeld base := by
  obtain ⟨-, -, flushed⟩ := Reloader.flush_of_calm regular
  obtain ⟨events, told, documents, themes⟩ := tracks.told
  refine ⟨events ++ x.reloader.events x.disk.files, ?_, ?_, fun base => ?_⟩
  · rw [act, flushed, Session.run_append, ← told]
    exact x.reloader.turns_eq_run x.disk.files
  · rw [Preview.documents, List.filterMap_append]
    exact List.append_subset.mpr ⟨documents, held_of_flush tracks.here⟩
  · rw [List.filterMap_append]
    exact List.append_subset.mpr ⟨themes base, themesHeld_of_flush tracks.here base⟩

/-- A theme that the watcher has not seen is loaded by a flush only if it is there. -/
theorem Tracks.unloaded_flush (tracks : x.Tracks first noticed) (regular : x.Regular .flush)
    {path : FilePath} (looked : path ∈ x.reloader.themePath)
    (unseen : x.reloader.watcher.seen.get? path = none) :
    (x.act .flush).reloader.session.InForce none ∨ (x.act .flush).unseen = true ∨ ¬ noticed := by
  rcases theme_flush regular looked with ⟨-, due, inForce⟩ | ⟨idle, keeps⟩
  · cases there : x.disk.files.contains path with
    | false =>
        have missing : x.disk.files.themeAt path = none := by
          rw [Files.themeAt, there]
          rfl
        rw [missing] at inForce
        exact .inl inForce
    | true =>
        have loads : x.loadsUnseen = true := by
          rw [loadsUnseen, due, Option.any_some, there, unseen]
          rfl
        exact .inr (.inl (Bool.or_eq_true_iff.mpr (.inr loads)))
  · rcases tracks.unloaded path looked unseen with inForce | pending | loaded | overlooked
    · exact .inl (keeps none inForce)
    · exact absurd pending idle
    · exact .inr (.inl (Bool.or_eq_true_iff.mpr (.inl loaded)))
    · exact .inr (.inr overlooked)

theorem Tracks.flush (tracks : x.Tracks first noticed) (regular : x.Regular .flush) :
    (x.act .flush).Tracks first noticed := by
  have told := tracks.told_flush regular
  have unloaded := fun path (looked : path ∈ x.reloader.themePath) =>
    tracks.unloaded_flush regular looked
  have whole := whole_flush regular tracks.whole
  have recorded : x.Recorded ∨ x.reloader.documentPath ∈ x.reloader.pending →
      (x.act .flush).Recorded := recorded_flush regular
  have idle := inForce_of_idle regular
  have theme := fun path (looked : path ∈ x.reloader.themePath) => theme_flush regular looked
  rw [act_flush regular] at told whole unloaded recorded idle theme ⊢
  refine { tracks with
    told := told
    whole := whole
    unthemed := ?unthemed
    theme := ?theme
    unloaded := ?unloaded
    document := ?document }
  case unthemed =>
    intro unthemed
    refine idle (Reloader.themeDue_of_notMem fun path looked => ?_) (tracks.unthemed unthemed)
    cases unthemed.symm.trans looked
  case theme =>
    intro path looked
    rcases theme path looked with ⟨-, -, inForce⟩ | ⟨idle, keeps⟩
    · exact .inl inForce
    · rcases tracks.theme path looked with inForce | (pending | notices) | overlooked
      · exact .inl (keeps _ inForce)
      · exact absurd pending idle
      · exact .inr (.inl (.inr notices))
      · exact .inr (.inr overlooked)
  case unloaded =>
    intro path looked unseen
    rcases unloaded path looked unseen with inForce | loaded | overlooked
    · exact .inl inForce
    · exact .inr (.inr (.inl loaded))
    · exact .inr (.inr (.inr overlooked))
  case document =>
    rcases tracks.document with before | pending | notices
    · exact .inl (recorded (.inl before))
    · exact .inl (recorded (.inr pending))
    · exact .inr (.inr notices)

/-! ### Schedules -/

/-- **What an action preserves.** -/
theorem Tracks.act {a : Action} (tracks : x.Tracks first noticed) (regular : x.Regular a)
    (stays : noticed → x.Noticed a) : (x.act a).Tracks first noticed := by
  cases a with
  | edit after => exact tracks.edit regular stays
  | poll => exact tracks.poll
  | flush => exact tracks.flush regular

theorem Tracks.run {schedule : List Action} (tracks : x.Tracks first noticed)
    (regular : x.Throughout Regular schedule) (stays : noticed → x.Throughout Noticed schedule) :
    (x.run schedule).Tracks first noticed := by
  induction schedule generalizing x with
  | nil => exact tracks
  | cons a schedule ih =>
      exact ih (tracks.act regular.1 fun known => (stays known).1) regular.2
        fun known => (stays known).2

theorem throughout_append {holds : Workspace → Action → Prop} {schedule more : List Action} :
    x.Throughout holds (schedule ++ more) ↔
      x.Throughout holds schedule ∧ (x.run schedule).Throughout holds more := by
  induction schedule generalizing x with
  | nil => exact (and_iff_right trivial).symm
  | cons a schedule ih => exact (and_congr_right fun _ => ih).trans and_assoc.symm

/-- After a look and a flush no change is due. -/
theorem not_due_of_flush (regular : (x.act .poll).Regular .flush) {path : FilePath}
    (watched : path ∈ ((x.act .poll).act .flush).reloader.watcher.paths) :
    ¬ ((x.act .poll).act .flush).Due path := by
  obtain ⟨pending, waiting, polled, -⟩ := x.reloader.poll_eq x.disk.times
  have seen : (x.act .poll).reloader.watcher = (x.reloader.watcher.poll x.disk.times).2 := by
    rw [act, polled]
  rw [act_flush regular] at watched ⊢
  rintro (still | notices)
  · cases still
  · exact Watcher.not_notices_poll (seen ▸ watched) (seen ▸ notices)

theorem not_due_of_schedule {schedule : List Action}
    (regular : x.Throughout Regular (schedule ++ [.poll, .flush])) :
    let y := x.run (schedule ++ [.poll, .flush])
    ∀ path ∈ y.reloader.watcher.paths, ¬ y.Due path := by
  intro y path watched
  obtain ⟨-, -, calm, -⟩ := throughout_append.mp regular
  have last : y = ((x.run schedule).act .poll).act .flush := List.foldl_append
  rw [last] at watched ⊢
  exact not_due_of_flush calm watched

/-- Where nothing is due, the files have been applied, but for a theme that went unseen. -/
theorem Tracks.applied (tracks : x.Tracks first noticed)
    (calm : ∀ path ∈ x.reloader.watcher.paths, ¬ x.Due path) :
    x.Recorded ∧
      ((noticed ∨ ∀ path ∈ x.reloader.themePath, x.disk.files.contains path) →
        x.reloader.session.InForce (x.reloader.themePath.bind x.disk.files.themeAt)) := by
  refine ⟨tracks.document.resolve_right (calm _ tracks.document_watched), fun known => ?_⟩
  cases looked : x.reloader.themePath with
  | none => exact tracks.unthemed looked
  | some path =>
      have watched := tracks.theme_watched looked
      rcases tracks.theme path looked with inForce | due | ⟨overlooked, missing⟩
      · exact inForce
      · exact absurd due (calm path watched)
      · have there := known.resolve_left overlooked path looked
        rw [tracks.stamped path watched, missing] at there
        cases there

/-- The session has the theme of the file, and the outcome of the document. -/
structure Loaded (x : Workspace) : Prop where
  stamped : ∀ path ∈ x.reloader.watcher.paths, x.disk.Stamped path
  theme : x.reloader.session.InForce (x.reloader.themePath.bind x.disk.files.themeAt)
  document : x.Recorded

theorem Loaded.tracks {s : Session} {encodes : Bool} {documentPath : FilePath}
    {themePath : Option FilePath} {disk : Disk}
    (loaded : (start s encodes documentPath themePath disk).Loaded) (noticed : Prop) :
    (start s encodes documentPath themePath disk).Tracks
      (start s encodes documentPath themePath disk) noticed := by
  have seen : ∀ path ∈ documentPath :: themePath.toList,
      (start s encodes documentPath themePath disk).reloader.watcher.seen.get? path =
        disk.times.get? path :=
    fun path watched => Watcher.get?_scan watched
  have themed := loaded.theme
  refine ⟨rfl, rfl, rfl, loaded.stamped, List.mem_cons_self, ?_,
    ⟨[], rfl, List.nil_subset _, fun _ => List.nil_subset _⟩, themed.whole, ?_, ?_, ?_,
    .inl loaded.document⟩
  · intro path watched time had
    exact ⟨disk, List.mem_cons_self, (seen path watched).symm.trans had⟩
  · intro unthemed
    rw [unthemed] at themed
    exact themed
  · intro path looked
    rw [looked] at themed
    exact .inl themed
  · intro path looked unseen
    have watched := List.mem_cons_of_mem documentPath (Option.mem_toList.mpr looked)
    have missing := (loaded.stamped path watched).themeAt_eq_none
      ((seen path watched).symm.trans unseen)
    rw [looked] at themed
    exact .inl (missing ▸ themed)

/-- A session that takes the theme and then the document from a disk has loaded them. -/
theorem loaded_start {s : Session} {encodes : Bool} {documentPath themePath : FilePath}
    {disk : Disk} {bytes : List UInt8}
    (stamped : ∀ path ∈ [documentPath, themePath], disk.Stamped path)
    (resolves : ((Event.themeFile (disk.files.themeAt themePath)).theme? s.pipeline.base).isSome)
    (read : disk.files.read documentPath = .ok bytes)
    (accepts : ((s.step (.themeFile (disk.files.themeAt themePath))).1.documentChanged
      (.bytes bytes)).isOk) :
    (start (s.run [.themeFile (disk.files.themeAt themePath), .document (.bytes bytes)]) encodes
      documentPath (some themePath) disk).Loaded := by
  refine ⟨stamped, ?_, fun others other => ?_⟩
  · obtain ⟨theme, themed⟩ := Option.isSome_iff_exists.mp resolves
    obtain ⟨loaded, whole⟩ := Option.filter_eq_some_iff.mp themed
    have resolved : Theme.Resolved.ofFile s.pipeline.base (disk.files.themeAt themePath) =
        .ok theme := by
      rw [Event.loaded?] at loaded
      cases result : Theme.Resolved.ofFile s.pipeline.base (disk.files.themeAt themePath) with
      | ok found =>
          rw [result] at loaded
          cases loaded
          rfl
      | error cause =>
          rw [result] at loaded
          cases loaded
    exact ((s.change_step _).inForce resolved (by simpa using whole)).turn (some bytes)
  · obtain rfl := Except.ok.inj (read.symm.trans other)
    cases changed : (s.step (.themeFile (disk.files.themeAt themePath))).1.documentChanged
        (.bytes bytes) with
    | ok reaction => exact Session.records_step changed
    | error cause =>
        rw [changed] at accepts
        cases accepts

/-- A reloader begins where its session, which has met some documents and some themes, has loaded
the files. -/
inductive Begins (base : Theme.Base) (docs : List Document) (themes : List Theme.Resolved) :
    Workspace → Prop where
  | start {s : Session} {encodes : Bool} {documentPath : FilePath} {themePath : Option FilePath}
    {disk : Disk} (reached : s.Reached base docs themes)
    (loaded : (start s encodes documentPath themePath disk).Loaded) :
    Begins base docs themes (start s encodes documentPath themePath disk)

/-- **Reloading converges.** A reloader begins where its session has loaded the theme, if it looks
after one, and the document. Then files are written, taken away and written again, the watcher
looks, and what has been collected is applied, in any order and any number of times, until at last
the watcher looks and what has been collected is applied once more. Then the theme in force is the
one of its file, or the one of the base if the file is not there, and the session has the outcome of
what the file of the document holds, under that theme. The fragment of the outcome is the one that
is made of document and theme, as far as the pipeline can tell themes apart.

A theme that is not there can be overlooked, but only if it was taken away after it had been loaded
and before the watcher had seen it. -/
theorem converges {base : Theme.Base} {docs : List Document} {themes : List Theme.Resolved}
    {schedule : List Action} (begins : x.Begins base docs themes)
    (regular : x.Throughout Regular (schedule ++ [.poll, .flush])) :
    let y := x.run (schedule ++ [.poll, .flush])
    let t := y.reloader.session
    ((x.Throughout Noticed schedule ∨
        ∀ path ∈ x.reloader.themePath, y.disk.files.contains path) →
      Theme.Resolved.ofFile base (x.reloader.themePath.bind y.disk.files.themeAt) =
        .ok t.pipeline.theme) ∧
    t.pipeline.styleSheet = t.pipeline.theme.styleSheet ∧
    (∀ bytes, y.disk.files.read x.reloader.documentPath = .ok bytes →
      t.Records (.bytes bytes)) ∧
    (Distinguished (docs ++ y.held) → ∀ r ∈ t.slot.good,
      r.fragment.markup = (Render.fragment r.document t.pipeline.theme).markup) ∧
    (Distinguished (docs ++ y.held) → ThemesDistinguished (themes ++ y.themesHeld base) →
      (∀ theme ∈ themes ++ y.themesHeld base, theme.hasHalves = false) →
      IndexTold (themes ++ y.themesHeld base) → ∀ r ∈ t.slot.good,
        r.fragment = Render.fragment r.document t.pipeline.theme) := by
  obtain ⟨reached, loaded⟩ := begins
  intro y t
  have tracks : y.Tracks _ (Throughout Noticed _ schedule) :=
    (loaded.tracks _).run regular fun known =>
      throughout_append.mpr ⟨known, trivial, trivial, trivial⟩
  obtain ⟨recorded, inForce⟩ := tracks.applied (not_due_of_schedule regular)
  rw [Recorded, tracks.documentPath] at recorded
  rw [tracks.themePath] at inForce
  obtain ⟨events, same, documents, held⟩ := tracks.told
  have later : t.Reached base (docs ++ Preview.documents events)
      (themes ++ events.filterMap (Event.loaded? base)) := by
    rw [show t = _ from same]
    exact reached.run events
  have inside : docs ++ Preview.documents events ⊆ docs ++ y.held :=
    List.append_subset.mpr ⟨List.subset_append_left _ _,
      List.Subset.trans documents (List.subset_append_right _ _)⟩
  have among : themes ++ events.filterMap (Event.loaded? base) ⊆ themes ++ y.themesHeld base :=
    List.append_subset.mpr ⟨List.subset_append_left _ _,
      List.Subset.trans (held base) (List.subset_append_right _ _)⟩
  refine ⟨fun known => ?theme, later.sheeted tracks.whole, recorded, ?shown, ?fragments⟩
  case theme =>
    have resolved := (inForce known).resolved
    rwa [later.founded] at resolved
  case shown => exact fun distinct => later.shown distinct inside
  case fragments =>
    exact fun distinct tellable whole told =>
      later.fragments distinct inside tellable among whole told

/-- A directory with some files, each with a time. -/
def diskOf (contents : List (String × String × Int)) : Disk :=
  ⟨Reloader.filesOf (contents.map fun (name, content, _) => (name, content)),
    contents.map fun (name, _, time) => (⟨"/", [name]⟩, time)⟩

/-- A page and a theme. -/
def pageAndTheme : Disk :=
  diskOf [("page", "page: \x7b\x7d", 1), ("theme", "theme: \x7btokens: \x7ba: 1\x7d\x7d", 1)]

/-- A reloader that has loaded a page and a theme. Its pipeline keeps no fragments. -/
def pageShown : Workspace :=
  let s := (Session.start (Pipeline.start .bare 0) none "" .html).run
    [.themeFile (pageAndTheme.files.themeAt ⟨"/", ["theme"]⟩),
      .document (.bytes (Text.Utf8.encode "page: \x7b\x7d"))]
  start s true ⟨"/", ["page"]⟩ (some ⟨"/", ["theme"]⟩) pageAndTheme

theorem loaded_pageShown : pageShown.Loaded :=
  loaded_start (by decide) (by decide +kernel) (by decide +kernel) (by decide +kernel)

theorem begins_pageShown : ∃ docs themes, pageShown.Begins .bare docs themes :=
  ⟨_, _, .start (.after 0 [] _ none "" .html) loaded_pageShown⟩

/-- The page changes and the theme goes. -/
theorem converges_page_alone :
    let after := diskOf [("page", "page: \x7btitle: a\x7d", 2)]
    let schedule := [.edit after] ++ [.poll, .flush]
    let t := (pageShown.run schedule).reloader.session
    (∃ docs themes, pageShown.Begins .bare docs themes) ∧
      pageShown.Throughout Regular schedule ∧
      pageShown.Throughout Noticed [.edit after] ∧
      Theme.Resolved.ofFile .bare none = .ok t.pipeline.theme ∧
      t.Records (.bytes (Text.Utf8.encode "page: \x7btitle: a\x7d")) := by
  intro after schedule t
  obtain ⟨docs, themes, begins⟩ := begins_pageShown
  have edited : pageShown.Regular (.edit after) :=
    List.forall_mem_cons.mpr ⟨⟨by decide, .written rfl (by decide)⟩,
      List.forall_mem_cons.mpr ⟨⟨by decide, .gone rfl⟩, nofun⟩⟩
  have calm : (((pageShown.act (.edit after)).act .poll).reloader.flush after.files).2 = none := by
    decide +kernel
  have regular : pageShown.Throughout Regular schedule :=
    ⟨edited, trivial, calm, trivial⟩
  have noticed : pageShown.Throughout Noticed [.edit after] := ⟨nofun, trivial⟩
  have missing : pageShown.reloader.themePath.bind (pageShown.run schedule).disk.files.themeAt =
      none := by
    decide +kernel
  have page : after.files.read ⟨"/", ["page"]⟩ =
      .ok (Text.Utf8.encode "page: \x7btitle: a\x7d") := by
    decide +kernel
  obtain ⟨theme, -, document, -⟩ := converges begins regular
  have resolved := theme (.inl noticed)
  have same : (pageShown.run ([.edit after] ++ [.poll, .flush])).reloader.session = t := rfl
  rw [missing, same] at resolved
  rw [same] at document
  exact ⟨⟨docs, themes, begins⟩, regular, noticed, resolved, document _ page⟩

/-- The theme goes, and the watcher sees it. Before a flush the theme is there again and is loaded
by the flush; then it goes once more, and of that the watcher does not tell. -/
theorem stale_theme :
    let alone := diskOf [("page", "page: \x7b\x7d", 1)]
    let again := diskOf [("page", "page: \x7b\x7d", 1),
      ("theme", "theme: \x7btokens: \x7ba: 2\x7d\x7d", 2)]
    let schedule := [.edit alone, .poll, .edit again, .flush, .edit alone] ++ [.poll, .flush]
    let y := pageShown.run schedule
    (∃ docs themes, pageShown.Begins .bare docs themes) ∧
      pageShown.Throughout Regular schedule ∧
      y.disk.files.themeAt ⟨"/", ["theme"]⟩ = none ∧
      Theme.Resolved.ofFile .bare none ≠ .ok y.reloader.session.pipeline.theme := by
  intro alone again schedule y
  let seen := (pageShown.act (.edit alone)).act .poll
  let second := seen.act (.edit again)
  let last := ((second.act .flush).act (.edit alone)).act .poll
  have first : pageShown.Regular (.edit alone) :=
    List.forall_mem_cons.mpr ⟨⟨by decide, .kept rfl rfl⟩,
      List.forall_mem_cons.mpr ⟨⟨by decide, .gone rfl⟩, nofun⟩⟩
  have written : seen.Regular (.edit again) :=
    List.forall_mem_cons.mpr ⟨⟨by decide, .kept rfl rfl⟩,
      List.forall_mem_cons.mpr ⟨⟨by decide, .written rfl (by decide)⟩, nofun⟩⟩
  have loads : (second.reloader.flush again.files).2 = none := by decide +kernel
  have gone : (second.act .flush).Regular (.edit alone) := by
    refine (regular_edit_flush loads).mpr ?_
    exact List.forall_mem_cons.mpr ⟨⟨by decide, .kept rfl rfl⟩,
      List.forall_mem_cons.mpr ⟨⟨by decide, .gone rfl⟩, nofun⟩⟩
  have calm : (last.reloader.flush alone.files).2 = none := by decide +kernel
  have missing : alone.files.themeAt ⟨"/", ["theme"]⟩ = none := by decide +kernel
  have styled : (Theme.Resolved.defaults .bare []).styleSheet ≠
      y.reloader.session.pipeline.theme.styleSheet := by
    decide +kernel
  refine ⟨begins_pageShown, ⟨first, trivial, written, loads, gone, trivial, calm, trivial⟩, missing,
    fun resolved => styled ?_⟩
  exact congrArg Theme.Resolved.styleSheet (Except.ok.inj resolved)

end Workspace

end Wireframe.Preview
