import Mathlib.Tactic.SplitIfs
import Wireframe.Preview.Surface
import Wireframe.Proofs.Preview.History

/-! # Surfaces mirror sessions

What a surface has on its screen follows from the messages of its session alone, since it
applies them in the order in which they are sent. A surface that has loaded asks for the
present state, and from then on its screen is that of the session: the markup of the good
document, the style sheet in force, and the banner of the last failure
(`Wireframe.Preview.Live.mirrors_run`).

A refused export is announced by an error message as well, and is no failure of a source;
the banner of a refusal is the one thing on a screen that a session does not know of.
-/

namespace Wireframe.Preview

/-- What a surface has on its screen. -/
structure Screen where
  fragment : String
  cssVariables : String
  banner : Option Banner

/-- The banner that a message puts up. -/
def HostMessage.banner? : HostMessage → Option Banner
  | error message => some ⟨"Error", message⟩
  | schemaError message path => some ⟨Surface.schemaLabel path, message⟩
  | _ => none

/-- A screen after a message. -/
def Screen.apply (screen : Screen) : HostMessage → Screen
  | .update fragment css => ⟨fragment, css, none⟩
  | .themeVariables css => { screen with cssVariables := css }
  | .openDevTools => screen
  | .error message => { screen with banner := HostMessage.banner? (.error message) }
  | .schemaError message path =>
    { screen with banner := HostMessage.banner? (.schemaError message path) }

/-- A screen after several messages. -/
def Screen.applyAll (screen : Screen) (messages : List HostMessage) : Screen :=
  messages.foldl apply screen

/-! ## What several messages leave on a screen

Each message sets some parts of a screen and leaves the others, so a part of the screen after
several messages is what the last of them that sets the part has set.
-/

/-- The markup that a message puts on a screen, if it puts any. -/
def HostMessage.fragment? : HostMessage → Option String
  | update fragment _ => some fragment
  | _ => none

/-- The style sheet that a message puts on a screen, if it puts any. -/
def HostMessage.cssVariables? : HostMessage → Option String
  | update _ css => some css
  | themeVariables css => some css
  | _ => none

/-- The banner that a message puts up, or that there is none any more; other messages leave it. -/
def HostMessage.bannerLeft? : HostMessage → Option (Option Banner)
  | update .. => some none
  | m => m.banner?.map some

/-- What is set last in the course of several messages. -/
def lastSet {β : Type} (sets : HostMessage → Option β) (messages : List HostMessage) : Option β :=
  (messages.filterMap sets).getLast?

theorem lastSet_cons {β : Type} (sets : HostMessage → Option β) (m : HostMessage)
    (messages : List HostMessage) :
    lastSet sets (m :: messages) = (lastSet sets messages).or (sets m) := by
  have alone : ([m].filterMap sets).getLast? = sets m := by
    cases set : sets m <;> simp [set]
  rw [← List.singleton_append, lastSet, List.filterMap_append, List.getLast?_append, alone]
  rfl

namespace Screen

attribute [ext] Screen

theorem part_applyAll {β : Type} {part : Screen → β} {sets : HostMessage → Option β}
    (part_apply : ∀ screen m, part (apply screen m) = (sets m).getD (part screen))
    (screen : Screen) (messages : List HostMessage) :
    part (screen.applyAll messages) = (lastSet sets messages).getD (part screen) := by
  induction messages generalizing screen with
  | nil => rfl
  | cons m messages ih =>
      have rest : part (screen.applyAll (m :: messages)) =
          (lastSet sets messages).getD (part (screen.apply m)) := ih (screen.apply m)
      rw [rest, part_apply, lastSet_cons]
      cases lastSet sets messages <;> rfl

theorem fragment_applyAll (screen : Screen) (messages : List HostMessage) :
    (screen.applyAll messages).fragment =
      (lastSet HostMessage.fragment? messages).getD screen.fragment :=
  part_applyAll (fun _ m => by cases m <;> rfl) screen messages

theorem cssVariables_applyAll (screen : Screen) (messages : List HostMessage) :
    (screen.applyAll messages).cssVariables =
      (lastSet HostMessage.cssVariables? messages).getD screen.cssVariables :=
  part_applyAll (fun _ m => by cases m <;> rfl) screen messages

theorem banner_applyAll (screen : Screen) (messages : List HostMessage) :
    (screen.applyAll messages).banner =
      (lastSet HostMessage.bannerLeft? messages).getD screen.banner :=
  part_applyAll (fun _ m => by cases m <;> rfl) screen messages

theorem applyAll_append (screen : Screen) (first second : List HostMessage) :
    screen.applyAll (first ++ second) = (screen.applyAll first).applyAll second :=
  List.foldl_append ..

/-- Messages that come a second time change nothing. -/
theorem applyAll_applyAll (screen : Screen) (messages : List HostMessage) :
    (screen.applyAll messages).applyAll messages = screen.applyAll messages := by
  have again {β : Type} (set : Option β) (before : β) :
      set.getD (set.getD before) = set.getD before := by
    cases set <;> rfl
  have fragment := fragment_applyAll (screen.applyAll messages) messages
  have css := cssVariables_applyAll (screen.applyAll messages) messages
  have banner := banner_applyAll (screen.applyAll messages) messages
  rw [fragment_applyAll screen, again, ← fragment_applyAll] at fragment
  rw [cssVariables_applyAll screen, again, ← cssVariables_applyAll] at css
  rw [banner_applyAll screen, again, ← banner_applyAll] at banner
  exact Screen.ext fragment css banner

/-- On a screen that some messages have led to, the last of these messages change nothing. -/
theorem applyAll_suffix (screen : Screen) {past messages : List HostMessage}
    (suffix : messages <:+ past) :
    (screen.applyAll past).applyAll messages = screen.applyAll past := by
  obtain ⟨earlier, rfl⟩ := suffix
  rw [applyAll_append, applyAll_applyAll]

end Screen

/-! ## The screen of a surface -/

namespace Surface

/-- The screen of a surface. -/
def screen (surface : Surface) : Screen := ⟨surface.fragment, surface.cssVariables, surface.banner⟩

@[simp] theorem screen_move (surface : Surface) (target : SurfaceState) :
    (surface.move target).screen = surface.screen := by
  unfold move
  split_ifs <;> rfl

@[simp] theorem screen_start (surface : Surface) : surface.start.screen = surface.screen := by
  unfold start
  split_ifs
  · exact screen_move surface .ready
  · rfl

theorem screen_showError (surface : Surface) (label text : String) :
    (surface.showError label text).screen =
      { surface.screen with banner := some ⟨label, text⟩ } := by
  obtain ⟨fragment, css, _⟩ := Screen.mk.inj (screen_start surface)
  rw [showError, screen_move]
  simp only [screen, fragment, css]

/-- A message does to a surface what it does to its screen. -/
theorem screen_apply (surface : Surface) (m : HostMessage) :
    (surface.apply m).screen = surface.screen.apply m := by
  cases m with
  | update fragment css =>
      rw [apply, screen_move]
      rfl
  | error message => exact screen_showError surface _ _
  | schemaError message path => exact screen_showError surface _ _
  | themeVariables css => rfl
  | openDevTools => rfl

theorem screen_applyAll (surface : Surface) (messages : List HostMessage) :
    (surface.applyAll messages).screen = surface.screen.applyAll messages := by
  induction messages generalizing surface with
  | nil => rfl
  | cons m messages ih =>
      have first := ih (surface.apply m)
      rw [screen_apply] at first
      exact first

end Surface

/-! ## The screen of a session -/

namespace Session

/-- The screen that a session means to show. -/
def screen (s : Session) : Screen :=
  ⟨(s.slot.good.map fun r => r.fragment.markup).getD "", s.pipeline.styleSheet,
    s.slot.failed.bind fun failure => failure.toMessage.banner?⟩

/-- The messages that announce a failure again put its banner up and leave the rest. -/
theorem applyAll_failed (screen : Screen) (failed : Option SourceFailure)
    (down : screen.banner = none) :
    screen.applyAll (failed.toList.map SourceFailure.toMessage) =
      { screen with banner := failed.bind fun failure => failure.toMessage.banner? } := by
  cases failed with
  | none =>
      rw [Option.bind_none, ← down]
      rfl
  | some failure => cases failure <;> rfl

/-- The state that a session tells replaces all that is on a screen, if there is a good document. -/
theorem applyAll_snapshot {s : Session} {good : Rendered} (current : s.Current)
    (present : s.slot.good = some good) (screen : Screen) :
    screen.applyAll s.snapshot = s.screen := by
  rw [snapshot, present]
  have failed := applyAll_failed ⟨good.fragment.markup, good.styleSheet, none⟩ s.slot.failed rfl
  have same := current good present
  rw [Session.screen, present, ← same]
  exact failed

/-- A surface that has just loaded shows a session when it is told the present state. -/
theorem applyAll_snapshot_load {s : Session} (current : s.Current) :
    (⟨"", "", none⟩ : Screen).applyAll s.snapshot = s.screen := by
  cases present : s.slot.good with
  | some good => exact applyAll_snapshot current present _
  | none =>
      have failed := applyAll_failed ⟨"", s.pipeline.styleSheet, none⟩ s.slot.failed rfl
      rw [snapshot, present, screen, present]
      exact failed

/-- A surface that shows a session still shows it when it is told the present state. -/
theorem applyAll_snapshot_screen {s : Session} (current : s.Current) :
    s.screen.applyAll s.snapshot = s.screen := by
  have told := applyAll_snapshot_load current
  rw [← told]
  exact Screen.applyAll_applyAll _ s.snapshot

/-- **A step is mirrored.** What an event makes a session send turns the screen of the session
before it into the screen of the session after it, unless an export is refused. -/
theorem Change.screen {s t : Session} {e : Event} {sent : List HostMessage}
    (change : Change s e t sent) (current : s.Current)
    (granted : e = .message .exportRequest → ¬ s.Refuses) :
    s.screen.applyAll sent = t.screen := by
  cases change with
  | rendered parsed => rfl
  | failed failure unparsed => cases failure <;> rfl
  | themed resolved missing => rfl
  | rerendered resolved good => exact applyAll_failed ⟨_, _, none⟩ s.slot.failed rfl
  | halfway loaded halved => rfl
  | answered => exact applyAll_snapshot_screen current
  | refused text refuses => exact absurd refuses (granted rfl)
  | opened => rfl
  | still unparsed unloaded => rfl

/-- No export that is asked for in the course of some events is refused. -/
def Grants : Session → List Event → Prop
  | _, [] => True
  | s, e :: events =>
    (e = .message .exportRequest → ¬ s.Refuses) ∧ Grants (s.step e).1 events

/-- Whether events are granted is decided by running them. -/
def decideGrants : (s : Session) → (events : List Event) → Decidable (s.Grants events)
  | _, [] => .isTrue trivial
  | s, e :: events =>
    have := decideGrants (s.step e).1 events
    inferInstanceAs
      (Decidable ((e = .message .exportRequest → ¬ s.Refuses) ∧ Grants (s.step e).1 events))

instance (s : Session) (events : List Event) : Decidable (s.Grants events) := s.decideGrants events

end Session

/-! ## Surfaces beside their sessions -/

/-- A session with a surface that applies its messages. -/
structure Live where
  session : Session
  surface : Surface

namespace Live

/-- What an event comes to: the surface applies all that the session sends, in order. -/
def step (live : Live) (e : Event) : Live :=
  ⟨(live.session.step e).1, live.surface.applyAll (live.session.step e).2⟩

/-- What several events come to. -/
def run (live : Live) (events : List Event) : Live := events.foldl step live

/-- A session to which a new surface is connected: it loads, and its message is answered. -/
def connect (s : Session) : Live := step ⟨s, Surface.fresh.load.1⟩ (.message Surface.fresh.load.2)

theorem screen_connect {s : Session} (current : s.Current) :
    (connect s).surface.screen = s.screen := by
  rw [connect, step, Surface.screen_applyAll]
  exact Session.applyAll_snapshot_load current

theorem screen_step {live : Live} (e : Event) (current : live.session.Current)
    (granted : e = .message .exportRequest → ¬ live.session.Refuses)
    (same : live.surface.screen = live.session.screen) :
    (live.step e).surface.screen = (live.step e).session.screen := by
  rw [step, Surface.screen_applyAll, same]
  exact (live.session.change_step e).screen current granted

theorem screen_run {live : Live} (events : List Event) (current : live.session.Current)
    (grants : live.session.Grants events)
    (same : live.surface.screen = live.session.screen) :
    (live.run events).surface.screen = (live.run events).session.screen := by
  induction events generalizing live with
  | nil => exact same
  | cons e events ih =>
      exact ih ((live.session.change_step e).current current) grants.2
        (screen_step e current grants.1 same)

theorem session_run (live : Live) (events : List Event) :
    (live.run events).session = live.session.run events := by
  induction events generalizing live with
  | nil => rfl
  | cons e events ih => exact ih (live.step e)

/-- **The surface mirrors the session.** Whatever has happened to a session, a surface is connected
to it; whatever happens then, calls that break off included, the surface shows the markup of the
good document, or nothing where there is none, the style sheet in force, and the banner of the last
failure, or none where the last source was good. -/
theorem mirrors_run (p : Pipeline) (target : Option FilePath) (title : String)
    (format : Export.Format) (before events : List Event)
    (grants : ((Session.start p target title format).run before).Grants events) :
    let s := (Session.start p target title format).run (before ++ events)
    let surface := ((connect ((Session.start p target title format).run before)).run events).surface
    surface.fragment = (s.slot.good.map fun r => r.fragment.markup).getD "" ∧
      surface.cssVariables = s.pipeline.styleSheet ∧
      surface.banner = s.slot.failed.bind fun failure => failure.toMessage.banner? := by
  intro s surface
  have current := Session.current_run (Session.current_start p target title format) before
  have same := screen_run events current grants (screen_connect current)
  have reached : ((connect ((Session.start p target title format).run before)).run events).session =
      s := by
    rw [session_run]
    exact (List.foldl_append ..).symm
  rw [reached] at same
  exact ⟨congrArg Screen.fragment same, congrArg Screen.cssVariables same,
    congrArg Screen.banner same⟩

/-- A theme, a document, a source that is broken, an export of the document before it, and a surface
that asks again: all this is mirrored. -/
theorem mirrors_run_export :
    let start := Session.start (Pipeline.start .builtin 32) (some ⟨"/", ["out.html"]⟩) "Preview"
      .html
    let events := [.theme none "theme", .document (.text "page: \x7b\x7d"),
      .document (.text "page: ["), .message .exportRequest, .message .ready]
    let s := start.run ([] ++ events)
    let surface := ((connect (start.run [])).run events).surface
    (start.run []).Grants events ∧
      surface.fragment = (s.slot.good.map fun r => r.fragment.markup).getD "" ∧
      surface.cssVariables = s.pipeline.styleSheet ∧
      surface.banner = s.slot.failed.bind fun failure => failure.toMessage.banner? :=
  ⟨by decide +kernel, mirrors_run _ _ _ _ [] _ (by decide +kernel)⟩

end Live

end Wireframe.Preview
