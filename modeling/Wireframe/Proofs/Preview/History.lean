import Wireframe.Preview.Session

/-! # Histories of a session

What happens to a session comes as a sequence of events: sources of documents and themes
from the host, messages from a surface. A call that breaks off counts as an event, too. It
sends nothing and leaves the session as it was, but for a theme without an encoding, which it
leaves halfway in force.

What a single event does to a session is told once, by `Wireframe.Preview.Session.Change`;
what holds of all histories is derived from that.
-/

namespace Wireframe.Preview

/-- Something that happens to a session. -/
inductive Event where
  | document (source : Source)
  | theme (content : Option String) (source : String)
  | themeFile (file : Option (Theme.Content × String))
  | message (m : SurfaceMessage)
  | devTools
deriving DecidableEq

namespace Event

/-- The document that an event brings, parsed from its source alone. Its texts have an encoding. -/
def document? : Event → Option Document
  | document source => (Document.renderable source).toOption
  | _ => none

/-- The theme that an event loads over a base, resolved from its source alone. -/
def loaded? (base : Theme.Base) : Event → Option Theme.Resolved
  | theme content source => (Theme.Resolved.ofText base content source).toOption
  | themeFile file => (Theme.Resolved.ofFile base file).toOption
  | _ => none

/-- The theme that an event brings over a base: one that it loads, and that has an encoding. -/
def theme? (base : Theme.Base) (e : Event) : Option Theme.Resolved :=
  (e.loaded? base).filter (!·.hasHalves)

theorem loaded?_of_theme? {base : Theme.Base} {e : Event} {theme : Theme.Resolved}
    (resolved : e.theme? base = some theme) : e.loaded? base = some theme :=
  (Option.filter_eq_some_iff.mp resolved).1

theorem document?_of_loaded? {base : Theme.Base} {e : Event} {theme : Theme.Resolved}
    (loaded : e.loaded? base = some theme) : e.document? = none := by
  cases e with
  | document source => cases loaded
  | theme content source => rfl
  | themeFile file => rfl
  | message m => rfl
  | devTools => rfl

end Event

/-- What the host itself does to a session: a new source or theme, or the developer tools. -/
inductive Call where
  | document (source : Source)
  | theme (content : Option String) (source : String)
  | themeFile (file : Option (Theme.Content × String))
  | devTools
deriving DecidableEq

/-- The event that a call is. -/
def Call.event : Call → Event
  | document source => .document source
  | theme content source => .theme content source
  | themeFile file => .themeFile file
  | devTools => .devTools

theorem Call.event_ne_message (call : Call) (m : SurfaceMessage) : call.event ≠ .message m := by
  cases call <;> exact nofun

namespace Session

/-! ## Steps -/

/-- A session after a call that may break off, with the messages it sends. -/
def settle (s : Session) {ε α : Type} : Except ε (Reaction α) → Session × List HostMessage
  | .ok reaction => (reaction.session, reaction.sent)
  | .error _ => (s, [])

/-- A session after an event, with the messages it sends. -/
def step (s : Session) : Event → Session × List HostMessage
  | .document source => s.settle (s.documentChanged source)
  | .theme content source =>
    ((s.themeChanged content source).session, (s.themeChanged content source).sent)
  | .themeFile file => ((s.themeFileChanged file).session, (s.themeFileChanged file).sent)
  | .message m => s.settle (s.handle m)
  | .devTools => (s.openDevTools.session, s.openDevTools.sent)

/-- A session after several events. -/
def run (s : Session) (events : List Event) : Session := events.foldl (fun s e => (s.step e).1) s

/-- Whether a session refuses to export: it has nowhere to write to, or nothing to write. -/
def Refuses (s : Session) : Prop := s.exportTarget = none ∨ s.slot.good = none

instance (s : Session) : Decidable s.Refuses :=
  inferInstanceAs (Decidable (s.exportTarget = none ∨ s.slot.good = none))

/-- What an event does to a session, and what is sent. -/
inductive Change (s : Session) : Event → Session → List HostMessage → Prop where
  /-- A source of a document is rendered. -/
  | rendered {source : Source} {d : Document} (parsed : Document.renderable source = .ok d) :
    Change s (.document source)
      { s with
        pipeline := (s.pipeline.renderDocument d).2
        slot := ⟨some (s.pipeline.renderDocument d).1, none⟩ }
      [(s.pipeline.renderDocument d).1.toMessage]
  /-- A source of no document is a failure. -/
  | failed {source : Source} (failure : SourceFailure)
    (unparsed : (Event.document source).document? = none) :
    Change s (.document source) { s with slot := ⟨s.slot.good, some failure⟩ } [failure.toMessage]
  /-- A theme comes into force while there is no good document. -/
  | themed {e : Event} {theme : Theme.Resolved} (resolved : e.theme? s.pipeline.base = some theme)
    (missing : s.slot.good = none) :
    Change s e { s with pipeline := s.pipeline.setTheme theme } [.themeVariables theme.styleSheet]
  /-- A theme comes into force and the good document is rendered under it. -/
  | rerendered {e : Event} {theme : Theme.Resolved} {good : Rendered}
    (resolved : e.theme? s.pipeline.base = some theme) (present : s.slot.good = some good) :
    Change s e
      { s with
        pipeline := ((s.pipeline.setTheme theme).renderDocument good.document).2
        slot := ⟨some ((s.pipeline.setTheme theme).renderDocument good.document).1,
          s.slot.failed⟩ }
      (((s.pipeline.setTheme theme).renderDocument good.document).1.toMessage ::
        s.slot.failed.toList.map SourceFailure.toMessage)
  /-- A theme without an encoding is halfway in force. -/
  | halfway {e : Event} {theme : Theme.Resolved} (loaded : e.loaded? s.pipeline.base = some theme)
    (halved : theme.hasHalves = true) :
    Change s e { s with pipeline := { s.pipeline with theme := theme } } []
  /-- A surface is told the present state. -/
  | answered : Change s (.message .ready) s s.snapshot
  /-- A surface is told that there is no export. -/
  | refused (text : String) (refuses : s.Refuses) :
    Change s (.message .exportRequest) s [.error text]
  | opened : Change s .devTools s [.openDevTools]
  /-- An export is written, or a call breaks off: nothing changes and nothing is sent. -/
  | still {e : Event} (unparsed : e.document? = none)
    (unloaded : e.loaded? s.pipeline.base = none) : Change s e s []

theorem change_refreshTheme {s : Session} {e : Event} {theme : Theme.Resolved}
    (resolved : e.theme? s.pipeline.base = some theme) :
    Change s e { s with pipeline := s.pipeline.setTheme theme }.refreshTheme.session
      { s with pipeline := s.pipeline.setTheme theme }.refreshTheme.sent := by
  unfold refreshTheme
  cases present : s.slot.good with
  | none => exact .themed resolved present
  | some good => exact .rerendered resolved present

theorem change_themeLoaded {s : Session} {e : Event} (unparsed : e.document? = none)
    {result : Except Theme.Breakdown Theme.Resolved}
    (loads : e.loaded? s.pipeline.base = result.toOption) :
    Change s e (s.themeLoaded (s.pipeline.takeTheme result)).session
      (s.themeLoaded (s.pipeline.takeTheme result)).sent := by
  cases result with
  | error cause => exact .still unparsed loads
  | ok theme =>
      rw [Pipeline.takeTheme]
      split
      · exact .halfway loads ‹_›
      · rename_i whole
        exact change_refreshTheme (Option.filter_eq_some_iff.mpr ⟨loads, by simpa using whole⟩)

theorem change_document (s : Session) (source : Source) :
    Change s (.document source) (s.step (.document source)).1 (s.step (.document source)).2 := by
  simp only [step, documentChanged, Pipeline.run]
  cases parsed : Document.renderable source with
  | ok d => exact .rendered parsed
  | error fault =>
      have unparsed : (Event.document source).document? = none := by
        rw [Event.document?, parsed]
        rfl
      cases fault with
      | malformed m => exact .failed (.malformed m) unparsed
      | schema fault => exact .failed (.schema fault) unparsed
      | scalar fault => exact .still unparsed rfl

theorem change_handle (s : Session) (m : SurfaceMessage) :
    Change s (.message m) (s.step (.message m)).1 (s.step (.message m)).2 := by
  cases m with
  | ready => exact .answered
  | exportRequest =>
      have still : Change s (.message .exportRequest) s [] := .still rfl rfl
      simp only [step, handle, exportRequested]
      cases target : s.exportTarget with
      | none => exact .refused _ (.inl target)
      | some target =>
          simp only [build, Slot.exportText]
          cases present : s.slot.good with
          | none => exact .refused _ (.inr present)
          | some r =>
              dsimp only
              cases Export.build s.exportFormat r.fragment.markup r.styleSheet
                  (titleOf r.document s.exportTitle) with
              | ok text => exact still
              | error fault => exact still

/-- **What a step does.** Every event changes a session, and makes it send messages, in one of the
ways listed. -/
theorem change_step (s : Session) (e : Event) : Change s e (s.step e).1 (s.step e).2 := by
  cases e with
  | document source => exact s.change_document source
  | theme content source => exact change_themeLoaded rfl rfl
  | themeFile file => exact change_themeLoaded rfl rfl
  | message m => exact s.change_handle m
  | devTools => exact .opened

/-- What every event of a history preserves is preserved by the history. -/
theorem run_preserves {P : Session → Prop} {s : Session} {events : List Event}
    (preserves : ∀ t, ∀ e ∈ events, P t → P (step t e).1) (holds : P s) : P (s.run events) := by
  induction events generalizing s with
  | nil => exact holds
  | cons e events ih =>
      have first := preserves s e List.mem_cons_self holds
      exact ih (fun t f inside => preserves t f (List.mem_cons_of_mem e inside)) first

/-! ## The style sheet of the good document -/

/-- The good document was rendered under the style sheet in force. -/
def Current (s : Session) : Prop := ∀ r ∈ s.slot.good, r.styleSheet = s.pipeline.styleSheet

theorem current_start (p : Pipeline) (target : Option FilePath) (title : String)
    (format : Export.Format) : (start p target title format).Current := by
  intro r present
  cases present

/-- Every event leaves the good document rendered under the style sheet in force. -/
theorem Change.current {s t : Session} {e : Event} {sent : List HostMessage}
    (change : Change s e t sent) (current : s.Current) : t.Current := by
  intro r present
  cases change with
  | rendered parsed =>
      obtain rfl := Option.some.inj present
      rfl
  | failed failure unparsed => exact current r present
  | themed resolved missing =>
      rw [Option.mem_def, missing] at present
      cases present
  | rerendered resolved good =>
      obtain rfl := Option.some.inj present
      rfl
  | halfway loaded halved => exact current r present
  | answered => exact current r present
  | refused text refuses => exact current r present
  | opened => exact current r present
  | still unparsed unloaded => exact current r present

theorem current_run {s : Session} (current : s.Current) (events : List Event) :
    (s.run events).Current :=
  run_preserves (fun t e _ => (t.change_step e).current) current

end Session

end Wireframe.Preview
