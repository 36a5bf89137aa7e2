import Wireframe.Proofs.Preview.Mirror

/-! # Requests for the present state

A surface that has loaded asks for the present state of its session. The state is that of
the moment of asking, told in one or two messages which are sent one by one, and meanwhile
other things go on: other requests, and calls of the host, each of which sends at once what
it has to say.

A call that comes while replies are still to be sent is undone on the screen by the replies
behind it (`Wireframe.Preview.Exchange.stale_reply`). As long as no call comes then, however
the replies to several requests are mixed, a surface shows its session as soon as all have
been sent (`Wireframe.Preview.Exchange.shows_of_undisturbed`).
-/

namespace Wireframe.Preview

/-- A session and its surface, to which messages go in the order of sending, and for each request so
far the replies that are still to be sent. -/
structure Exchange where
  session : Session
  surface : Surface
  pending : List (List HostMessage)

namespace Exchange

/-- What happens at a time. -/
inductive Action where
  | call (call : Call)
  /-- A request is taken, and its replies are determined. -/
  | ask
  /-- The next reply to the request with a number is sent, if there is one. -/
  | reply (number : Nat)
deriving DecidableEq

/-- An exchange after an action. -/
def act (x : Exchange) : Action → Exchange
  | .call call =>
    let (session, sent) := x.session.step call.event
    ⟨session, x.surface.applyAll sent, x.pending⟩
  | .ask => { x with pending := x.pending ++ [x.session.snapshot] }
  | .reply number =>
    match x.pending[number]? with
    | some (m :: rest) =>
      { x with surface := x.surface.apply m, pending := x.pending.set number rest }
    | _ => x

/-- An exchange after several actions. -/
def run (x : Exchange) (schedule : List Action) : Exchange := schedule.foldl act x

/-- A surface has loaded, and its request for the present state has been taken. -/
def opening (s : Session) : Exchange := ⟨s, Surface.fresh.load.1, [s.snapshot]⟩

/-- No request is half done. -/
def Settled (x : Exchange) : Prop := ∀ replies ∈ x.pending, replies = []

instance (x : Exchange) : Decidable x.Settled :=
  inferInstanceAs (Decidable (∀ replies ∈ x.pending, replies = []))

/-- Whether an action is a call of the host. -/
def Action.isCall : Action → Bool
  | call _ => true
  | _ => false

/-- No call comes while a request is half done. -/
def Undisturbed : Exchange → List Action → Prop
  | _, [] => True
  | x, action :: schedule =>
    (action.isCall = true → x.Settled) ∧ Undisturbed (x.act action) schedule

/-- Whether a schedule is undisturbed is decided by running it. -/
def decideUndisturbed : (x : Exchange) → (schedule : List Action) →
    Decidable (x.Undisturbed schedule)
  | _, [] => .isTrue trivial
  | x, action :: schedule =>
    have := decideUndisturbed (x.act action) schedule
    inferInstanceAs
      (Decidable ((action.isCall = true → x.Settled) ∧ Undisturbed (x.act action) schedule))

instance (x : Exchange) (schedule : List Action) : Decidable (x.Undisturbed schedule) :=
  x.decideUndisturbed schedule

end Exchange

/-! ## The messages of the present state -/

namespace Session

/-- The message that announces a failure of the last source again, if there is one. -/
def failures (s : Session) : List HostMessage := s.slot.failed.toList.map SourceFailure.toMessage

/-- The screen that a session means to show, without the banner. -/
def cleared (s : Session) : Screen := { s.screen with banner := none }

theorem snapshot_eq_cons (s : Session) : ∃ first, s.snapshot = first :: s.failures := ⟨_, rfl⟩

theorem failures_of_suffix {s : Session} {m : HostMessage} {rest : List HostMessage}
    (suffix : m :: rest <:+ s.failures) : s.failures = [m] ∧ rest = [] := by
  unfold failures at suffix ⊢
  cases failed : s.slot.failed with
  | none => simp [failed] at suffix
  | some failure =>
      rw [failed] at suffix
      rcases List.suffix_cons_iff.mp suffix with same | inside
      · obtain ⟨rfl, rfl⟩ := List.cons.inj same
        exact ⟨rfl, rfl⟩
      · cases List.suffix_nil.mp inside

theorem applyAll_failures (s : Session) : s.cleared.applyAll s.failures = s.screen :=
  applyAll_failed s.cleared s.slot.failed rfl

theorem cleared_of_failures {s : Session} (failures : s.failures = []) : s.cleared = s.screen := by
  have up := s.applyAll_failures
  rw [failures] at up
  exact up

theorem applyAll_failures_screen (s : Session) : s.screen.applyAll s.failures = s.screen := by
  rw [← s.applyAll_failures]
  exact Screen.applyAll_applyAll _ s.failures

/-- What the first message of the present state does to a blank screen, to the screen of the session
without the banner, and to the screen of the session. -/
theorem apply_first {s : Session} (current : s.Current) {first : HostMessage}
    (told : s.snapshot = first :: s.failures) :
    (⟨"", "", none⟩ : Screen).apply first = s.cleared ∧ s.cleared.apply first = s.cleared ∧
      (s.screen.apply first = s.cleared ∨ s.screen.apply first = s.screen) := by
  have head := (List.cons.inj told).1
  cases present : s.slot.good with
  | some good =>
      have same := current good present
      simp only [present] at head
      subst head
      unfold cleared screen
      rw [present, ← same]
      exact ⟨rfl, rfl, .inl rfl⟩
  | none =>
      simp only [present] at head
      subst head
      unfold cleared screen
      rw [present]
      exact ⟨rfl, rfl, .inr rfl⟩

end Session

/-! ## Undisturbed exchanges -/

namespace Exchange

/-- What is on a screen while replies are still to be sent. -/
inductive Shows (s : Session) (screen : Screen) (pending : List (List HostMessage)) : Prop where
  /-- Nothing has been sent, and some request has been taken. -/
  | blank (untold : screen = ⟨"", "", none⟩) (whole : ∀ replies ∈ pending, replies = s.snapshot)
    (asked : pending ≠ [])
  /-- An update has been sent, and the failure behind it has not. -/
  | cleared (hidden : screen = s.cleared) (behind : s.failures ∈ pending)
  | shown (same : screen = s.screen)

/-- An exchange in which what is still to be sent is told of the present session. -/
structure Faithful (x : Exchange) : Prop where
  current : x.session.Current
  taken : ∀ replies ∈ x.pending, replies <:+ x.session.snapshot
  shows : Shows x.session x.surface.screen x.pending

variable {x : Exchange}

theorem faithful_opening {s : Session} (current : s.Current) : (opening s).Faithful where
  current := current
  taken := by
    intro replies member
    obtain rfl := List.mem_singleton.mp member
    exact List.suffix_rfl
  shows := .blank rfl (fun _ member => List.mem_singleton.mp member) nofun

/-- With all replies sent, a faithful exchange shows its session. -/
theorem Faithful.screen_of_settled (faithful : x.Faithful) (settled : x.Settled) :
    x.surface.screen = x.session.screen := by
  cases faithful.shows with
  | blank untold whole asked =>
      obtain ⟨replies, member⟩ := List.exists_mem_of_ne_nil _ asked
      cases (whole replies member).symm.trans (settled replies member)
  | cleared hidden behind => rw [hidden, Session.cleared_of_failures (settled _ behind)]
  | shown same => exact same

theorem Faithful.call (faithful : x.Faithful) (settled : x.Settled) (call : Call) :
    (x.act (.call call)).Faithful := by
  have change := x.session.change_step call.event
  refine ⟨change.current faithful.current, ?_, .shown ?_⟩
  · intro replies member
    rw [settled replies member]
    exact List.nil_suffix
  · have same := faithful.screen_of_settled settled
    rw [act, Surface.screen_applyAll, same]
    exact change.screen faithful.current fun message =>
      absurd message (call.event_ne_message .exportRequest)

theorem Faithful.ask (faithful : x.Faithful) : (x.act .ask).Faithful where
  current := faithful.current
  taken := by
    intro replies member
    rcases List.mem_append.mp member with earlier | now
    · exact faithful.taken replies earlier
    · obtain rfl := List.mem_singleton.mp now
      exact List.suffix_rfl
  shows := by
    cases faithful.shows with
    | blank untold whole asked =>
        refine .blank untold ?_ (by simp [act])
        intro replies member
        rcases List.mem_append.mp member with earlier | now
        · exact whole replies earlier
        · exact List.mem_singleton.mp now
    | cleared hidden behind => exact .cleared hidden (List.mem_append_left _ behind)
    | shown same => exact .shown same

/-- A reply leaves a screen of the session, or one that lacks a banner that is still to come. -/
theorem Shows.reply {s : Session} {screen : Screen} {pending : List (List HostMessage)}
    {number : Nat} {m : HostMessage} {rest : List HostMessage} (current : s.Current)
    (shows : Shows s screen pending) (found : pending[number]? = some (m :: rest))
    (taken : m :: rest <:+ s.snapshot) : Shows s (screen.apply m) (pending.set number rest) := by
  obtain ⟨inRange, held⟩ := List.getElem?_eq_some_iff.mp found
  have member : m :: rest ∈ pending := held ▸ List.getElem_mem inRange
  obtain ⟨first, told⟩ := s.snapshot_eq_cons
  rw [told] at taken
  rcases List.suffix_cons_iff.mp taken with whole | behind
  · -- The first reply to this request: the banner is still to come from the same request.
    obtain ⟨rfl, rfl⟩ := List.cons.inj whole
    have coming : s.failures ∈ pending.set number s.failures := List.mem_set inRange _
    obtain ⟨fromBlank, fromCleared, fromScreen⟩ := Session.apply_first current told
    cases shows with
    | blank untold _ _ => exact .cleared (untold ▸ fromBlank) coming
    | cleared hidden _ => exact .cleared (hidden ▸ fromCleared) coming
    | shown same =>
        rcases fromScreen with down | kept
        · exact .cleared (same ▸ down) coming
        · exact .shown (same ▸ kept)
  · -- The second reply: it puts up the banner, whether that was there or not.
    obtain ⟨failures, rfl⟩ := Session.failures_of_suffix behind
    cases shows with
    | blank _ whole _ =>
        have long := whole _ member
        rw [told, failures] at long
        cases long
    | cleared hidden _ =>
        have up := s.applyAll_failures
        rw [failures, ← hidden] at up
        exact .shown up
    | shown same =>
        have kept := s.applyAll_failures_screen
        rw [failures, ← same] at kept
        exact .shown (kept.trans same)

theorem Faithful.reply (faithful : x.Faithful) (number : Nat) :
    (x.act (.reply number)).Faithful := by
  unfold act
  dsimp only
  split
  · rename_i m rest found
    have taken := faithful.taken _ (List.mem_of_getElem? found)
    refine ⟨faithful.current, ?_, ?_⟩
    · intro replies member
      rcases List.mem_or_eq_of_mem_set member with earlier | rfl
      · exact faithful.taken replies earlier
      · exact (List.suffix_cons m replies).trans taken
    · dsimp only
      rw [Surface.screen_apply]
      exact faithful.shows.reply faithful.current found taken
  · exact faithful

theorem Faithful.run (faithful : x.Faithful) {schedule : List Action}
    (undisturbed : x.Undisturbed schedule) : (x.run schedule).Faithful := by
  induction schedule generalizing x with
  | nil => exact faithful
  | cons action schedule ih =>
      obtain ⟨here, later⟩ := undisturbed
      refine ih ?_ later
      cases action with
      | call call => exact faithful.call (here rfl) call
      | ask => exact faithful.ask
      | reply number => exact faithful.reply number

/-- **No request is half done.** Whatever requests are taken and however their replies are mixed, a
surface that has applied all messages in the order of sending shows the session whenever no request
is half done: the markup of the good document, the style sheet in force, and the banner of the last
failure. Calls of the host may come at any time but when a request is half done. -/
theorem shows_of_undisturbed (p : Pipeline) (target : Option FilePath) (title : String)
    (format : Export.Format) (before : List Event) (schedule : List Action)
    (undisturbed :
      (opening ((Session.start p target title format).run before)).Undisturbed schedule) :
    let x := (opening ((Session.start p target title format).run before)).run schedule
    x.Settled →
    x.surface.fragment = (x.session.slot.good.map fun r => r.fragment.markup).getD "" ∧
      x.surface.cssVariables = x.session.pipeline.styleSheet ∧
      x.surface.banner = x.session.slot.failed.bind fun failure => failure.toMessage.banner? := by
  intro x settled
  have current := Session.current_run (Session.current_start p target title format) before
  have same := ((faithful_opening current).run undisturbed).screen_of_settled settled
  exact ⟨congrArg Screen.fragment same, congrArg Screen.cssVariables same,
    congrArg Screen.banner same⟩

/-- A source that is no document, two requests whose replies are mixed, and a document after them. -/
theorem shows_of_undisturbed_two_requests :
    let p := Pipeline.start .builtin 32
    let schedule : List Action := [.ask, .reply 0, .reply 1, .reply 1, .reply 0,
      .call (.document (.text "page: \x7b\x7d"))]
    let start := opening ((Session.start p none "Preview" .html).run [.document (.text "")])
    let x := start.run schedule
    (start.Undisturbed schedule ∧ x.Settled) ∧
      x.surface.fragment = (x.session.slot.good.map fun r => r.fragment.markup).getD "" ∧
      x.surface.cssVariables = x.session.pipeline.styleSheet ∧
      x.surface.banner = x.session.slot.failed.bind fun failure => failure.toMessage.banner? :=
  have calm :
      let start := opening
        ((Session.start (Pipeline.start .builtin 32) none "Preview" .html).run
          [.document (.text "")])
      let schedule : List Action := [.ask, .reply 0, .reply 1, .reply 1, .reply 0,
        .call (.document (.text "page: \x7b\x7d"))]
      start.Undisturbed schedule ∧ (start.run schedule).Settled := by
    decide +kernel
  ⟨calm, shows_of_undisturbed _ none "Preview" .html _ _ calm.1 calm.2⟩

/-! ## A reply that comes too late -/

/-- Without regard to calls that come while a request is half done, a surface need not show its
session: the banner of a source that is no document goes up again over the document that has taken
its place, and stays. -/
theorem stale_reply :
    ¬ ∀ (p : Pipeline) (target : Option FilePath) (title : String) (format : Export.Format)
        (before : List Event) (schedule : List Action),
      let x := (opening ((Session.start p target title format).run before)).run schedule
      x.Settled →
        x.surface.fragment = (x.session.slot.good.map fun r => r.fragment.markup).getD "" ∧
          x.surface.cssVariables = x.session.pipeline.styleSheet ∧
          x.surface.banner =
            x.session.slot.failed.bind fun failure => failure.toMessage.banner? := by
  intro claim
  have shown := claim (Pipeline.start .builtin 32) none "Preview" .html [.document (.text "")]
    [.reply 0, .call (.document (.text "page: \x7b\x7d")), .reply 0] (by decide +kernel)
  exact absurd shown.2.2 (by decide +kernel)

end Exchange

end Wireframe.Preview
