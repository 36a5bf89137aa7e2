import Wireframe.Proofs.Preview.Hub
import Wireframe.Proofs.Preview.Mirror

/-! # Surfaces that come late

A surface that comes while a session is under way registers with the hub first and is told
the present state later. What is broadcast in between reaches it twice: the state that it is
told has it already, and it waits in the queue as well. So messages are applied to a state
that is newer than they are.

That does no harm, since messages that have led to a screen change nothing when the last of
them come again. Whenever a session has nothing left to send and the queue is empty, the
surface shows what a surface shows that has been there from the start
(`Wireframe.Preview.Gathering.shows_from_start`).
-/

namespace Wireframe.Preview

/-- A surface that has been told the present state. It goes by a number; it registered when
`joined` messages had been broadcast and was told when `covered` had. -/
structure Visit where
  number : Nat
  joined : Nat
  covered : Nat
  /-- The surface when it had been told. -/
  told : Surface
  /-- What it has taken from its queue and applied since then. -/
  taken : List HostMessage

/-- The surface of a visit. -/
def Visit.surface (visit : Visit) : Surface := visit.told.applyAll visit.taken

/-- A surface that comes late. -/
inductive Latecomer where
  | away
  | registered (number joined : Nat)
  | visiting (visit : Visit)

/-- The visit of a latecomer, once it has been told the present state. -/
def Latecomer.visit? : Latecomer → Option Visit
  | visiting visit => some visit
  | _ => none

/-- A session, what it has still to send and has sent since the start, the hub that passes this on,
and a surface that comes late. -/
structure Gathering where
  session : Session
  unsent : List HostMessage
  log : List HostMessage
  hub : Hub
  latecomer : Latecomer

namespace Gathering

/-- What happens at a time. What is not possible at the time changes nothing. -/
inductive Action where
  /-- A call changes the session, once all messages of the call before it have been sent. -/
  | call (call : Call)
  /-- The next message of a call is broadcast. -/
  | send
  | register
  /-- The latecomer is told the present state, which no call may be changing at the time. -/
  | tell
  /-- The latecomer takes the next message from its queue and applies it. -/
  | take (m : HostMessage)
deriving DecidableEq

/-- A gathering after an action. -/
def act (x : Gathering) : Action → Gathering
  | .call call =>
    match x.unsent with
    | [] =>
      let (session, sent) := x.session.step call.event
      { x with session := session, unsent := sent }
    | _ :: _ => x
  | .send =>
    match x.unsent with
    | [] => x
    | m :: rest => { x with unsent := rest, log := x.log ++ [m], hub := x.hub.broadcast m }
  | .register =>
    match x.latecomer with
    | .away =>
      let (number, hub) := x.hub.register
      { x with hub := hub, latecomer := .registered number x.log.length }
    | _ => x
  | .tell =>
    match x.unsent, x.latecomer with
    | [], .registered number joined =>
      let told := Surface.fresh.applyAll x.session.snapshot
      { x with latecomer := .visiting ⟨number, joined, x.log.length, told, []⟩ }
    | _, _ => x
  | .take m =>
    match x.latecomer with
    | .visiting visit =>
      if (x.hub.next visit.number).1 = some m.encode then
        { x with
          hub := (x.hub.next visit.number).2
          latecomer := .visiting { visit with taken := visit.taken ++ [m] } }
      else x
    | _ => x

/-- A gathering after several actions. -/
def run (x : Gathering) (schedule : List Action) : Gathering := schedule.foldl act x

/-- A session from which on messages are counted, with the hub that others may have joined. -/
def start (s : Session) (hub : Hub) : Gathering := ⟨s, [], [], hub, .away⟩

/-! ## What is kept -/

/-- What is known of a latecomer: what it has taken and what still waits for it are the messages
broadcast since it registered, and what it was told is what the messages until then led to. -/
def Keeps (screen : Screen) (log : List HostMessage) (hub : Hub) : Latecomer → Prop
  | .away => True
  | .registered number joined => joined ≤ log.length ∧ hub.Holds number (log.drop joined)
  | .visiting visit =>
    visit.joined ≤ visit.covered ∧ visit.covered ≤ log.length ∧
      (∃ rest, hub.Holds visit.number rest ∧ visit.taken ++ rest = log.drop visit.joined) ∧
      visit.told.screen = screen.applyAll (log.take visit.covered)

/-- A gathering that has come from a session: the messages sent and to be sent lead from the screen
of that session to the present one. -/
structure Follows (s : Session) (x : Gathering) : Prop where
  current : x.session.Current
  leads : s.screen.applyAll (x.log ++ x.unsent) = x.session.screen
  keeps : Keeps s.screen x.log x.hub x.latecomer

variable {s : Session} {x : Gathering}

theorem follows_start (current : s.Current) (hub : Hub) : Follows s (start s hub) :=
  ⟨current, rfl, trivial⟩

theorem Follows.call (follows : Follows s x) (call : Call) : Follows s (x.act (.call call)) := by
  unfold act
  dsimp only
  split
  · rename_i idle
    have change := x.session.change_step call.event
    refine ⟨change.current follows.current, ?_, follows.keeps⟩
    have leads := follows.leads
    rw [idle, List.append_nil] at leads
    rw [Screen.applyAll_append, leads]
    exact change.screen follows.current fun message =>
      absurd message (call.event_ne_message .exportRequest)
  · exact follows

/-- A message that is broadcast waits for a latecomer behind all others. -/
theorem Keeps.send {screen : Screen} {log : List HostMessage} {hub : Hub} {latecomer : Latecomer}
    (keeps : Keeps screen log hub latecomer) (m : HostMessage) :
    Keeps screen (log ++ [m]) (hub.broadcast m) latecomer := by
  have longer : log.length ≤ (log ++ [m]).length := by simp
  cases latecomer with
  | away => trivial
  | registered number joined =>
      obtain ⟨within, holds⟩ := keeps
      refine ⟨by omega, ?_⟩
      rw [List.drop_append_of_le_length within]
      exact holds.broadcast m
  | visiting visit =>
      obtain ⟨before, within, ⟨rest, holds, same⟩, shown⟩ := keeps
      have early : visit.joined ≤ log.length := by omega
      refine ⟨before, by omega, ⟨rest ++ [m], holds.broadcast m, ?_⟩, ?_⟩
      · rw [List.drop_append_of_le_length early, ← same, List.append_assoc]
      · rw [List.take_append_of_le_length within]
        exact shown

theorem Follows.send (follows : Follows s x) : Follows s (x.act .send) := by
  unfold act
  dsimp only
  split
  · exact follows
  · rename_i m rest next
    refine ⟨follows.current, ?_, follows.keeps.send m⟩
    rw [List.append_assoc, List.singleton_append, ← next]
    exact follows.leads

theorem Follows.register (follows : Follows s x) : Follows s (x.act .register) := by
  unfold act
  dsimp only
  split
  · refine ⟨follows.current, follows.leads, Nat.le_refl _, ?_⟩
    rw [List.drop_length]
    exact x.hub.holds_register
  · exact follows

theorem Follows.tell (follows : Follows s x) : Follows s (x.act .tell) := by
  unfold act
  dsimp only
  split
  · rename_i number joined idle registered
    obtain ⟨within, holds⟩ := registered ▸ follows.keeps
    refine ⟨follows.current, follows.leads, within, Nat.le_refl _, ⟨_, holds, rfl⟩, ?_⟩
    have leads := follows.leads
    rw [idle, List.append_nil] at leads
    rw [Surface.screen_applyAll, List.take_length, leads]
    exact Session.applyAll_snapshot_load follows.current
  · exact follows

theorem Follows.take (follows : Follows s x) (m : HostMessage) :
    Follows s (x.act (.take m)) := by
  unfold act
  dsimp only
  split
  · rename_i visit visiting
    split
    · rename_i head
      obtain ⟨before, within, ⟨rest, holds, same⟩, shown⟩ := visiting ▸ follows.keeps
      cases rest with
      | nil =>
          have none : (x.hub.next visit.number).1 = none := congrArg List.head? holds.waiting
          cases none.symm.trans head
      | cons first rest =>
          obtain ⟨front, holds⟩ := holds.next
          obtain rfl := HostMessage.encode_inj (Option.some.inj (front.symm.trans head))
          refine ⟨follows.current, follows.leads, before, within, ⟨rest, holds, ?_⟩, shown⟩
          rw [List.append_assoc]
          exact same
    · exact follows
  · exact follows

/-- **What an action keeps.** -/
theorem Follows.act (follows : Follows s x) (action : Action) : Follows s (x.act action) := by
  cases action with
  | call call => exact follows.call call
  | send => exact follows.send
  | register => exact follows.register
  | tell => exact follows.tell
  | take m => exact follows.take m

theorem Follows.run (follows : Follows s x) (schedule : List Action) :
    Follows s (x.run schedule) := by
  induction schedule generalizing x with
  | nil => exact follows
  | cons action schedule ih => exact ih (follows.act action)

/-! ## What a latecomer shows -/

/-- What is broadcast before a latecomer is told and waits for it nonetheless changes nothing. -/
theorem screen_replay {log : List HostMessage} {visit : Visit} {screen : Screen}
    (shown : visit.told.screen = screen.applyAll (log.take visit.covered)) :
    (visit.told.applyAll ((log.take visit.covered).drop visit.joined)).screen =
      visit.told.screen := by
  rw [Surface.screen_applyAll, shown]
  exact screen.applyAll_suffix (List.drop_suffix ..)

/-- A latecomer that has taken all messages since it registered shows what all messages since the
start lead to. -/
theorem screen_drained {log : List HostMessage} {visit : Visit} {screen : Screen}
    (before : visit.joined ≤ visit.covered) (within : visit.covered ≤ log.length)
    (shown : visit.told.screen = screen.applyAll (log.take visit.covered))
    (all : visit.taken = log.drop visit.joined) :
    visit.surface.screen = screen.applyAll log := by
  -- Of the messages in the queue, the state that was told has the first ones already.
  have parts : log.drop visit.joined =
      (log.take visit.covered).drop visit.joined ++ log.drop visit.covered := by
    have early : visit.joined ≤ (log.take visit.covered).length := by
      rw [List.length_take]
      omega
    rw [← List.drop_append_of_le_length early, List.take_append_drop]
  have replay := screen_replay shown
  rw [Surface.screen_applyAll] at replay
  calc visit.surface.screen = visit.told.screen.applyAll (log.drop visit.joined) := by
        rw [Visit.surface, Surface.screen_applyAll, all]
    _ = visit.told.screen.applyAll (log.drop visit.covered) := by
        rw [parts, Screen.applyAll_append, replay]
    _ = screen.applyAll log := by
        rw [shown, ← Screen.applyAll_append, List.take_append_drop]

/-- **Latecomers catch up.** Whatever has happened to a session, and whatever it is called for then:
wherever among the single broadcasts a surface registers, and wherever it is told the present state
later, nothing that is broadcast after it has registered is lost; what it had been told already
changes nothing when it comes again; and with nothing left to send and nothing in its queue, it has
the markup, the style sheet and the banner of a loaded surface that was connected from the start. -/
theorem shows_from_start (p : Pipeline) (target : Option FilePath) (title : String)
    (format : Export.Format) (before : List Event) (hub : Hub) (schedule : List Action) :
    let s := (Session.start p target title format).run before
    let x := (start s hub).run schedule
    ∀ visit ∈ x.latecomer.visit?,
      (∃ rest, x.hub.waiting visit.number = rest.map HostMessage.encode ∧
        visit.taken ++ rest = x.log.drop visit.joined) ∧
      (visit.told.applyAll ((x.log.take visit.covered).drop visit.joined)).screen =
        visit.told.screen ∧
      (x.unsent = [] → x.hub.waiting visit.number = [] →
        visit.surface.screen = ((Live.connect s).surface.applyAll x.log).screen) := by
  intro s x visit visiting
  have current : s.Current :=
    Session.current_run (Session.current_start p target title format) before
  have follows : Follows s x := (follows_start current hub).run schedule
  have here : x.latecomer = .visiting visit := by
    cases latecomer : x.latecomer with
    | visiting other =>
        rw [latecomer] at visiting
        exact congrArg Latecomer.visiting (Option.some.inj visiting)
    | _ =>
        rw [latecomer] at visiting
        cases visiting
  obtain ⟨early, within, ⟨rest, holds, same⟩, shown⟩ := here ▸ follows.keeps
  refine ⟨⟨rest, holds.waiting, same⟩, screen_replay shown, ?_⟩
  intro idle drained
  have none : rest = [] := List.map_eq_nil_iff.mp (holds.waiting.symm.trans drained)
  rw [none, List.append_nil] at same
  rw [screen_drained early within shown same, Surface.screen_applyAll,
    Live.screen_connect current]

/-- A surface that registers between two broadcasts and is told the present state after the second of
them, which waits for it as well. -/
theorem shows_from_start_between :
    let s := (Session.start (Pipeline.start .builtin 0) none "Preview" .html).run
      [.document (.text "page: \x7b\x7d")]
    let x := (start s Hub.empty).run
      [.call (.theme none "theme"), .send, .call .devTools, .register, .send, .tell,
        .take .openDevTools]
    ∃ visit ∈ x.latecomer.visit?,
      (visit.joined = 1 ∧ visit.covered = 2 ∧ x.unsent = [] ∧ x.hub.waiting visit.number = []) ∧
      (∃ rest, x.hub.waiting visit.number = rest.map HostMessage.encode ∧
        visit.taken ++ rest = x.log.drop visit.joined) ∧
      (visit.told.applyAll ((x.log.take visit.covered).drop visit.joined)).screen =
        visit.told.screen ∧
      visit.surface.screen = ((Live.connect s).surface.applyAll x.log).screen := by
  intro s x
  have facts : (x.latecomer.visit?.map fun visit =>
      (visit.joined, visit.covered, x.unsent, x.hub.waiting visit.number)) =
        some (1, 2, [], []) := by
    decide +kernel
  obtain ⟨visit, visiting, same⟩ := Option.map_eq_some_iff.mp facts
  obtain ⟨joined, covered, idle, drained⟩ : visit.joined = 1 ∧ visit.covered = 2 ∧
      x.unsent = [] ∧ x.hub.waiting visit.number = [] := by
    simpa only [Prod.mk.injEq] using same
  obtain ⟨kept, replay, shows⟩ := shows_from_start (Pipeline.start .builtin 0) none "Preview" .html
    [.document (.text "page: \x7b\x7d")] Hub.empty
    [.call (.theme none "theme"), .send, .call .devTools, .register, .send, .tell,
      .take .openDevTools] visit visiting
  exact ⟨visit, visiting, ⟨joined, covered, idle, drained⟩, kept, replay, shows idle drained⟩

end Gathering

end Wireframe.Preview
