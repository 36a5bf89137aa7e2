import Mathlib.Data.List.Induction
import Wireframe.Proofs.Preview.Mirror

/-! # What a surface shows

Whatever happens to a surface, in whatever order, what it shows follows from the messages
that have reached it, and its state follows from that and from whether anything has woken
it: loading does, and so does every message that says something about a document
(`Wireframe.Preview.Surface.display_of_history`). A text that is no message leaves no trace.
-/

namespace Wireframe.Preview

namespace Surface

/-! ## Histories -/

/-- Something that happens to a surface. -/
inductive Act where
  | load
  | requestExport
  /-- A text arrives, which may be a message or not. -/
  | receive (bytes : List UInt8)
  | apply (m : HostMessage)
deriving DecidableEq

/-- The message that reaches the surface, if one does. -/
def Act.message? : Act → Option HostMessage
  | load | requestExport => none
  | receive bytes => (decodeHostMessage bytes).toOption
  | apply m => some m

/-- A surface after an act. One that breaks off leaves it as it is. -/
def act (s : Surface) : Act → Surface
  | .load => s.load.1
  | .requestExport => s.requestExport.1
  | .receive bytes => (s.receive bytes).toOption.getD s
  | .apply m => s.apply m

/-- A surface after several acts. -/
def run (s : Surface) (acts : List Act) : Surface := acts.foldl act s

/-- The messages that reach a surface in the course of some acts. -/
def received (acts : List Act) : List HostMessage := acts.filterMap Act.message?

theorem run_concat (s : Surface) (acts : List Act) (a : Act) :
    s.run (acts ++ [a]) = (s.run acts).act a := List.foldl_append ..

/-- An act without a message is that of loading, or it leaves the surface as it is. -/
theorem act_cases (s : Surface) (a : Act) :
    (∃ m, a.message? = some m ∧ s.act a = s.apply m) ∨
      a.message? = none ∧ (a = .load ∧ s.act a = s.start ∨ a ≠ .load ∧ s.act a = s) := by
  cases a with
  | load => exact .inr ⟨rfl, .inl ⟨rfl, rfl⟩⟩
  | requestExport => exact .inr ⟨rfl, .inr ⟨nofun, rfl⟩⟩
  | apply m => exact .inl ⟨m, rfl, rfl⟩
  | receive bytes =>
      rw [act, receive, Act.message?]
      cases decodeHostMessage bytes with
      | ok m => exact .inl ⟨m, rfl, rfl⟩
      | error fault => exact .inr ⟨rfl, .inr ⟨nofun, rfl⟩⟩

/-! ## The screen -/

theorem screen_act (s : Surface) (a : Act) :
    (s.act a).screen = s.screen.applyAll a.message?.toList := by
  rcases s.act_cases a with ⟨m, carries, done⟩ | ⟨carries, ⟨-, done⟩ | ⟨-, done⟩⟩
  · rw [done, carries]
    exact screen_apply s m
  · rw [done, carries]
    exact screen_start s
  · rw [done, carries]
    rfl

theorem screen_acts (s : Surface) (acts : List Act) :
    (s.run acts).screen = s.screen.applyAll (received acts) := by
  induction acts generalizing s with
  | nil => rfl
  | cons a acts ih =>
      have split : received (a :: acts) = a.message?.toList ++ received acts := by
        rw [received, List.filterMap_cons]
        cases a.message? <;> rfl
      rw [split, Screen.applyAll_append, ← screen_act]
      exact ih (s.act a)

/-! ## The state -/

/-- Whether an act wakes a surface: loading does, and so does a message that says something about a
document. -/
def Act.wakes (a : Act) : Bool := a = .load || a.message?.any fun m => m.bannerLeft?.isSome

/-- The state in which a surface rests with a banner up or not, woken or not. -/
def restingState (banner : Option Banner) (woken : Bool) : SurfaceState :=
  if banner.isSome then .error else if woken then .ready else .uninitialized

/-- A surface at rest. Only one that has been woken has a banner. -/
structure Rests (s : Surface) (woken : Bool) : Prop where
  state : s.state = restingState s.banner woken
  woken_of_banner : s.banner.isSome = true → woken = true

variable {s : Surface} {woken : Bool}

theorem Rests.ne_updating (rests : s.Rests woken) : s.state ≠ .updating := by
  rw [rests.state, restingState]
  split_ifs <;> decide

theorem state_move (s : Surface) (target : SurfaceState) : (s.move target).state = target := by
  unfold move
  split_ifs with same
  · exact same.symm
  · rfl

theorem state_start (s : Surface) :
    s.start.state = if s.state = .uninitialized then .ready else s.state := by
  unfold start
  split_ifs
  · exact state_move s .ready
  · rfl

theorem state_apply (s : Surface) (m : HostMessage) :
    (s.apply m).state =
      match m.bannerLeft? with
      | some banner => restingState banner true
      | none => s.state := by
  cases m with
  | update fragment css => exact state_move _ _
  | error message => exact state_move _ _
  | schemaError message path => exact state_move _ _
  | themeVariables css => rfl
  | openDevTools => rfl

theorem banner_apply (s : Surface) (m : HostMessage) :
    (s.apply m).banner = m.bannerLeft?.getD s.banner := by
  have shown : (s.apply m).banner = (s.screen.apply m).banner :=
    congrArg Screen.banner (screen_apply s m)
  rw [shown]
  cases m <;> rfl

theorem Rests.act (rests : s.Rests woken) (a : Act) : (s.act a).Rests (woken || a.wakes) := by
  rcases s.act_cases a with ⟨m, carries, done⟩ | ⟨carries, ⟨rfl, done⟩ | ⟨other, done⟩⟩
  · have state := state_apply s m
    have banner := banner_apply s m
    rw [done]
    cases left : m.bannerLeft? with
    | none =>
        have sleeps : a.wakes = false := by cases a <;> simp_all [Act.wakes, Act.message?]
        rw [left] at state banner
        rw [sleeps, Bool.or_false]
        constructor
        · rw [state, banner]
          exact rests.state
        · rw [banner]
          exact rests.woken_of_banner
    | some set =>
        have wakes : a.wakes = true := by simp [Act.wakes, carries, left]
        rw [left] at state banner
        rw [wakes, Bool.or_true]
        exact ⟨by rw [state, banner]; rfl, fun _ => rfl⟩
  · -- Loading gets a surface ready that has not been woken, and then it has no banner.
    have banner : s.start.banner = s.banner := congrArg Screen.banner (screen_start s)
    have state := state_start s
    rw [done]
    have wakes : Act.wakes .load = true := rfl
    rw [wakes, Bool.or_true]
    refine ⟨?_, fun _ => rfl⟩
    rw [state, banner, rests.state]
    cases up : s.banner.isSome <;> cases woken <;> simp [restingState, up]
  · have sleeps : a.wakes = false := by simp [Act.wakes, carries, other]
    rw [done, sleeps, Bool.or_false]
    exact rests

theorem rests_run (acts : List Act) : (fresh.run acts).Rests (acts.any Act.wakes) := by
  induction acts using List.reverseRecOn with
  | nil => exact ⟨rfl, nofun⟩
  | append_singleton acts a ih =>
      rw [run_concat, List.any_append, List.any_cons, List.any_nil, Bool.or_false]
      exact ih.act a

/-! ## The view -/

theorem fragment_suffix_view (s : Surface) : s.fragment.toList <:+ s.view.toList := by
  unfold view
  split
  · exact List.suffix_rfl
  · rw [String.toList_append]
    exact List.suffix_append _ _

/-- **The display follows the history.** After any acts, the fragment is that of the last update,
the style sheet is the last that a message has brought, and the banner is that of the last error
unless an update has come behind it. The state is that of an error exactly while there is a banner;
without one the surface is uninitialized until something wakes it, and ready from then on. At rest
it is never updating. The view ends with the fragment, and a text that is no message changes
nothing. -/
theorem display_of_history (acts : List Act) :
    let s := fresh.run acts
    s.fragment = (lastSet HostMessage.fragment? (received acts)).getD "" ∧
      s.cssVariables = (lastSet HostMessage.cssVariables? (received acts)).getD "" ∧
      s.banner = (lastSet HostMessage.bannerLeft? (received acts)).getD none ∧
      (s.state = .error ↔ s.banner ≠ none) ∧
      (s.state = .uninitialized ↔ s.banner = none ∧ ∀ a ∈ acts, a.wakes = false) ∧
      (s.state = .ready ↔ s.banner = none ∧ ∃ a ∈ acts, a.wakes = true) ∧
      s.state ≠ .updating ∧
      s.fragment.toList <:+ s.view.toList ∧
      ∀ bytes fault, decodeHostMessage bytes = .error fault →
        s.receive bytes = .error fault ∧ fresh.run (acts ++ [.receive bytes]) = s := by
  intro s
  have screen : s.screen = (⟨"", "", none⟩ : Screen).applyAll (received acts) :=
    screen_acts fresh acts
  have rests := rests_run acts
  have asleep : acts.any Act.wakes = false ↔ ∀ a ∈ acts, a.wakes = false := by simp
  have awake : acts.any Act.wakes = true ↔ ∃ a ∈ acts, a.wakes = true := by simp
  refine ⟨?_, ?_, ?_, ?_, ?_, ?_, rests.ne_updating, fragment_suffix_view s, ?_⟩
  · exact (congrArg Screen.fragment screen).trans (Screen.fragment_applyAll _ _)
  · exact (congrArg Screen.cssVariables screen).trans (Screen.cssVariables_applyAll _ _)
  · exact (congrArg Screen.banner screen).trans (Screen.banner_applyAll _ _)
  · rw [show s.state = _ from rests.state, restingState]
    cases s.banner <;> cases acts.any Act.wakes <;> simp
  · rw [show s.state = _ from rests.state, restingState, ← asleep]
    cases s.banner <;> cases acts.any Act.wakes <;> simp
  · rw [show s.state = _ from rests.state, restingState, ← awake]
    cases s.banner <;> cases acts.any Act.wakes <;> simp
  · intro bytes fault broken
    have refused : s.receive bytes = .error fault := by
      rw [receive, broken]
      rfl
    refine ⟨refused, ?_⟩
    rw [run_concat, Surface.act, show (fresh.run acts).receive bytes = _ from refused]
    rfl

end Surface

end Wireframe.Preview
