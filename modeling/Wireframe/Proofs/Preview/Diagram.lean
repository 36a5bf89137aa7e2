import Wireframe.Proofs.Preview.Display

/-! # The moves of a surface

An act takes a surface through some states, and the surface notes each move from one state
to another. So the moves it has made are one trail from the first state to the present one.
They follow the diagram of states, but for one: an update takes a surface from an error
straight to updating, where the diagram goes back to ready
(`Wireframe.Preview.Surface.moves_of_history`).
-/

namespace Wireframe.Preview

namespace Surface

/-- The diagram of the states of a surface. -/
def edges : List (SurfaceState × SurfaceState) :=
  [(.uninitialized, .ready), (.ready, .updating), (.updating, .ready), (.ready, .error),
    (.error, .ready)]

/-- Moves each of which begins where the one before it ends, from a state to a state. -/
inductive Trail : SurfaceState → List (SurfaceState × SurfaceState) → SurfaceState → Prop where
  | stay (state : SurfaceState) : Trail state [] state
  | move {start next finish : SurfaceState} {moves : List (SurfaceState × SurfaceState)}
    (onward : Trail next moves finish) : Trail start ((start, next) :: moves) finish

theorem Trail.append {start middle finish : SurfaceState}
    {first second : List (SurfaceState × SurfaceState)} (before : Trail start first middle)
    (behind : Trail middle second finish) : Trail start (first ++ second) finish := by
  induction before with
  | stay => exact behind
  | move _ ih => exact .move (ih behind)

/-! ## Stops -/

/-- The moves from a state through some others. Staying in a state is no move. -/
def legs : SurfaceState → List SurfaceState → List (SurfaceState × SurfaceState)
  | _, [] => []
  | state, stop :: stops =>
    if stop = state then legs state stops else (state, stop) :: legs stop stops

theorem trail_legs (state : SurfaceState) (stops : List SurfaceState) :
    Trail state (legs state stops) (stops.getLastD state) := by
  induction stops generalizing state with
  | nil => exact .stay state
  | cons stop stops ih =>
      have last : (stop :: stops).getLastD state = stops.getLastD stop := List.getLastD_cons
      rw [last, legs]
      split_ifs with same
      · subst same
        exact ih stop
      · exact .move (ih stop)

theorem legs_append (state : SurfaceState) (first second : List SurfaceState) :
    legs state (first ++ second) = legs state first ++ legs (first.getLastD state) second := by
  induction first generalizing state with
  | nil => rfl
  | cons stop first ih =>
      have last : (stop :: first).getLastD state = first.getLastD stop := List.getLastD_cons
      rw [last, List.cons_append, legs, legs]
      split_ifs with same
      · subst same
        exact ih stop
      · rw [ih stop, List.cons_append]

/-- A surface gets from one to another by way of some states. -/
structure Travels (s : Surface) (stops : List SurfaceState) (t : Surface) : Prop where
  state : t.state = stops.getLastD s.state
  moves : t.moves = s.moves ++ legs s.state stops

theorem Travels.trans {s t u : Surface} {first second : List SurfaceState}
    (before : s.Travels first t) (behind : t.Travels second u) :
    s.Travels (first ++ second) u where
  state := by
    rw [behind.state, before.state]
    cases second using List.reverseRecOn <;> simp
  moves := by rw [behind.moves, before.moves, before.state, legs_append, List.append_assoc]

theorem travels_stay {s t : Surface} (state : t.state = s.state) (moves : t.moves = s.moves) :
    s.Travels [] t := ⟨state, by rw [moves, legs, List.append_nil]⟩

/-- A move notes the state that it leaves, whatever else has changed before it. -/
theorem travels_move {s t : Surface} (state : t.state = s.state) (moves : t.moves = s.moves)
    (target : SurfaceState) : s.Travels [target] (t.move target) := by
  refine ⟨state_move t target, ?_⟩
  unfold move
  rw [legs, state]
  split_ifs
  · rw [moves, legs, List.append_nil]
  · rw [← moves, legs]

theorem travels_start (s : Surface) :
    s.Travels (if s.state = .uninitialized then [.ready] else []) s.start := by
  unfold start
  split_ifs
  · exact travels_move rfl rfl .ready
  · exact travels_stay rfl rfl

/-- The states that a message takes a surface through that has been woken. -/
def stops : HostMessage → List SurfaceState
  | .update .. => [.updating, .ready]
  | .error .. | .schemaError .. => [.error]
  | .themeVariables _ | .openDevTools => []

/-- The states that an act takes a surface through. What wakes it gets it ready first. -/
def Act.stops (state : SurfaceState) (a : Act) : List SurfaceState :=
  (if state = .uninitialized ∧ a.wakes = true then [.ready] else []) ++
    a.message?.elim [] Surface.stops

theorem stops_of_wakes {a : Act} (state : SurfaceState) (wakes : a.wakes = true) :
    a.stops state =
      (if state = .uninitialized then [.ready] else []) ++ a.message?.elim [] Surface.stops := by
  rw [Act.stops, wakes]
  simp

theorem stops_of_sleeps {a : Act} (state : SurfaceState) (sleeps : a.wakes = false) :
    a.stops state = a.message?.elim [] Surface.stops := by
  rw [Act.stops, sleeps]
  simp

theorem travels_showError (s : Surface) (label text : String) :
    s.Travels ((if s.state = .uninitialized then [.ready] else []) ++ [.error])
      (s.showError label text) := by
  refine s.travels_start.trans ?_
  unfold showError
  exact travels_move (by rfl) (by rfl) .error

theorem travels_update (s : Surface) (fragment css : String) :
    s.Travels ((if s.state = .uninitialized then [.ready] else []) ++ [.updating, .ready])
      (s.apply (.update fragment css)) := by
  have updating := s.travels_start.trans (travels_move rfl rfl .updating)
  have ready : (s.start.move .updating).Travels [.ready] (s.apply (.update fragment css)) := by
    unfold apply
    exact travels_move (by rfl) (by rfl) .ready
  simpa using updating.trans ready

theorem travels_apply (s : Surface) (m : HostMessage) :
    s.Travels (Act.stops s.state (.apply m)) (s.apply m) := by
  cases m with
  | update fragment css =>
      rw [stops_of_wakes s.state rfl]
      exact s.travels_update fragment css
  | error message =>
      rw [stops_of_wakes s.state rfl]
      exact s.travels_showError _ message
  | schemaError message path =>
      rw [stops_of_wakes s.state rfl]
      exact s.travels_showError _ message
  | themeVariables css =>
      rw [stops_of_sleeps s.state rfl]
      exact travels_stay rfl rfl
  | openDevTools =>
      rw [stops_of_sleeps s.state rfl]
      exact travels_stay rfl rfl

theorem travels_act (s : Surface) (a : Act) : s.Travels (a.stops s.state) (s.act a) := by
  rcases s.act_cases a with ⟨m, carries, done⟩ | ⟨carries, ⟨rfl, done⟩ | ⟨other, done⟩⟩
  · have same : a.stops s.state = Act.stops s.state (.apply m) := by
      cases a <;> simp_all [Act.stops, Act.wakes, Act.message?]
    rw [done, same]
    exact s.travels_apply m
  · rw [done, stops_of_wakes s.state rfl, carries]
    simpa using s.travels_start
  · have sleeps : a.wakes = false := by simp [Act.wakes, carries, other]
    rw [done, stops_of_sleeps s.state sleeps, carries]
    exact travels_stay rfl rfl

/-! ## The moves of an act -/

/-- The move from an error to an update, which the diagram does not have. -/
def recovery : SurfaceState × SurfaceState := (.error, .updating)

/-- An act that brings an update. -/
def Act.Updates (a : Act) : Prop := ∃ fragment css, a.message? = some (.update fragment css)

/-- The messages of an act, by the states they take a surface through. -/
theorem act_ways (a : Act) :
    a.message?.elim [] Surface.stops = [] ∧ ¬ a.Updates ∨
      a.wakes = true ∧
        (a.message?.elim [] Surface.stops = [.error] ∧ ¬ a.Updates ∨
          a.message?.elim [] Surface.stops = [.updating, .ready] ∧ a.Updates) := by
  unfold Act.Updates Act.wakes
  cases a.message? with
  | none => simp
  | some m => cases m <;> simp [Surface.stops, HostMessage.bannerLeft?, HostMessage.banner?]

/-- What an act moves a surface through that is at rest: along the diagram, but for the recovery. -/
theorem legs_act {state : SurfaceState} (rests : state ≠ .updating) (a : Act) :
    (∀ e ∈ legs state (a.stops state), e ∈ edges ∨ e = recovery) ∧
      (recovery ∈ legs state (a.stops state) ↔ a.Updates ∧ state = .error) ∧
      (state = .uninitialized →
        ∀ e ∈ (legs state (a.stops state)).head?, e = (.uninitialized, .ready)) := by
  rcases act_ways a with ⟨none, idle⟩ | ⟨wakes, ⟨error, idle⟩ | ⟨update, updates⟩⟩
  · rw [Act.stops, none]
    cases state <;> cases a.wakes <;> simp [legs, edges, recovery, idle]
  · rw [stops_of_wakes state wakes, error]
    cases state <;> simp [legs, edges, recovery, idle] at rests ⊢
  · rw [stops_of_wakes state wakes, update]
    cases state <;> simp [legs, edges, recovery, updates] at rests ⊢

/-! ## The moves of a history -/

/-- An update comes while there is an error. -/
def Recovers (acts : List Act) : Prop :=
  ∃ before a behind, acts = before ++ a :: behind ∧ a.Updates ∧ (fresh.run before).state = .error

theorem recovers_concat (acts : List Act) (a : Act) :
    Recovers (acts ++ [a]) ↔ Recovers acts ∨ a.Updates ∧ (fresh.run acts).state = .error := by
  constructor
  · rintro ⟨before, b, behind, same, updates, error⟩
    cases behind using List.reverseRecOn with
    | nil =>
        obtain ⟨rfl, last⟩ := List.append_inj' same rfl
        obtain rfl := List.singleton_inj.mp last
        exact .inr ⟨updates, error⟩
    | append_singleton behind c =>
        rw [← List.cons_append, ← List.append_assoc] at same
        exact .inl ⟨before, b, behind, (List.append_inj' same rfl).1, updates, error⟩
  · rintro (⟨before, b, behind, rfl, updates, error⟩ | ⟨updates, error⟩)
    · exact ⟨before, b, behind ++ [a], by simp, updates, error⟩
    · exact ⟨acts, a, [], rfl, updates, error⟩

/-- **The moves follow the diagram, but for one.** After any acts, the moves that a surface has made
lead from its first state to the present one, each from where the one before it ended. Each is a
move of the diagram, or it leads from an error to updating, and such a move is made exactly if an
update comes while there is an error. A message that moves a surface which is uninitialized makes it
ready first. -/
theorem moves_of_history (acts : List Act) :
    let s := fresh.run acts
    Trail .uninitialized s.moves s.state ∧
      (∀ e ∈ s.moves, e ∈ edges ∨ e = recovery) ∧
      (recovery ∈ s.moves ↔ Recovers acts) ∧
      ∀ m, ∃ made, (s.apply m).moves = s.moves ++ made ∧
        (s.state = .uninitialized → ∀ e ∈ made.head?, e = (.uninitialized, .ready)) := by
  intro s
  rw [← and_assoc, ← and_assoc]
  refine ⟨?_, fun m => ⟨_, (travels_apply s m).moves, ?_⟩⟩
  · induction acts using List.reverseRecOn with
    | nil =>
        refine ⟨⟨.stay _, nofun⟩, nofun, ?_⟩
        rintro ⟨before, a, behind, same, -⟩
        simp at same
    | append_singleton acts a ih =>
        obtain ⟨⟨trail, along⟩, recovers⟩ := ih
        obtain ⟨state, moves⟩ := travels_act (fresh.run acts) a
        obtain ⟨follows, here, -⟩ := legs_act (rests_run acts).ne_updating a
        rw [show s = (fresh.run acts).act a from run_concat fresh acts a]
        refine ⟨⟨?_, ?_⟩, ?_⟩
        · rw [moves, state]
          exact trail.append (trail_legs _ _)
        · intro e member
          rw [moves] at member
          rcases List.mem_append.mp member with earlier | now
          · exact along e earlier
          · exact follows e now
        · rw [moves, List.mem_append, recovers, here, recovers_concat]
  · exact (legs_act (rests_run acts).ne_updating (.apply m)).2.2

/-- An update behind an error: the surface goes from the error to updating, not to ready. -/
theorem recovery_off_diagram :
    ¬ ∀ (acts : List Act), ∀ e ∈ (fresh.run acts).moves, e ∈ edges := by
  intro every
  have off := every [.load, .apply (.error "broken"), .apply (.update "" "")] recovery (by decide)
  exact absurd off (by decide)

end Surface

end Wireframe.Preview
