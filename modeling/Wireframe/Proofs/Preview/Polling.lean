import Mathlib.Data.List.Forall2
import Wireframe.Proofs.Preview.Watching

/-! # What a watcher tells, look after look

A watcher that looks at its files again and again tells each time of the files that stand
otherwise than they stood at the look before: those that are new, that have gone or that
have a later time. It tells of each of them once, in whatever way files come, change and go
between its looks, and of no other file (`Wireframe.Preview.Watcher.told_of_states`). A
file that has an earlier time than before is the one kind of change that it passes over.
-/

namespace Wireframe.Preview.Watcher

variable {w : Watcher} {before now : Times} {path : FilePath}

/-- What a watcher tells when it looks at several states of the files one after the other. -/
def pollAll (w : Watcher) : List Times → List (List FilePath)
  | [] => []
  | now :: later => (w.poll now).1 :: (w.poll now).2.pollAll later

/-! ## Scans -/

theorem nodup_scan (w : Watcher) (now : Times) : (w.scan now).keys.Nodup := by
  refine List.foldlRecOn (motive := fun found : Times => found.keys.Nodup) w.paths _
    List.nodup_nil fun found distinct path _ => ?_
  cases now.get? path with
  | none => exact distinct
  | some time => exact Table.nodup_put distinct path time

theorem get?_scan_eq (w : Watcher) (now : Times) (path : FilePath) :
    (w.scan now).get? path = if path ∈ w.paths then now.get? path else none := by
  by_cases watched : path ∈ w.paths
  · rw [get?_scan watched, if_pos watched]
  · have found := get?_foldl_scan now w.paths [] path
    rw [if_neg watched] at found ⊢
    exact found

theorem mem_keys_scan : path ∈ (w.scan now).keys ↔ path ∈ w.paths ∧ (now.get? path).isSome := by
  have found := get?_scan_eq w now path
  constructor
  · intro member
    obtain ⟨⟨_, time⟩, inside, rfl⟩ := List.mem_map.mp member
    rw [Table.get?_of_mem (nodup_scan w now) inside] at found
    split_ifs at found with watched
    exact ⟨watched, by rw [← found]; rfl⟩
  · rintro ⟨watched, there⟩
    obtain ⟨time, timed⟩ := Option.isSome_iff_exists.mp there
    rw [if_pos watched, timed] at found
    exact List.mem_map_of_mem (f := Prod.fst) (Table.mem_of_get? found)

/-! ## One look -/

/-- A file is there as it was before, but with an earlier time. -/
def SetBack (before now : Option Int) : Prop := ∃ time ∈ before, ∃ earlier ∈ now, earlier < time

theorem notices_iff :
    w.Notices now path ↔
      w.seen.get? path ≠ now.get? path ∧ ¬ SetBack (w.seen.get? path) (now.get? path) := by
  unfold Notices SetBack
  cases w.seen.get? path with
  | none => cases now.get? path <;> simp
  | some time =>
      cases now.get? path with
      | none => simp
      | some later =>
          simp only [Option.mem_def, Option.some.injEq, exists_eq_left', forall_eq', reduceCtorEq,
            false_and, or_false, ne_eq, Int.not_lt]
          omega

theorem isNewer_iff {time : Int} :
    w.isNewer path time = true ↔ ∀ earlier ∈ w.seen.get? path, earlier < time := by
  unfold isNewer
  cases w.seen.get? path <;> simp

theorem mem_poll (w : Watcher) (before now : Times) (path : FilePath) :
    path ∈ ((w.observe before).poll now).1 ↔
      path ∈ w.paths ∧ (w.observe before).Notices now path := by
  refine ⟨fun member => ?_, fun ⟨watched, notices⟩ => notices.mem_poll watched⟩
  rcases List.mem_append.mp member with changed | gone
  · obtain ⟨⟨_, time⟩, inside, rfl⟩ := List.mem_map.mp changed
    obtain ⟨there, newer⟩ := List.mem_filter.mp inside
    have watched := (mem_keys_scan.mp (List.mem_map_of_mem (f := Prod.fst) there)).1
    refine ⟨watched, .inl ⟨time, ?_, isNewer_iff.mp newer⟩⟩
    rw [← get?_scan (w := w) watched]
    exact Table.get?_of_mem (nodup_scan w now) there
  · obtain ⟨seen, missing⟩ := List.mem_filter.mp gone
    obtain ⟨watched, there⟩ := mem_keys_scan.mp seen
    refine ⟨watched, .inr ⟨?_, ?_⟩⟩
    · rw [← get?_scan (w := w) watched]
      exact Option.isNone_iff_eq_none.mp missing
    · obtain ⟨time, timed⟩ := Option.isSome_iff_exists.mp there
      exact ⟨time, (get?_scan (w := w) watched).trans timed⟩

/-- A watcher tells of no file twice: one that has gone is not among those that are there. -/
theorem nodup_poll (w : Watcher) (before now : Times) :
    ((w.observe before).poll now).1.Nodup := by
  have changed : (Table.keys ((w.scan now).filter fun file =>
      (w.observe before).isNewer file.1 file.2)).Nodup :=
    (nodup_scan w now).sublist (List.filter_sublist.map Prod.fst)
  have gone : ((w.scan before).keys.filter fun path => ((w.scan now).get? path).isNone).Nodup :=
    (nodup_scan w before).filter _
  refine changed.append gone fun path there missing => ?_
  obtain ⟨⟨path, time⟩, inside, rfl⟩ := List.mem_map.mp there
  have found := Table.get?_of_mem (nodup_scan w now) (List.mem_filter.mp inside).1
  have none : ((w.scan now).get? path).isNone = true := (List.mem_filter.mp missing).2
  rw [found] at none
  cases none

/-! ## Many looks -/

/-- After a look a watcher is as if it had taken the state at which it looked as seen. -/
theorem poll_observe (w : Watcher) (before now : Times) :
    ((w.observe before).poll now).2 = w.observe now := rfl

/-- **Look after look.** A watcher looks at a first state of the files and then at later ones. At
each of these it tells, once each, of the watched files that stand otherwise than at the state
before, be they new, gone or changed, except for those whose time is earlier than before; and it
tells of no other file. -/
theorem told_of_states (paths : List FilePath) (first : Times) (later : List Times) :
    List.Forall₂
      (fun (state : Times × Times) told =>
        told.Nodup ∧ ∀ path, path ∈ told ↔
          path ∈ paths ∧ state.1.get? path ≠ state.2.get? path ∧
            ¬ SetBack (state.1.get? path) (state.2.get? path))
      ((first :: later).zip later) ((observe ⟨paths, []⟩ first).pollAll later) := by
  induction later generalizing first with
  | nil => exact .nil
  | cons now later ih =>
      rw [pollAll, poll_observe, List.zip_cons_cons]
      refine .cons ⟨nodup_poll _ first now, fun path => ?_⟩ (ih now)
      rw [mem_poll, notices_iff, and_congr_right_iff]
      intro watched
      have seen : (observe ⟨paths, []⟩ first).seen.get? path = first.get? path :=
        get?_scan watched
      rw [seen]

/-- A file that is replaced by an older one has changed, but the watcher does not tell of it. -/
theorem older_file_untold :
    ¬ ∀ (paths : List FilePath) (first : Times) (later : List Times),
      List.Forall₂
        (fun (state : Times × Times) told =>
          told.Nodup ∧ ∀ path, path ∈ told ↔
            path ∈ paths ∧ state.1.get? path ≠ state.2.get? path)
        ((first :: later).zip later) ((observe ⟨paths, []⟩ first).pollAll later) := by
  intro every
  have told := every [⟨"", ["page"]⟩] [(⟨"", ["page"]⟩, 2)] [[(⟨"", ["page"]⟩, 1)]]
  rw [pollAll, pollAll, List.zip_cons_cons] at told
  obtain ⟨⟨-, members⟩, -⟩ := List.forall₂_cons.mp told
  exact absurd ((members ⟨"", ["page"]⟩).mpr (by decide)) (by decide)

end Wireframe.Preview.Watcher
