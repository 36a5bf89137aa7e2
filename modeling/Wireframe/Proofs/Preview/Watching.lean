import Wireframe.Preview.Reload
import Wireframe.Proofs.Table

/-! # What a watcher notices

A watcher remembers the times of its files as they were when it looked last. Looking again
tells of every file that is new, has a later time or has gone
(`Wireframe.Preview.Watcher.Notices.mem_poll`), and a reloader collects all of them
(`Wireframe.Preview.Reloader.poll_eq`).
-/

namespace Wireframe.Preview

namespace Watcher

variable {w : Watcher} {times : Times} {path : FilePath}

theorem get?_foldl_scan (times : Times) (paths : List FilePath) (table : Times)
    (path : FilePath) :
    (paths.foldl (fun found path =>
      match times.get? path with
      | some time => found.put path time
      | none => found) table).get? path =
      if path ∈ paths then (times.get? path).or (table.get? path) else table.get? path := by
  induction paths generalizing table with
  | nil => rfl
  | cons first paths ih =>
      have step : Table.get? (match times.get? first with
          | some time => table.put first time
          | none => table) path =
          if path = first then (times.get? path).or (table.get? path) else table.get? path := by
        cases found : times.get? first with
        | none => by_cases same : path = first <;> simp [same, found]
        | some time => by_cases same : path = first <;> simp [Table.get?_put, same, found]
      rw [List.foldl_cons, ih, step]
      by_cases same : path = first
      · cases times.get? path <;> simp [same]
      · simp [same]

/-- The time that a scan finds for a watched file is the time it has. -/
theorem get?_scan (watched : path ∈ w.paths) : (w.scan times).get? path = times.get? path := by
  have found := get?_foldl_scan times w.paths [] path
  rw [if_pos watched] at found
  exact found.trans Option.or_none

/-- A file is new, has a later time or has gone since a watcher looked last. -/
def Notices (w : Watcher) (times : Times) (path : FilePath) : Prop :=
  (∃ time, times.get? path = some time ∧ ∀ before ∈ w.seen.get? path, before < time) ∨
    (times.get? path = none ∧ ∃ before, w.seen.get? path = some before)

theorem Notices.congr {others : Times} (notices : w.Notices times path)
    (same : others.get? path = times.get? path) : w.Notices others path := by
  rw [Notices, same]
  exact notices

/-- A watcher tells of every watched file that it notices. -/
theorem Notices.mem_poll (notices : w.Notices times path) (watched : path ∈ w.paths) :
    path ∈ (w.poll times).1 := by
  have now : (w.scan times).get? path = times.get? path := get?_scan watched
  rcases notices with ⟨time, there, newer⟩ | ⟨gone, before, seen⟩
  · have isNewer : w.isNewer path time = true := by
      rw [Watcher.isNewer]
      cases seen : w.seen.get? path with
      | none => rfl
      | some before => exact decide_eq_true (newer before seen)
    refine List.mem_append_left _ (List.mem_map.mpr ⟨(path, time), ?_, rfl⟩)
    exact List.mem_filter.mpr ⟨Table.mem_of_get? (now.trans there), isNewer⟩
  · refine List.mem_append_right _ (List.mem_filter.mpr ⟨?_, ?_⟩)
    · exact List.mem_map.mpr ⟨(path, before), Table.mem_of_get? seen, rfl⟩
    · rw [now, gone]
      rfl

/-- After a look, a watcher has seen the times that there are. -/
theorem seen_poll (watched : path ∈ w.paths) :
    (w.poll times).2.seen.get? path = times.get? path := get?_scan watched

/-- What a watcher has just looked at is not noticed once more. -/
theorem not_notices_poll (watched : path ∈ w.paths) : ¬ (w.poll times).2.Notices times path := by
  rw [Notices, seen_poll watched]
  rintro (⟨time, there, newer⟩ | ⟨gone, before, seen⟩)
  · exact absurd (newer time there) (Int.lt_irrefl time)
  · cases gone.symm.trans seen

end Watcher

namespace Reloader

/-- Collecting adds changes to those that have been collected. -/
theorem foldl_collect (r : Reloader) (changed : List FilePath) :
    ∃ pending waiting,
      changed.foldl collect r = { r with pending := pending, waiting := waiting } ∧
      ∀ path, path ∈ pending ↔ path ∈ r.pending ∨ path ∈ changed := by
  induction changed generalizing r with
  | nil => exact ⟨r.pending, r.waiting, rfl, by simp⟩
  | cons first changed ih =>
      obtain ⟨pending, waiting, collected, members⟩ := ih (r.collect first)
      refine ⟨pending, waiting, collected, fun path => ?_⟩
      have added : path ∈ (r.collect first).pending ↔ path ∈ r.pending ∨ path = first := by
        rw [collect]
        by_cases known : first ∈ r.pending
        · simp only [List.contains_iff_mem, known, ↓reduceIte]
          constructor
          · exact .inl
          · rintro (inside | rfl)
            · exact inside
            · exact known
        · simp [known]
      rw [members, added, List.mem_cons, or_assoc]

/-- **What a poll does.** The watcher has seen the times that there are, and the files of which it
tells are collected. -/
theorem poll_eq (r : Reloader) (times : Times) :
    ∃ pending waiting,
      (r.poll times).2 =
        { r with watcher := (r.watcher.poll times).2, pending := pending, waiting := waiting } ∧
      ∀ path, path ∈ pending ↔ path ∈ r.pending ∨ path ∈ (r.watcher.poll times).1 :=
  foldl_collect { r with watcher := (r.watcher.poll times).2 } (r.watcher.poll times).1

end Reloader

end Wireframe.Preview
