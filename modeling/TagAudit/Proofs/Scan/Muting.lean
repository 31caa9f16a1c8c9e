import TagAudit.Proofs.Progress.Muting
import TagAudit.Proofs.Scan.Readers

/-!
# The console after a scan

A scan that draws a bar mutes the console for it. Whether all files were read, some were left out
or one of them ended the scan, the bar is over in the end, and with it the muting. So neither scans
nor blocks and runs in any order leave a console muted once nothing is open any more.
-/

namespace TagAudit.Scan

open Log (Event)
open Progress (Session blocksOpen threshold mutedAfterAll_append mutedAfterAll_entries)

section
variable (settings : ScanSettings) (context : Context) (logger : Log.Logger) (tree : Node)
  (workingPlace : Place) (root : Path) (paths : List Path)

/-- The progress through files mutes the console if there is a terminal to draw on and there are
many files. -/
theorem mute_mem_openedProgress_iff : Event.mute ∈ (openedProgress context paths).2 ↔
    context.terminal = true ∧ threshold < paths.length := by
  rw [openedProgress, Progress.Run.mute_mem_opened_iff _ _ rfl]
  simp [Progress.Run.wantsBar]

/-- A scan of files mutes the console if there is a terminal and there are many files. -/
theorem mute_mem_runOn_iff :
    Event.mute ∈ (runOn settings context logger tree workingPlace root paths).2 ↔
      context.terminal = true ∧ threshold < paths.length := by
  rw [← mute_mem_openedProgress_iff]
  cases ended : (readingOf settings context logger tree workingPlace paths).1 with
  | error failure =>
    rw [runOn_of_error _ _ _ _ _ _ _ _ ended]
    simp [Progress.Run.mute_not_mem_close]
  | ok both =>
    obtain ⟨classes, skipped⟩ := both
    rw [runOn_of_ok _ _ _ _ _ _ _ _ _ ended]
    simp [Progress.Run.mute_not_mem_ending]

/-- A scan of files leaves an unmuted console unmuted. -/
theorem mutedAfterAll_runOn : Event.mutedAfterAll false
    (runOn settings context logger tree workingPlace root paths).2 = false := by
  have untouched (entry : Log.Entry) : Event.mutedAfterAll false [.entry entry] = false := rfl
  cases ended : (readingOf settings context logger tree workingPlace paths).1 with
  | error failure =>
    rw [runOn_of_error _ _ _ _ _ _ _ _ ended]
    simp only [mutedAfterAll_append, mutedAfterAll_entries, untouched]
    exact Progress.Run.unmuted_through _ _ (Progress.Run.mutedAfterAll_close _)
  | ok both =>
    obtain ⟨classes, skipped⟩ := both
    rw [runOn_of_ok _ _ _ _ _ _ _ _ _ ended]
    simp only [mutedAfterAll_append, mutedAfterAll_entries, untouched]
    exact Progress.Run.unmuted_through _ _ (Progress.Run.mutedAfterAll_ending _)

/-- A scan mutes the console if there is a terminal and many files are found. Whether it comes to a
result or is ended by a failure, it leaves an unmuted console unmuted. -/
theorem muting_of_run :
    (Event.mute ∈ (run settings context tree workingPlace root).2 ↔ context.terminal = true ∧
      ∃ paths, (searchOf settings).run tree workingPlace root = .ok paths ∧
        threshold < paths.length) ∧
    Event.mutedAfterAll false (run settings context tree workingPlace root).2 = false := by
  cases searched : (searchOf settings).run tree workingPlace root with
  | error problem =>
    rw [run_of_problem _ _ _ _ _ _ searched]
    exact ⟨by simp, rfl⟩
  | ok paths =>
    rw [run_of_found _ _ _ _ _ _ searched]
    refine ⟨?_, mutedAfterAll_runOn settings context _ tree workingPlace root paths⟩
    rw [mute_mem_runOn_iff]
    simp

end

/-- Muting never lasts. A step of a session that leaves neither a block nor a bar open leaves the
console to be heard, and one that opens the first of them silences it. A scan mutes it if there is a
terminal and many files are found, and in the end it is unmuted if it was so before. -/
theorem audible_when_idle (α : Type) :
    (∀ (terminal : Bool) (steps : List (Progress.Step α)) (n : Nat) (step : Progress.Step α)
      (taken : Session α × _), steps[n]? = some step →
      ((Session.start terminal).steps steps)[n]? = some taken →
      (¬taken.1.IsBusy (blocksOpen (steps.take (n + 1))) → taken.1.IsAudible) ∧
      (step.IsFresh → ¬((Session.start terminal).taking (steps.take n)).IsBusy
          (blocksOpen (steps.take n)) →
        taken.1.IsBusy (blocksOpen (steps.take (n + 1))) → taken.1.IsSilent)) ∧
    ∀ (settings : ScanSettings) (context : Context) (tree : Node) (workingPlace : Place)
      (root : Path),
      (Event.mute ∈ (run settings context tree workingPlace root).2 ↔ context.terminal = true ∧
        ∃ paths, (searchOf settings).run tree workingPlace root = .ok paths ∧
          threshold < paths.length) ∧
      Event.mutedAfterAll false (run settings context tree workingPlace root).2 = false := by
  refine ⟨fun terminal steps n step taken nth reached => ?_, muting_of_run⟩
  obtain ⟨_, nthToo, rfl⟩ := Session.exists_step_of_reached _ reached
  obtain rfl := Option.some.inj (nth.symm.trans nthToo)
  constructor
  · intro idle
    rw [← Session.taking_take_succ _ nth] at idle ⊢
    rw [Session.isAudible_iff, ← Bool.not_eq_true]
    exact fun muted => idle (Session.isBusy_of_muted terminal _ muted)
  · intro fresh idle busy
    rw [Session.blocksOpen_take_succ nth] at busy
    exact (Session.isSilent_iff _).mpr (Session.muted_of_opened fresh idle busy)

/-- Two bars that are over in the order in which they began leave the console to be heard. It was
silent from when the first of them was drawn. -/
theorem audible_after_bars :
    let steps : List (Progress.Step Nat) := [.create "a" Session.longRun,
      .create "b" Session.longRun, .next "a", .next "b", .close "a", .close "b"]
    (∃ taken : Session Nat × _, ((Session.start true).steps steps)[2]? = some taken ∧
      taken.1.IsSilent) ∧
    ∃ taken : Session Nat × _, ((Session.start true).steps steps)[5]? = some taken ∧
      ¬taken.1.IsBusy (blocksOpen (steps.take 6)) ∧ taken.1.IsAudible := by
  intro steps
  obtain ⟨sessions, -⟩ := audible_when_idle Nat
  constructor
  · have idle := Session.not_isBusy_of_runs
      (s := ((Session.start true : Session Nat).taking (steps.take 2))) (by decide)
    obtain ⟨-, silenced⟩ := sessions true steps 2 _ _ rfl rfl
    exact ⟨_, rfl, silenced trivial idle (.inr ⟨"a", rfl⟩)⟩
  · have idle := Session.not_isBusy_of_runs
      (s := ((Session.start true : Session Nat).taking steps)) (by decide)
    obtain ⟨audible, -⟩ := sessions true steps 5 _ _ rfl rfl
    exact ⟨_, rfl, idle, audible idle⟩

end TagAudit.Scan
