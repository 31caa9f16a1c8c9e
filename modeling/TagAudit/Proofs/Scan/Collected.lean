import TagAudit.Scan.Readers

/-!
# What files come to, whoever reads them

Outcomes are gone through in the order of their files, however many readers there are and in
whatever order they finish. Between two turns of the readers every outcome that was not gone through
waits behind one that has not come. So when the last file is finished nothing waits, and what was
gone through in pieces is what goes through at once.

All that is asked of the readers is that every file is finished at some time.
-/

namespace TagAudit.Scan

open ClassFile Log

/-- What some files came to, unless they ended everything, and then others. -/
def Collected.andThen : Collected → Collected → Collected
  | .error failure, _ => .error failure
  | .ok collected, others => Collected.followedBy collected others

/-- Nothing comes before what comes. -/
theorem Collected.followedBy_nothing (others : Collected) :
    Collected.followedBy ([], []) others = others := by
  cases others <;> rfl

/-- What comes before may come in two parts. -/
theorem Collected.followedBy_followedBy (first second : List ClassDescriptor × List Skipped)
    (others : Collected) :
    Collected.followedBy first (.followedBy second others) =
      .followedBy (first.1 ++ second.1, first.2 ++ second.2) others := by
  cases others with
  | error failure => rfl
  | ok collected => simp [followedBy, Except.map]

/-- The event of the entries that say that a file is taken up. -/
def takenUpEvent : Text := "analyze_class"

/-- What files came to, with the entries made. -/
abbrev Judged := Collected × List Entry

namespace Judged

/-- What some files came to, unless they ended everything, and then others. -/
def andThen (first others : Judged) : Judged :=
  match first with
  | (.error failure, entries) => (.error failure, entries)
  | (.ok collected, entries) => (.followedBy collected others.1, entries ++ others.2)

/-- The same without the entries that say that a file is taken up. -/
def unread (judged : Judged) : Judged :=
  (judged.1, judged.2.filter fun e => e.event != takenUpEvent)

/-- Files come to nothing but what they come to. -/
theorem andThen_fst (first others : Judged) :
    (first.andThen others).1 = first.1.andThen others.1 := by
  obtain ⟨collected, entries⟩ := first
  cases collected <;> rfl

/-- Before what comes, nothing may come. -/
theorem nothing_andThen (others : Judged) : andThen (.ok ([], []), []) others = others := by
  simp [andThen, Collected.followedBy_nothing]

/-- Files may come in three parts, however these are put together. -/
theorem andThen_assoc (first second others : Judged) :
    (first.andThen second).andThen others = first.andThen (second.andThen others) := by
  obtain ⟨collected, entries⟩ := first
  cases collected with
  | error failure => rfl
  | ok before =>
    obtain ⟨collected, later⟩ := second
    cases collected with
    | error failure => rfl
    | ok after =>
      simp only [andThen, Collected.followedBy_followedBy, ← List.append_assoc]
      rfl

/-- Entries about files that are taken up may be left out of each part. -/
theorem unread_andThen (first others : Judged) :
    (first.andThen others).unread = first.unread.andThen others.unread := by
  obtain ⟨collected, entries⟩ := first
  cases collected <;> simp [andThen, unread]

/-- Entries about files that are taken up do not count. -/
theorem unread_behind (collected : Collected) (taken entries : List Entry)
    (readings : ∀ e ∈ taken, e.event = takenUpEvent) :
    unread (collected, taken ++ entries) = unread (collected, entries) := by
  have none : (taken.filter fun e => e.event != takenUpEvent) = [] := by
    simpa using readings
  simp [unread, none]

end Judged

section
variable (skipInvalid : Bool) (logger : Logger)

/-- Going through an outcome makes no entry that says that a file is taken up. -/
theorem unread_judge (outcome : Outcome) :
    Judged.unread (outcome.judge skipInvalid logger) = outcome.judge skipInvalid logger := by
  have skipped : ("class_skipped" : Text) ≠ takenUpEvent := by decide
  have aborted : ("scan_aborted" : Text) ≠ takenUpEvent := by decide
  rw [Outcome.judge]
  cases outcome.result with
  | ok described => rfl
  | error failure => cases skipInvalid <;> simp [Judged.unread, Logger.entry, skipped, aborted]

/-- A first outcome is gone through before the others. -/
theorem judgeAll_cons (outcome : Outcome) (rest : List Outcome) :
    judgeAll skipInvalid logger (outcome :: rest) =
      Judged.andThen (outcome.judge skipInvalid logger) (judgeAll skipInvalid logger rest) := by
  rw [judgeAll]
  obtain ⟨judged, entries⟩ := outcome.judge skipInvalid logger
  cases judged <;> rfl

/-- Outcomes may be gone through in two parts. -/
theorem judgeAll_append (first others : List Outcome) :
    judgeAll skipInvalid logger (first ++ others) =
      Judged.andThen (judgeAll skipInvalid logger first) (judgeAll skipInvalid logger others) := by
  induction first with
  | nil => exact (Judged.nothing_andThen _).symm
  | cons outcome first inductionHypothesis =>
    rw [List.cons_append, judgeAll_cons, inductionHypothesis, judgeAll_cons, Judged.andThen_assoc]

/-- Going through outcomes makes no entry that says that a file is taken up. -/
theorem unread_judgeAll (outcomes : List Outcome) :
    Judged.unread (judgeAll skipInvalid logger outcomes) =
      judgeAll skipInvalid logger outcomes := by
  induction outcomes with
  | nil => rfl
  | cons outcome rest inductionHypothesis =>
    rw [judgeAll_cons, Judged.unread_andThen, unread_judge, inductionHypothesis]

/-- One reader comes to what the outcomes come to in order. -/
theorem oneByOne_eq_judgeAll (outcomes : List Outcome) :
    Judged.unread (oneByOne skipInvalid logger outcomes) =
      judgeAll skipInvalid logger outcomes := by
  induction outcomes with
  | nil => rfl
  | cons outcome rest inductionHypothesis =>
    have step : oneByOne skipInvalid logger (outcome :: rest) =
        Judged.andThen ((outcome.judge skipInvalid logger).1,
          outcome.takenUp logger :: (outcome.judge skipInvalid logger).2)
          (oneByOne skipInvalid logger rest) := by
      rw [oneByOne]
      obtain ⟨judged, entries⟩ := outcome.judge skipInvalid logger
      cases judged <;> rfl
    have first : Judged.unread ((outcome.judge skipInvalid logger).1,
        outcome.takenUp logger :: (outcome.judge skipInvalid logger).2) =
          outcome.judge skipInvalid logger := by
      have readings : ∀ e ∈ [outcome.takenUp logger], e.event = takenUpEvent := by
        simp [Outcome.takenUp, Logger.entry, takenUpEvent]
      exact (Judged.unread_behind _ _ _ readings).trans (unread_judge skipInvalid logger outcome)
    rw [step, Judged.unread_andThen, first, inductionHypothesis, judgeAll_cons]

/-- What is due stands in front, and behind it nothing is due. -/
theorem due_split (finished : List Nat) (waiting : List (Nat × Outcome)) :
    waiting = due finished waiting ++ waiting.drop (due finished waiting).length ∧
      due finished (waiting.drop (due finished waiting).length) = [] := by
  induction waiting with
  | nil => exact ⟨rfl, rfl⟩
  | cons entry rest inductionHypothesis =>
    by_cases come : finished.contains entry.1
    · obtain ⟨split, blocked⟩ := inductionHypothesis
      have first : due finished (entry :: rest) = entry :: due finished rest := by
        simp only [due, List.takeWhile_cons, come, if_true]
      rw [first, List.length_cons, List.drop_succ_cons]
      exact ⟨congrArg (entry :: ·) split, blocked⟩
    · have none : due finished (entry :: rest) = [] := by
        simp only [due, List.takeWhile_cons, come, Bool.false_eq_true, if_false]
      rw [none]
      exact ⟨rfl, none⟩

/-- Several readers come to what the waiting outcomes come to in order, if every one of them is
still to be finished or has been, and the first one has not been. -/
theorem asFinished_eq_judgeAll (order finished : List Nat) (waiting : List (Nat × Outcome))
    (finishes : ∀ entry ∈ waiting, entry.1 ∈ order ∨ entry.1 ∈ finished)
    (blocked : due finished waiting = []) :
    Judged.unread (asFinished skipInvalid logger order finished waiting) =
      judgeAll skipInvalid logger (waiting.map Prod.snd) := by
  induction order generalizing finished waiting with
  | nil =>
    cases waiting with
    | nil => rfl
    | cons entry rest =>
      -- A first outcome that waits has been finished, so its turn would have come.
      have come : entry.1 ∈ finished := by simpa using finishes entry List.mem_cons_self
      simp [due, come] at blocked
  | cons number order inductionHypothesis =>
    obtain ⟨split, stillBlocked⟩ := due_split (number :: finished) waiting
    have later : ∀ entry ∈ waiting.drop (due (number :: finished) waiting).length,
        entry.1 ∈ order ∨ entry.1 ∈ number :: finished := by
      intro entry left
      rcases finishes entry (List.mem_of_mem_drop left) with next | before
      · rcases List.mem_cons.mp next with now | afterwards
        · exact .inr (List.mem_cons.mpr (.inl now))
        · exact .inl afterwards
      · exact .inr (List.mem_cons_of_mem number before)
    have others := inductionHypothesis (number :: finished) _ later stillBlocked
    generalize ready : due (number :: finished) waiting = now at split others
    let taken := (waiting.filter fun entry => entry.1 == number).map fun entry =>
      entry.2.takenUp logger
    have step : asFinished skipInvalid logger (number :: order) finished waiting =
        Judged.andThen ((judgeAll skipInvalid logger (now.map Prod.snd)).1,
          taken ++ (judgeAll skipInvalid logger (now.map Prod.snd)).2)
          (asFinished skipInvalid logger order (number :: finished)
            (waiting.drop now.length)) := by
      rw [asFinished, ready]
      obtain ⟨judged, entries⟩ := judgeAll skipInvalid logger (now.map Prod.snd)
      cases judged <;> rfl
    have first : Judged.unread ((judgeAll skipInvalid logger (now.map Prod.snd)).1,
        taken ++ (judgeAll skipInvalid logger (now.map Prod.snd)).2) =
          judgeAll skipInvalid logger (now.map Prod.snd) := by
      have readings : ∀ e ∈ taken, e.event = takenUpEvent := by
        intro e member
        obtain ⟨entry, -, rfl⟩ := List.mem_map.mp member
        rfl
      exact (Judged.unread_behind _ _ _ readings).trans (unread_judgeAll skipInvalid logger _)
    rw [step, Judged.unread_andThen, first, others, ← judgeAll_append, ← List.map_append, ← split]

/-- Readers of any number come to what the outcomes come to in order, if they finish every file. -/
theorem collect_eq_judgeAll (readers : Int) (order : List Nat) (outcomes : List Outcome)
    (finishes : ∀ number < outcomes.length, number ∈ order) :
    Judged.unread (collect readers order skipInvalid logger outcomes) =
      judgeAll skipInvalid logger outcomes := by
  rw [collect]
  split
  · exact oneByOne_eq_judgeAll skipInvalid logger outcomes
  · have files : (numbered outcomes).map Prod.snd = outcomes :=
      List.map_snd_zip (by simp)
    rw [asFinished_eq_judgeAll, files]
    · rintro ⟨number, outcome⟩ member
      exact .inl (finishes number (List.mem_range.mp (List.of_mem_zip member).1))
    · cases numbered outcomes <;> simp [due]

end

/-- The class that a file describes, if it describes one. -/
def Outcome.described? (outcome : Outcome) : Option ClassDescriptor := outcome.result.toOption

/-- Why a file describes no class, if it describes none. -/
def Outcome.failure? (outcome : Outcome) : Option Failure :=
  match outcome.result with
  | .ok _ => none
  | .error failure => some failure

/-- How a file is listed that describes no class. -/
def Outcome.skipped? (outcome : Outcome) : Option Skipped :=
  outcome.failure?.map fun failure => ⟨outcome.path, some failure⟩

/-- Where failing files are left out, all files are gone through: those that describe classes and
the others, each in the order of the files. -/
theorem judgeAll_lenient (logger : Logger) (outcomes : List Outcome) :
    (judgeAll true logger outcomes).1 =
      .ok (outcomes.filterMap Outcome.described?, outcomes.filterMap Outcome.skipped?) := by
  induction outcomes with
  | nil => rfl
  | cons outcome rest inductionHypothesis =>
    obtain ⟨path, result⟩ := outcome
    rw [judgeAll_cons, Judged.andThen_fst, inductionHypothesis, Outcome.judge]
    cases result <;> rfl

/-- Otherwise the first failing file ends everything, and without one nothing is left out. -/
theorem judgeAll_strict (logger : Logger) (outcomes : List Outcome) :
    (judgeAll false logger outcomes).1 =
      match outcomes.findSome? Outcome.failure? with
      | some failure => .error failure
      | none => .ok (outcomes.filterMap Outcome.described?, []) := by
  induction outcomes with
  | nil => rfl
  | cons outcome rest inductionHypothesis =>
    obtain ⟨path, result⟩ := outcome
    rw [judgeAll_cons, Judged.andThen_fst, inductionHypothesis, Outcome.judge]
    cases result with
    | error failure => rfl
    | ok described =>
      simp only [List.findSome?_cons, Outcome.failure?]
      cases rest.findSome? Outcome.failure? <;> rfl

/-- The classes collected are those that the files describe, in the order of the files. -/
theorem classes_of_judgeAll (skipInvalid : Bool) (logger : Logger) (outcomes : List Outcome)
    (classes : List ClassDescriptor) (skipped : List Skipped)
    (collected : (judgeAll skipInvalid logger outcomes).1 = .ok (classes, skipped)) :
    classes = outcomes.filterMap Outcome.described? := by
  cases skipInvalid with
  | true =>
    rw [judgeAll_lenient] at collected
    cases collected
    rfl
  | false =>
    rw [judgeAll_strict] at collected
    split at collected
    · cases collected
    · cases collected
      rfl

end TagAudit.Scan
