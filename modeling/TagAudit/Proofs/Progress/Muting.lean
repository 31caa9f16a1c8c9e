import Mathlib.Data.List.Induction
import TagAudit.Log.Routing
import TagAudit.Progress
import TagAudit.Proofs.Keyed

/-!
# When the console is muted

Blocks and bars mute the console by one switch. Each of them sets it when it begins and clears it
when it is over, whatever else is still open. So the console is never muted without an open block
or a bar that is not over, in whatever order they come and go, but it is unmuted as soon as the
first of several is over. It stays muted as long as something is open exactly in those sessions
where nothing else is open whenever a block or a bar comes to its end.
-/

namespace TagAudit.Progress

open Log (Event)

variable {α : Type}

/-- Entries do not mute the console. -/
theorem mutedAfterAll_entries (muted : Bool) (entries : List Log.Entry) :
    Event.mutedAfterAll muted (entries.map Event.entry) = muted := by
  induction entries with
  | nil => rfl
  | cons entry rest inductionHypothesis => exact inductionHypothesis

/-- After events and more events the console is muted as the latter leave it. -/
theorem mutedAfterAll_append (muted : Bool) (events more : List Event) :
    Event.mutedAfterAll muted (events ++ more) =
      Event.mutedAfterAll (Event.mutedAfterAll muted events) more :=
  List.foldl_append

namespace Run

/-- A bar is drawn for a run that is not over. -/
def IsLive (run : Run α) : Prop := run.stage = .drawn

instance (run : Run α) : Decidable run.IsLive := inferInstanceAs (Decidable (_ = _))

/-- There is a bar for a run once it has begun. -/
def HasBar (run : Run α) (terminal : Bool) : Prop := (run.opened terminal).1.IsLive

/-- What becomes of the bar of a run, and of the console with it, when something is done to the
run. The proposition says when a bar comes to its end. -/
inductive Passes (ends : Prop) (before after : Run α) (events : List Event) : Prop where
  | ended (happens : ends) (gone : ¬after.IsLive)
      (unmuted : ∀ muted, Event.mutedAfterAll muted events = false)
  | begun (goesOn : ¬ends) (live : after.IsLive)
      (muted : ∀ muted, Event.mutedAfterAll muted events = true)
  | kept (goesOn : ¬ends) (same : after.IsLive ↔ before.IsLive)
      (quiet : ∀ muted, Event.mutedAfterAll muted events = muted)

/-- What ends no bar at all ends none for other reasons either. It does not matter how far the run
has come apart from its bar. -/
theorem Passes.of_false {ends : Prop} {before after other : Run α} {events : List Event}
    (passes : Passes False before after events) (goesOn : ¬ends)
    (alike : other.IsLive ↔ after.IsLive) : Passes ends before other events := by
  cases passes with
  | ended happens _ _ => exact happens.elim
  | begun _ live muted => exact .begun goesOn (alike.mpr live) muted
  | kept _ same quiet => exact .kept goesOn (alike.trans same) quiet

section
variable (run : Run α) (terminal : Bool)

/-- A run that is over has no bar. -/
theorem not_isLive_ended : ¬run.ended.IsLive := by
  simp [IsLive, ended]

/-- A run begins with the items that are left. -/
theorem left_opened : (run.opened terminal).1.left = run.left := by
  unfold opened
  split
  · split <;> rfl
  · rfl

/-- A run whose bar cannot be shown would have one. -/
theorem hasBar_of_unshown {problem : Markup.Problem}
    (unshown : run.unshown? terminal = some problem) : run.HasBar terminal := by
  rw [unshown?] at unshown
  split at unshown
  · rename_i begins
    rw [Bool.and_eq_true, decide_eq_true_eq] at begins
    rw [HasBar, opened, begins.1]
    simp [IsLive, begins.2]
  · cases unshown

/-- To begin a run is to draw its bar or not to touch any. -/
theorem opened_passes : Passes False run (run.opened terminal).1 (run.opened terminal).2 := by
  unfold opened
  cases stage : run.stage with
  | waiting =>
    dsimp only
    split
    · exact .begun not_false rfl fun _ => rfl
    · exact .kept not_false (by simp [IsLive, stage]) fun _ => rfl
  | traced => exact .kept not_false .rfl fun _ => rfl
  | drawn => exact .kept not_false .rfl fun _ => rfl
  | finished => exact .kept not_false .rfl fun _ => rfl

/-- The end of a run unmutes the console if there is a bar. -/
theorem mutedAfterAll_ending (muted : Bool) :
    Event.mutedAfterAll muted run.ending = (muted && !decide run.IsLive) := by
  rw [ending]
  cases stage : run.stage <;>
    simp [IsLive, stage, Event.mutedAfterAll, Event.mutedAfter, note]

/-- To close a run early unmutes the console if there is a bar. -/
theorem mutedAfterAll_close (muted : Bool) :
    Event.mutedAfterAll muted run.close.2 = (muted && !decide run.IsLive) := by
  rw [close]
  cases stage : run.stage <;> simp [IsLive, stage, Event.mutedAfterAll, Event.mutedAfter]

/-- A run that was closed is over. -/
theorem close_fst : run.close.1 = run.ended := by
  unfold close
  split <;> rfl

/-- To close a run is to end its bar, if it has one. -/
theorem close_passes : Passes run.IsLive run run.close.1 run.close.2 := by
  rw [close_fst]
  by_cases live : run.IsLive
  · exact .ended live run.not_isLive_ended fun muted => by simp [mutedAfterAll_close, live]
  · exact .kept live (iff_of_false run.not_isLive_ended live) fun muted => by
      simp [mutedAfterAll_close, live]

/-- To go through all of a run is to end its bar, if it has one once it has begun. -/
theorem through_passes : Passes (run.HasBar terminal) run (run.opened terminal).1.ended
    ((run.opened terminal).2 ++ (run.opened terminal).1.ending) := by
  by_cases bar : (run.opened terminal).1.IsLive
  · refine .ended bar (not_isLive_ended _) fun muted => ?_
    rw [mutedAfterAll_append, mutedAfterAll_ending, decide_eq_true bar, Bool.not_true,
      Bool.and_false]
  · cases run.opened_passes terminal with
    | ended happens _ _ => exact happens.elim
    | begun _ live _ => exact (bar live).elim
    | kept _ same quiet =>
      refine .kept bar (iff_of_false (not_isLive_ended _) (mt same.mpr bar)) fun muted => ?_
      rw [mutedAfterAll_append, quiet, mutedAfterAll_ending, decide_eq_false bar, Bool.not_false,
        Bool.and_true]

/-- To ask for all items is to end the bar of the run, if it has one once it has begun. -/
theorem drain_passes :
    Passes (run.HasBar terminal) run (run.drain terminal).2.1 (run.drain terminal).2.2 := by
  rw [drain]
  cases unshown : run.unshown? terminal with
  | some problem =>
    have bar := run.hasBar_of_unshown terminal unshown
    exact .ended bar run.not_isLive_ended fun _ => rfl
  | none => exact run.through_passes terminal

/-- To ask for an item is to end the bar of the run, if it has one once it has begun and there are
no items left or the bar cannot be shown. -/
theorem next_passes :
    Passes (run.HasBar terminal ∧ (run.left = [] ∨ (run.unshown? terminal).isSome)) run
      (run.next terminal).2.1 (run.next terminal).2.2 := by
  rw [next]
  cases unshown : run.unshown? terminal with
  | some problem =>
    have bar := run.hasBar_of_unshown terminal unshown
    exact .ended ⟨bar, .inr rfl⟩ run.not_isLive_ended fun _ => rfl
  | none =>
    have left := run.left_opened terminal
    dsimp only
    cases items : (run.opened terminal).1.left with
    | nil =>
      rw [← left, items]
      simpa using run.through_passes terminal
    | cons item rest =>
      exact (run.opened_passes terminal).of_false (by simp [← left, items]) .rfl

/-- A run that begins mutes the console if it draws a bar. -/
theorem mute_mem_opened_iff (waiting : run.stage = .waiting) :
    Event.mute ∈ (run.opened terminal).2 ↔ run.wantsBar terminal = true := by
  rw [opened, waiting]
  by_cases bar : run.wantsBar terminal = true
  · simp [bar]
  · simp [bar, note]

/-- The end of a run mutes nothing. -/
theorem mute_not_mem_ending : Event.mute ∉ run.ending := by
  rw [ending]
  cases run.stage <;> simp [note]

/-- To close a run mutes nothing. -/
theorem mute_not_mem_close : Event.mute ∉ run.close.2 := by
  rw [close]
  cases run.stage <;> simp

/-- From the beginning of a run to its end an unmuted console is muted for the bar alone. -/
theorem unmuted_through {closing : List Event} (closes : ∀ muted,
    Event.mutedAfterAll muted closing = (muted && !decide (run.opened terminal).1.IsLive)) :
    Event.mutedAfterAll (Event.mutedAfterAll false (run.opened terminal).2) closing = false := by
  rw [closes]
  cases run.opened_passes terminal with
  | ended happens _ _ => exact happens.elim
  | begun _ live _ => rw [decide_eq_true live, Bool.not_true, Bool.and_false]
  | kept _ _ quiet => rw [quiet, Bool.false_and]

end

end Run

namespace Step

/-- A run that a step creates has not begun. -/
def IsFresh : Step α → Prop
  | create _ run => run.stage = .waiting
  | _ => True

/-- How many blocks are open after a step. -/
def blocksAfter (blocks : Nat) : Step α → Nat
  | enter => blocks + 1
  | leave => blocks - 1
  | _ => blocks

end Step

/-- How many blocks are open after steps from the beginning on. -/
def blocksOpen (steps : List (Step α)) : Nat := steps.foldl Step.blocksAfter 0

namespace Session

/-- A block is open, or a bar is drawn for a run that is not over. -/
def IsBusy (s : Session α) (blocks : Nat) : Prop := 0 < blocks ∨ ∃ name, (s.run name).IsLive

/-- A step ends something: a block or the bar of a run. A bar that cannot be shown is over as soon
as it has begun. -/
def Ends (s : Session α) : Step α → Prop
  | .leave => True
  | .create name _ | .close name => (s.run name).IsLive
  | .drain name => (s.run name).HasBar s.terminal
  | .next name => (s.run name).HasBar s.terminal ∧
      ((s.run name).left = [] ∨ ((s.run name).unshown? s.terminal).isSome)
  | .enter | .setTerminal _ => False

/-- What a step changes: something is over, something has begun, or neither. Nothing is open after
the first or the last that was not open before. -/
inductive Change (s : Session α) (blocks : Nat) (step : Step α) : Prop where
  | ended (ends : s.Ends step)
      (back : step.IsFresh → (s.step step).1.IsBusy (step.blocksAfter blocks) → s.IsBusy blocks)
      (unmuted : (s.step step).1.muted = false)
  | begun (goesOn : ¬s.Ends step) (busy : (s.step step).1.IsBusy (step.blocksAfter blocks))
      (muted : (s.step step).1.muted = true)
  | kept (goesOn : ¬s.Ends step)
      (forth : s.IsBusy blocks → (s.step step).1.IsBusy (step.blocksAfter blocks))
      (back : step.IsFresh → (s.step step).1.IsBusy (step.blocksAfter blocks) → s.IsBusy blocks)
      (quiet : (s.step step).1.muted = s.muted)

section
variable (s : Session α) (blocks : Nat) (name : Text) (run : Run α) (events : List Event)

/-- After something was done to a run, it is as that left it, and all others are as they were. -/
theorem run_after (other : Text) :
    (s.after name run events).run other = if other = name then run else s.run other := by
  unfold Session.run after
  split
  · rename_i same
    rw [same, Keyed.get?_put_self]
    rfl
  · rename_i different
    rw [Keyed.get?_put_of_ne name other run s.runs different]

variable {s blocks name run events}

/-- Something is open if a block is, or the bar of a run or that of another run. -/
theorem isBusy_iff (name : Text) : s.IsBusy blocks ↔
    0 < blocks ∨ (s.run name).IsLive ∨ ∃ other ≠ name, (s.run other).IsLive := by
  refine or_congr_right ⟨?_, ?_⟩
  · rintro ⟨other, live⟩
    by_cases same : other = name
    · exact .inl (same ▸ live)
    · exact .inr ⟨other, same, live⟩
  · rintro (live | ⟨other, -, live⟩)
    · exact ⟨name, live⟩
    · exact ⟨other, live⟩

/-- After something was done to a run, its bar is what has become of it, and those of all others are
as they were. -/
theorem isBusy_after_iff : (s.after name run events).IsBusy blocks ↔
    0 < blocks ∨ run.IsLive ∨ ∃ other ≠ name, (s.run other).IsLive := by
  have others : (∃ other ≠ name, ((s.after name run events).run other).IsLive) ↔
      ∃ other ≠ name, (s.run other).IsLive :=
    exists_congr fun other => and_congr_right fun different => by
      rw [run_after, if_neg different]
  rw [isBusy_iff name, run_after, if_pos rfl, others]

/-- What becomes of a run is what a step changes that does nothing else. -/
theorem Change.of_passes {step : Step α} (stepped : (s.step step).1 = s.after name run events)
    (sameBlocks : step.blocksAfter blocks = blocks)
    (passes : Run.Passes (s.Ends step) (s.run name) run events) : s.Change blocks step := by
  have muted : (s.step step).1.muted = Event.mutedAfterAll s.muted events := by
    rw [stepped]
    rfl
  cases passes with
  | ended ends gone unmuted =>
    refine .ended ends ?_ (muted.trans (unmuted _))
    rw [stepped, sameBlocks, isBusy_after_iff, isBusy_iff name]
    exact fun _ => Or.imp_right (Or.imp_left fun live => (gone live).elim)
  | begun goesOn live mutes =>
    refine .begun goesOn ?_ (muted.trans (mutes _))
    rw [stepped, isBusy_after_iff]
    exact .inr (.inl live)
  | kept goesOn same quiet =>
    refine .kept goesOn ?_ ?_ (muted.trans (quiet _))
    · rw [stepped, sameBlocks, isBusy_after_iff, isBusy_iff name]
      exact Or.imp_right (Or.imp_left same.mpr)
    · rw [stepped, sameBlocks, isBusy_after_iff, isBusy_iff name]
      exact fun _ => Or.imp_right (Or.imp_left same.mp)

/-- After a run that has not begun was put in the place of another one, nothing is open that was not
open before. -/
theorem isBusy_of_created (waiting : run.stage = .waiting)
    (busy : (s.after name run events).IsBusy blocks) : s.IsBusy blocks := by
  have notLive : ¬run.IsLive := by simp [Run.IsLive, waiting]
  rw [isBusy_iff name]
  exact (isBusy_after_iff.mp busy).imp_right (Or.imp_left fun live => (notLive live).elim)

end

/-- Every step ends something, begins something or does neither. -/
theorem change (s : Session α) (blocks : Nat) (step : Step α) : s.Change blocks step := by
  cases step with
  | setTerminal terminal => exact .kept not_false id (fun _ => id) rfl
  | enter => exact .begun not_false (.inl (Nat.succ_pos blocks)) rfl
  | leave =>
    have fewer : blocks - 1 ≤ blocks := Nat.sub_le blocks 1
    exact .ended trivial (fun _ => Or.imp_left fun more => Nat.lt_of_lt_of_le more fewer) rfl
  | next name => exact .of_passes rfl rfl ((s.run name).next_passes s.terminal)
  | drain name => exact .of_passes rfl rfl ((s.run name).drain_passes s.terminal)
  | close name => exact .of_passes rfl rfl (s.run name).close_passes
  | create name run =>
    -- The run that was there is closed, and another is put in its place.
    cases (s.run name).close_passes with
    | ended ends _ unmuted => exact .ended ends isBusy_of_created (unmuted _)
    | begun _ live _ =>
      rw [Run.close_fst] at live
      exact ((s.run name).not_isLive_ended live).elim
    | kept goesOn _ quiet =>
      refine .kept goesOn (fun busy => ?_) isBusy_of_created (quiet _)
      rw [isBusy_iff name] at busy
      exact isBusy_after_iff.mpr (busy.imp_right (Or.imp_left fun live => (goesOn live).elim))

/-- What opens something where nothing was open mutes the console. -/
theorem muted_of_opened {s : Session α} {blocks : Nat} {step : Step α} (fresh : step.IsFresh)
    (idle : ¬s.IsBusy blocks) (busy : (s.step step).1.IsBusy (step.blocksAfter blocks)) :
    (s.step step).1.muted = true := by
  cases s.change blocks step with
  | ended _ back _ => exact (idle (back fresh busy)).elim
  | begun _ _ muted => exact muted
  | kept _ _ back _ => exact (idle (back fresh busy)).elim

/-- A session in which nothing has been done. -/
def start (terminal : Bool) : Session α := { terminal }

/-- The session after steps. -/
def taking (s : Session α) (steps : List (Step α)) : Session α :=
  steps.foldl (fun s step => (s.step step).1) s

/-- Each step is taken from the session to which the steps before it lead. -/
theorem getElem?_steps (s : Session α) (steps : List (Step α)) (n : Nat) :
    (s.steps steps)[n]? = steps[n]?.map fun step => (s.taking (steps.take n)).step step := by
  induction steps generalizing s n with
  | nil => simp [Session.steps]
  | cons step rest inductionHypothesis =>
    cases n with
    | zero => rfl
    | succ n => exact inductionHypothesis (s.step step).1 n

section
variable (s : Session α) {steps : List (Step α)} {n : Nat}

/-- One more step leads on from the session before it. -/
theorem taking_take_succ {step : Step α} (nth : steps[n]? = some step) :
    s.taking (steps.take (n + 1)) = ((s.taking (steps.take n)).step step).1 := by
  rw [taking, List.take_add_one, nth, Option.toList_some, List.foldl_append]
  rfl

/-- One more step opens or closes what it opens or closes. -/
theorem blocksOpen_take_succ {step : Step α} (nth : steps[n]? = some step) :
    blocksOpen (steps.take (n + 1)) = step.blocksAfter (blocksOpen (steps.take n)) := by
  rw [blocksOpen, List.take_add_one, nth, Option.toList_some, List.foldl_append]
  rfl

/-- What is reached is reached by a step from the session before it. -/
theorem exists_step_of_reached {taken : Session α × Answer α × List Log.Entry}
    (reached : (s.steps steps)[n]? = some taken) :
    ∃ step, steps[n]? = some step ∧ taken = (s.taking (steps.take n)).step step := by
  rw [getElem?_steps] at reached
  obtain ⟨step, nth, same⟩ := Option.map_eq_some_iff.mp reached
  exact ⟨step, nth, same.symm⟩

end

section
variable (s : Session α)

/-- The console is muted, and the streams that share the terminal write no record at all. -/
def IsSilent : Prop :=
  s.muted = true ∧ ∀ (output : LogOutput) (level : Log.Level) (record : Log.Record),
    output.destination.isStream → output.accepts level s.muted record = false

/-- The console is not muted, and every output writes what reaches its level and that of all
outputs. -/
def IsAudible : Prop :=
  s.muted = false ∧ ∀ (output : LogOutput) (level : Log.Level) (record : Log.Record),
    output.accepts level s.muted record =
      (record.entry.level.reaches level && record.entry.level.reaches (output.level.getD level))

/-- While the console is muted it is silent. -/
theorem isSilent_iff : s.IsSilent ↔ s.muted = true := by
  refine ⟨And.left, fun muted => ⟨muted, fun output level record stream => ?_⟩⟩
  rw [LogOutput.accepts, muted, stream, Bool.and_self, Bool.not_true, Bool.and_false]

/-- While the console is not muted nothing is held back. -/
theorem isAudible_iff : s.IsAudible ↔ s.muted = false := by
  refine ⟨And.left, fun unmuted => ⟨unmuted, fun output level record => ?_⟩⟩
  rw [LogOutput.accepts, unmuted, Bool.false_and, Bool.not_false, Bool.and_true]

end

/-- Without a block and without a run whose bar is drawn nothing is open. -/
theorem not_isBusy_of_runs {s : Session α} (nowhere : ∀ entry ∈ s.runs, ¬entry.2.IsLive) :
    ¬s.IsBusy 0 := by
  rintro (block | ⟨name, live⟩)
  · exact Nat.lt_irrefl 0 block
  · rw [Session.run] at live
    cases found : s.runs.get? name with
    | none =>
      rw [found] at live
      cases live
    | some run =>
      rw [found] at live
      exact nowhere _ (Keyed.mem_of_get?_eq_some name run s.runs found) live

/-- At the beginning nothing is open. -/
theorem not_isBusy_start (terminal : Bool) : ¬(start terminal : Session α).IsBusy 0 :=
  not_isBusy_of_runs (List.forall_mem_nil _)

section
variable (terminal : Bool) (steps : List (Step α))

/-- While the console is muted a block or a bar is open. -/
theorem isBusy_of_muted (muted : ((start terminal : Session α).taking steps).muted = true) :
    ((start terminal : Session α).taking steps).IsBusy (blocksOpen steps) := by
  induction steps using List.reverseRecOn with
  | nil => cases muted
  | append_singleton before step inductionHypothesis =>
    rw [taking, List.foldl_append] at muted ⊢
    rw [blocksOpen, List.foldl_append]
    cases ((start terminal : Session α).taking before).change (blocksOpen before) step with
    | ended _ _ unmuted => cases muted.symm.trans unmuted
    | begun _ busy _ => exact busy
    | kept _ forth _ quiet => exact forth (inductionHypothesis (quiet.symm.trans muted))

variable {steps}

/-- Where nothing comes to its end while something else is open, the console is muted while
anything is open. -/
theorem muted_of_isBusy (fresh : ∀ step ∈ steps, step.IsFresh)
    (apart : ∀ n step, steps[n]? = some step →
      ((start terminal : Session α).taking (steps.take n)).Ends step →
        ¬((start terminal : Session α).taking (steps.take (n + 1))).IsBusy
          (blocksOpen (steps.take (n + 1))))
    (n : Nat) (busy : ((start terminal : Session α).taking (steps.take n)).IsBusy
      (blocksOpen (steps.take n))) :
    ((start terminal : Session α).taking (steps.take n)).muted = true := by
  induction n with
  | zero => exact (not_isBusy_start terminal busy).elim
  | succ n inductionHypothesis =>
    cases nth : steps[n]? with
    | none =>
      have noMore : steps.take (n + 1) = steps.take n := by
        rw [List.take_add_one, nth, Option.toList_none, List.append_nil]
      rw [noMore] at busy ⊢
      exact inductionHypothesis busy
    | some step =>
      have among : step ∈ steps := List.mem_of_getElem? nth
      rw [taking_take_succ _ nth] at busy ⊢
      rw [blocksOpen_take_succ nth] at busy
      cases ((start terminal : Session α).taking (steps.take n)).change
          (blocksOpen (steps.take n)) step with
      | ended ends _ _ =>
        refine (apart n step nth ends ?_).elim
        rwa [taking_take_succ _ nth, blocksOpen_take_succ nth]
      | begun _ _ muted => exact muted
      | kept _ _ back quiet =>
        exact quiet.trans (inductionHypothesis (back (fresh step among) busy))

/-- The console is silent while a block or a bar is open, after every step of a session, exactly if
nothing comes to its end while another block or bar is open. -/
theorem silent_while_busy_iff (fresh : ∀ step ∈ steps, step.IsFresh) :
    (∀ n (taken : Session α × _), ((start terminal : Session α).steps steps)[n]? = some taken →
      taken.1.IsBusy (blocksOpen (steps.take (n + 1))) → taken.1.IsSilent) ↔
    ∀ n step (taken : Session α × _), steps[n]? = some step →
      ((start terminal : Session α).steps steps)[n]? = some taken →
      ((start terminal : Session α).taking (steps.take n)).Ends step →
        ¬taken.1.IsBusy (blocksOpen (steps.take (n + 1))) := by
  constructor
  · intro silent n step taken nth reached ends busy
    have muted := (silent n taken reached busy).1
    obtain ⟨_, nthToo, rfl⟩ := exists_step_of_reached _ reached
    obtain rfl := Option.some.inj (nth.symm.trans nthToo)
    cases ((start terminal : Session α).taking (steps.take n)).change
        (blocksOpen (steps.take n)) step with
    | ended _ _ unmuted => cases muted.symm.trans unmuted
    | begun goesOn _ _ => exact goesOn ends
    | kept goesOn _ _ _ => exact goesOn ends
  · intro apart n taken reached busy
    obtain ⟨step, nth, rfl⟩ := exists_step_of_reached _ reached
    rw [← taking_take_succ _ nth] at busy ⊢
    refine (isSilent_iff _).mpr (muted_of_isBusy terminal fresh ?_ (n + 1) busy)
    intro k step nth ends
    have reached : ((start terminal : Session α).steps steps)[k]? =
        some (((start terminal : Session α).taking (steps.take k)).step step) := by
      rw [getElem?_steps, nth, Option.map_some]
    rw [taking_take_succ _ nth]
    exact apart k step _ nth reached ends

end

/-- A run whose bar is drawn on a terminal. -/
def longRun : Run Nat := { total := some 101, left := List.range 101 }

/-- A bar and then a block, with nothing else open, keep the console silent. -/
theorem silent_one_after_another :
    let steps : List (Step Nat) :=
      [.create "a" longRun, .next "a", .drain "a", .enter, .leave]
    (∀ step ∈ steps, step.IsFresh) ∧ ∀ n (taken : Session Nat × _),
      ((start true).steps steps)[n]? = some taken →
        taken.1.IsBusy (blocksOpen (steps.take (n + 1))) → taken.1.IsSilent := by
  intro steps
  have fresh : ∀ step ∈ steps, step.IsFresh := by
    simp [steps, Step.IsFresh, longRun]
  refine ⟨fresh, (silent_while_busy_iff true fresh).mpr ?_⟩
  intro n step taken nth reached ends
  match n with
  | 0 =>
    cases nth
    cases ends
  | 1 =>
    cases nth
    rcases ends with ⟨_, none | unshown⟩
    · cases none
    · cases unshown
  | 2 =>
    cases reached
    exact not_isBusy_of_runs (by decide)
  | 3 =>
    cases nth
    cases ends
  | 4 =>
    cases reached
    exact not_isBusy_of_runs (by decide)
  | k + 5 => cases nth

/-- When the inner one of two blocks is left, the console is heard although the outer one is still
open. -/
theorem nested_blocks_heard :
    let steps : List (Step Nat) := [.enter, .enter, .leave]
    ∃ taken : Session Nat × _, ((start false).steps steps)[2]? = some taken ∧
      taken.1.IsBusy (blocksOpen (steps.take 3)) ∧ taken.1.muted = false ∧
      ∃ (output : LogOutput) (level : Log.Level) (record : Log.Record),
        output.destination.isStream ∧ output.accepts level taken.1.muted record = true := by
  intro steps
  exact ⟨_, rfl, .inl Nat.one_pos, rfl, {}, .info, ⟨⟨.info, "late", []⟩, [], false⟩, rfl, rfl⟩

end Session

end TagAudit.Progress
