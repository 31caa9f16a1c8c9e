import TagAudit.Proofs.ClassFile.Extension

/-!
# Bytes that are passed over unseen

A run passes over some stretches of its input without looking at them. What stands there makes no
difference: two inputs of one length that differ in such stretches only are read alike, step by
step, whether they are accepted or refused. Even which stretches are passed over is decided by the
bytes in between, so it does not matter of which of the two inputs they are taken.

The stretches are found by running, since what one byte says may decide whether a later one is
looked at. A run that fails has passed over those before the failure, and nothing behind.
-/

namespace TagAudit.ClassFile

/-- A position lies in one of some stretches, each given by its first position and its length. -/
def Within (stretches : List (Nat × Nat)) (position : Nat) : Prop :=
  ∃ stretch ∈ stretches, stretch.1 ≤ position ∧ position < stretch.1 + stretch.2

instance (stretches : List (Nat × Nat)) (position : Nat) :
    Decidable (Within stretches position) :=
  inferInstanceAs (Decidable (∃ stretch ∈ stretches, _ ∧ _))

namespace Cursor

/-- Two cursors stand at the same position, with as many bytes left, and these differ in some
stretches only. -/
structure AgreeOutside (stretches : List (Nat × Nat)) (c d : Cursor) : Prop where
  offset : d.offset = c.offset
  length : d.rest.length = c.rest.length
  bytes : ∀ i < c.rest.length, ¬Within stretches (c.offset + i) → d.rest[i]? = c.rest[i]?

variable {stretches : List (Nat × Nat)} {c d after : Cursor} {width : Nat} {taken : List UInt8}

/-- Bytes that are missing for one cursor are missing for the other. -/
theorem AgreeOutside.take_error (agree : AgreeOutside stretches c d) {defect : Defect}
    (missing : c.take width = .error defect) : d.take width = .error defect := by
  obtain ⟨short, rfl⟩ := (take_eq_error_iff c width defect).mp missing
  apply (take_eq_error_iff d width _).mpr
  rw [agree.offset, agree.length]
  exact ⟨short, rfl⟩

/-- Both cursors take bytes, and agree behind them. The bytes taken are the same if no stretch
begins or goes on among them. -/
theorem AgreeOutside.take_ok (agree : AgreeOutside stretches c d)
    (found : c.take width = .ok (taken, after)) :
    ∃ takenToo afterToo, d.take width = .ok (takenToo, afterToo) ∧
      AgreeOutside stretches after afterToo ∧
      ((∀ i < width, ¬Within stretches (c.offset + i)) → takenToo = taken) := by
  obtain ⟨counted, joined, moved⟩ := (take_eq_ok_iff c width taken after).mp found
  have enough : width ≤ d.rest.length := by
    rw [agree.length, joined, List.length_append]
    omega
  have split := (List.take_append_drop width d.rest).symm
  have countedToo : (d.rest.take width).length = width := List.length_take_of_le enough
  refine ⟨d.rest.take width, ⟨d.offset + width, d.rest.drop width⟩,
    (take_eq_ok_iff d width _ _).mpr ⟨countedToo, split, rfl⟩, ⟨?_, ?_, ?_⟩, ?_⟩
  · rw [moved, agree.offset]
  · rw [List.length_drop, agree.length, joined, List.length_append]
    omega
  · intro i inside outside
    have same := agree.bytes (width + i) (by rw [joined, List.length_append]; omega)
      (by rwa [moved, Nat.add_assoc] at outside)
    rw [joined, List.getElem?_append_right (by omega), counted, Nat.add_sub_cancel_left] at same
    rw [List.getElem?_drop]
    exact same
  · intro clear
    apply List.ext_getElem?
    intro i
    by_cases inside : i < width
    · have same := agree.bytes i (by rw [joined, List.length_append]; omega) (clear i inside)
      rw [joined, List.getElem?_append_left (by omega)] at same
      rw [List.getElem?_take_of_lt inside]
      exact same
    · rw [List.getElem?_eq_none (by omega), List.getElem?_eq_none (by omega)]

/-- Cursors that agree outside of some stretches agree outside of others, if these cover the same
positions from the cursors on. -/
theorem AgreeOutside.exchange (agree : AgreeOutside stretches c d) {others : List (Nat × Nat)}
    (covers : ∀ position, c.offset ≤ position → Within stretches position →
      Within others position) : AgreeOutside others c d where
  offset := agree.offset
  length := agree.length
  bytes := fun i inside outside =>
    agree.bytes i inside (mt (covers _ (Nat.le_add_right _ _)) outside)

end Cursor

namespace Reading

variable {α : Type}

/-- A run passes over stretches from its cursor on. -/
theorem le_of_mem_unseen (r : Reading α) (c : Cursor) (stretch : Nat × Nat)
    (among : stretch ∈ r.unseen c) : c.offset ≤ stretch.1 := by
  induction r generalizing c with
  | done value => cases among
  | fail defect => cases among
  | take width next inductionHypothesis =>
    rw [unseen] at among
    cases found : c.take width with
    | error defect => simp [found] at among
    | ok step =>
      have moved := ((Cursor.take_eq_ok_iff c width step.1 step.2).mp found).2.2
      have onward := inductionHypothesis step.1 step.2 (by simpa only [found] using among)
      omega
  | skip width next inductionHypothesis =>
    rw [unseen] at among
    cases found : c.take width with
    | error defect => simp [found] at among
    | ok step =>
      have moved := ((Cursor.take_eq_ok_iff c width step.1 step.2).mp found).2.2
      simp only [found, List.mem_cons] at among
      rcases among with rfl | later
      · exact Nat.le_refl c.offset
      · have onward := inductionHypothesis step.2 later
        omega
  | position next inductionHypothesis => exact inductionHypothesis c.offset c among

/-- A run has passed over no position that lies before its cursor. -/
theorem not_within_unseen (r : Reading α) (c : Cursor) (position : Nat)
    (before : position < c.offset) : ¬Within (r.unseen c) position := by
  rintro ⟨stretch, among, begun, _⟩
  have onward := le_of_mem_unseen r c stretch among
  omega

/-- Two runs end alike: with the same defect, or with the same value at the same position and as
many bytes left. -/
def EndAlike : Except Defect (α × Cursor) → Except Defect (α × Cursor) → Prop
  | .ok (value, after), .ok (valueToo, afterToo) =>
    valueToo = value ∧ afterToo.offset = after.offset ∧ afterToo.rest.length = after.rest.length
  | .error defect, .error defectToo => defectToo = defect
  | _, _ => False

/-- What a run passes over unseen influences neither its end nor what it passes over. -/
theorem run_of_agreeOutside (r : Reading α) (c d : Cursor)
    (agree : c.AgreeOutside (r.unseen c) d) :
    EndAlike (r.run c) (r.run d) ∧ r.unseen d = r.unseen c := by
  induction r generalizing c d with
  | done value => exact ⟨⟨rfl, agree.offset, agree.length⟩, rfl⟩
  | fail defect => exact ⟨rfl, rfl⟩
  | take width next inductionHypothesis =>
    cases found : c.take width with
    | error defect =>
      have foundToo := agree.take_error found
      simp only [run, unseen, found, foundToo]
      exact ⟨rfl, trivial⟩
    | ok step =>
      obtain ⟨taken, after⟩ := step
      have moved := ((Cursor.take_eq_ok_iff c width taken after).mp found).2.2
      simp only [unseen, found] at agree
      obtain ⟨takenToo, afterToo, foundToo, agreeBehind, sameTaken⟩ := agree.take_ok found
      -- All that is passed over lies behind what is taken here.
      obtain rfl := sameTaken fun i inside =>
        not_within_unseen (next taken) after (c.offset + i) (by omega)
      simp only [run, unseen, found, foundToo]
      exact inductionHypothesis takenToo after afterToo agreeBehind
  | skip width next inductionHypothesis =>
    cases found : c.take width with
    | error defect =>
      have foundToo := agree.take_error found
      simp only [run, unseen, found, foundToo]
      exact ⟨rfl, trivial⟩
    | ok step =>
      obtain ⟨taken, after⟩ := step
      have moved := ((Cursor.take_eq_ok_iff c width taken after).mp found).2.2
      simp only [unseen, found] at agree
      obtain ⟨takenToo, afterToo, foundToo, agreeBehind, _⟩ := agree.take_ok found
      -- Behind the stretch of this step only the later ones count.
      have agreeOnward : after.AgreeOutside (next.unseen after) afterToo := by
        refine agreeBehind.exchange fun position behind within => ?_
        obtain ⟨stretch, among, begun, ended⟩ := within
        rcases List.mem_cons.mp among with rfl | later
        · dsimp only at ended
          omega
        · exact ⟨stretch, later, begun, ended⟩
      obtain ⟨ending, same⟩ := inductionHypothesis after afterToo agreeOnward
      simp only [run, unseen, found, foundToo, agree.offset, same]
      exact ⟨ending, trivial⟩
  | position next inductionHypothesis =>
    simp only [run, unseen, agree.offset]
    exact inductionHypothesis c.offset c d agree

end Reading

/-- The stretches of an input that are passed over when a class is read from it. -/
def unseenIn (data : List UInt8) : List (Nat × Nat) :=
  (classReading data.length).unseen (.start data)

/-- Runs that end alike amount to the same. -/
theorem settled_of_endAlike {outcome other : Except Defect (ClassDescriptor × Cursor)}
    (alike : Reading.EndAlike outcome other) : settled other = settled outcome := by
  match outcome, other, alike with
  | .error _, .error _, rfl => rfl
  | .ok (described, after), .ok (_, afterToo), ⟨rfl, _, sameLength⟩ =>
    have sameEnd : afterToo.rest = [] ↔ after.rest = [] := by
      rw [← List.length_eq_zero_iff, sameLength, List.length_eq_zero_iff]
    simp only [settled, sameEnd, sameLength]

/-- An input and another of its length that differs from it only where it is passed over unseen have
the same verdict: the same class, or the same failure with the same values in it. They are also
passed over in the same stretches. -/
theorem verdict_of_same_outside_unseen (source : Option Text) (data changed : List UInt8)
    (sameLength : changed.length = data.length)
    (same : ∀ i < data.length, ¬Within (unseenIn data) i → changed[i]? = data[i]?) :
    verdict source changed = verdict source data ∧ unseenIn changed = unseenIn data := by
  have agree : (Cursor.start data).AgreeOutside (unseenIn data) (.start changed) :=
    ⟨rfl, sameLength, fun i inside outside =>
      same i inside (by rwa [Cursor.start, Nat.zero_add] at outside)⟩
  obtain ⟨ending, unseen⟩ := Reading.run_of_agreeOutside _ _ _ agree
  constructor
  · rw [verdict, verdict, parse_eq_settled changed data.length (by omega),
      parse_eq_settled data data.length (Nat.le_refl _), settled_of_endAlike ending]
  · rw [unseenIn, sameLength]
    exact unseen

/-- The bytes of a class with the reference `reference` in its pool, one interface, one method with
an attribute, and an attribute of its own, of the versions and the parent given. -/
def surroundedClass (versions reference parent : List UInt8) : List UInt8 :=
  [0xCA, 0xFE, 0xBA, 0xBE] ++ versions ++ [0, 4, 7, 0, 2, 1, 0, 1, 0x41, 10] ++ reference
    ++ [0, 33, 0, 1] ++ parent ++ [0, 1] ++ parent ++ [0, 0, 0, 1] ++ versions ++ parent
    ++ [0, 1] ++ parent ++ [0, 0, 0, 2] ++ parent ++ [0, 1] ++ parent ++ [0, 0, 0, 4] ++ reference

/-- Versions, references, parents, interfaces, methods and the insides of attributes may be
exchanged, both in a class that is accepted and in one that a byte too many is behind. -/
theorem surroundedClass_exchanged :
    let data := surroundedClass [0, 0, 0, 52] [0, 1, 0, 1] [0, 0]
    let changed := surroundedClass [9, 9, 9, 9] [9, 9, 9, 9] [9, 9]
    unseenIn data = [(4, 2), (6, 2), (18, 4), (26, 2), (30, 2), (36, 6), (44, 2), (50, 2),
        (54, 2), (60, 4)] ∧
      (verdict none data).toOption.map ClassDescriptor.name = some ("A" : Text) ∧
      verdict none changed = verdict none data ∧
      (verdict none (data ++ [0])).toOption.map ClassDescriptor.name = none ∧
      verdict none (changed ++ [0]) = verdict none (data ++ [0]) := by
  refine ⟨by decide +kernel, by decide +kernel, ?_, by decide +kernel, ?_⟩
  · exact (verdict_of_same_outside_unseen none _ _ (by decide) (by decide +kernel)).1
  · exact (verdict_of_same_outside_unseen none _ _ (by decide) (by decide +kernel)).1

end TagAudit.ClassFile
