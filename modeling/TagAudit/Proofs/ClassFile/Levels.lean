import TagAudit.Proofs.ClassFile.Productions
import TagAudit.Proofs.ClassFile.Walks

/-!
# Levels of nesting

A class file is read with as many levels of element values as it has bytes. That number is only a
way to say that nesting may go on: readings with enough levels for the bytes at hand run alike,
whether they succeed or fail, and end at the same place. So what is read from one input can be
compared with what is read from a longer one, which is read with more levels.
-/

namespace TagAudit.ClassFile

namespace Reading

variable {α β : Type}

/-- Two readings run alike, up to where they end, wherever at most a number of bytes is left. -/
def AgreeUpTo (bound : Nat) (r s : Reading α) : Prop :=
  ∀ c : Cursor, c.rest.length ≤ bound → r.walk c = s.walk c

/-- Readings that run alike come to the same. -/
theorem AgreeUpTo.run_eq {bound : Nat} {r s : Reading α} (agree : AgreeUpTo bound r s) (c : Cursor)
    (short : c.rest.length ≤ bound) : r.run c = s.run c := by
  rw [run_eq_walk, run_eq_walk, agree c short]

/-- A walk leaves no more bytes than there were. -/
theorem length_rest_le {r : Reading α} {c after : Cursor} {outcome : Except Defect α}
    (walked : r.walk c = (outcome, after)) : after.rest.length ≤ c.rest.length := by
  obtain ⟨used, joined, _⟩ := reaches_of_walk walked
  simp [joined]

/-- A reading runs like itself. -/
theorem AgreeUpTo.same (bound : Nat) (r : Reading α) : AgreeUpTo bound r r := fun _ _ => rfl

/-- Parts that run alike make wholes that run alike. -/
theorem AgreeUpTo.bind {bound : Nat} {r s : Reading α} {f g : α → Reading β}
    (first : AgreeUpTo bound r s) (next : ∀ value, AgreeUpTo bound (f value) (g value)) :
    AgreeUpTo bound (r.bind f) (s.bind g) := by
  intro c short
  rw [walk_bind, walk_bind, ← first c short]
  cases walked : r.walk c with
  | mk outcome after =>
    cases outcome with
    | error defect => rfl
    | ok value =>
      have fewer := length_rest_le walked
      exact next value after (by omega)

/-- Behind the same reading it is enough that what comes next runs alike. -/
theorem AgreeUpTo.behind {bound : Nat} (r : Reading α) {f g : α → Reading β}
    (next : ∀ value, AgreeUpTo bound (f value) (g value)) :
    AgreeUpTo bound (r.bind f) (r.bind g) :=
  (AgreeUpTo.same bound r).bind next

/-- What comes behind a byte needs to run alike on one byte less. -/
theorem AgreeUpTo.behind_u1 {bound : Nat} {f g : Nat → Reading β}
    (next : ∀ value, AgreeUpTo bound (f value) (g value)) :
    AgreeUpTo (bound + 1) (u1.bind f) (u1.bind g) := by
  intro c short
  rw [walk_bind, walk_bind]
  cases walked : u1.walk c with
  | mk outcome after =>
    cases outcome with
    | error defect => rfl
    | ok value =>
      obtain ⟨used, joined, _, one⟩ :=
        (run_eq_ok_iff u1 c after value).mp (walk_eq_ok_iff.mp walked)
      have counted : used.length = 1 := by
        obtain ⟨taken, later, counted, same, rest⟩ := (reads_take _ _ _ _ _).mp one
        obtain ⟨rfl, _⟩ := (reads_done _ _ _ _).mp rest
        simpa [same] using counted
      rw [joined, List.length_append, counted] at short
      exact next value after (by omega)

/-- Repetitions of readings that run alike run alike. -/
theorem AgreeUpTo.timesOnto {bound : Nat} {r s : Reading α} (step : AgreeUpTo bound r s)
    (count : Nat) (reversed : List α) :
    AgreeUpTo bound (Reading.timesOnto r count reversed) (Reading.timesOnto s count reversed) := by
  induction count generalizing reversed with
  | zero => exact .same bound _
  | succ count inductionHypothesis =>
    exact step.bind fun value => inductionHypothesis (value :: reversed)

/-- Counted repetitions of readings that run alike run alike. -/
theorem AgreeUpTo.counted {bound : Nat} {r s : Reading α} (step : AgreeUpTo bound r s) :
    AgreeUpTo bound (Reading.counted r) (Reading.counted s) :=
  AgreeUpTo.behind u2 fun count => step.timesOnto count []

end Reading

open Reading

variable (pool : ConstantPool)

/-- Annotations run alike when the values in them do. -/
theorem annotationOver_agrees {bound : Nat} {inner other : Reading ElementValue}
    (values : AgreeUpTo bound inner other) :
    AgreeUpTo bound (annotationOver pool inner) (annotationOver pool other) := by
  rw [annotationOver_eq, annotationOver_eq]
  apply AgreeUpTo.behind
  intro desc
  apply AgreeUpTo.bind
  · apply AgreeUpTo.counted
    apply AgreeUpTo.behind
    intro name
    exact values.bind fun value => .same bound _
  · intro pairs
    exact .same bound _

/-- One level more needs the level below only where one byte less is left. -/
theorem elementValueOver_agrees {bound : Nat} {inner other : Reading ElementValue}
    (values : AgreeUpTo bound inner other) :
    AgreeUpTo (bound + 1) (elementValueOver pool fun _ => inner)
      (elementValueOver pool fun _ => other) := by
  rw [elementValueOver_eq, elementValueOver_eq]
  apply AgreeUpTo.behind
  intro offset
  apply AgreeUpTo.behind_u1
  intro tag
  cases ElementForm.ofTag? tag with
  | none => exact .same bound _
  | some form =>
    cases form with
    | nested => exact (annotationOver_agrees pool values).bind fun a => .same bound _
    | array => exact values.counted.bind fun items => .same bound _
    | _ => exact .same bound _

/-- An element value of fewer than a number of levels, with whatever is done where no level is
left. -/
def elementValueWithin (beyond : Reading ElementValue) : (levels : Nat) → Reading ElementValue
  | 0 => beyond
  | levels + 1 => elementValueOver pool fun _ => elementValueWithin beyond levels

/-- Without bytes, the byte of the tag is missing. -/
theorem elementValueOver_walk_nil (inner : Unit → Reading ElementValue) (offset : Nat) :
    (elementValueOver pool inner).walk ⟨offset, []⟩ =
      (.error (.truncated offset 1 0), ⟨offset, []⟩) := by
  rw [elementValueOver_eq]
  rfl

/-- With more levels than bytes that are left, what would be done beyond the levels is never done.
As many levels as bytes are enough to read alike. -/
theorem elementValueWithin_agrees (beyond : Reading ElementValue) (bound levels more : Nat)
    (further : bound < levels) (enough : bound ≤ more) :
    AgreeUpTo bound (elementValueWithin pool beyond levels) (elementValue pool more) := by
  induction bound generalizing levels more with
  | zero =>
    rintro ⟨offset, rest⟩ none
    obtain rfl : rest = [] := List.length_eq_zero_iff.mp (Nat.le_zero.mp none)
    cases levels with
    | zero => omega
    | succ levels =>
      rw [elementValueWithin, elementValueOver_walk_nil]
      cases more with
      | zero => rfl
      | succ more => rw [elementValue, elementValueOver_walk_nil]
  | succ bound inductionHypothesis =>
    cases levels with
    | zero => omega
    | succ levels =>
      cases more with
      | zero => omega
      | succ more =>
        apply elementValueOver_agrees
        exact inductionHypothesis levels more (by omega) (by omega)

/-- Where levels are as many as the bytes that are left, their number makes no difference. -/
theorem elementValue_agrees (bound levels more : Nat) (enough : bound ≤ levels)
    (alsoEnough : bound ≤ more) :
    AgreeUpTo bound (elementValue pool levels) (elementValue pool more) := by
  have within (levels : Nat) (enough : bound ≤ levels) :=
    elementValueWithin_agrees pool (.done .null) bound (bound + 1) levels bound.lt_succ_self enough
  intro c short
  exact (within levels enough c short).symm.trans (within more alsoEnough c short)

/-- Annotations of an attribute are read alike with levels that the bytes cannot exceed. -/
theorem annotationsReading_agrees (bound levels more declared : Nat) (enough : bound ≤ levels)
    (alsoEnough : bound ≤ more) :
    AgreeUpTo bound (annotationsReading pool levels declared)
      (annotationsReading pool more declared) := by
  have annotation : AgreeUpTo bound (annotationReading pool levels)
      (annotationReading pool more) :=
    annotationOver_agrees pool (elementValue_agrees pool bound levels more enough alsoEnough)
  rw [annotationsReading_eq, annotationsReading_eq]
  apply AgreeUpTo.behind
  intro start
  exact annotation.counted.bind fun annotations => .same bound _

/-- Attributes of a field are read alike with levels that the bytes cannot exceed. -/
theorem fieldAttribute_agrees (bound levels more : Nat) (isStatic : Bool) (enough : bound ≤ levels)
    (alsoEnough : bound ≤ more) :
    AgreeUpTo bound (fieldAttribute pool levels isStatic) (fieldAttribute pool more isStatic) := by
  rw [fieldAttribute_eq, fieldAttribute_eq]
  apply AgreeUpTo.behind
  intro name
  apply AgreeUpTo.behind
  intro length
  split
  · exact annotationsReading_agrees pool bound levels more length enough alsoEnough
  · exact .same bound _

/-- Fields are read alike with levels that the bytes cannot exceed. -/
theorem fieldReading_agrees (bound levels more : Nat) (enough : bound ≤ levels)
    (alsoEnough : bound ≤ more) :
    AgreeUpTo bound (fieldReading pool levels) (fieldReading pool more) := by
  have attributed (isStatic : Bool) :=
    fieldAttribute_agrees pool bound levels more isStatic enough alsoEnough
  rw [fieldReading_eq, fieldReading_eq]
  apply AgreeUpTo.behind
  intro flags
  apply AgreeUpTo.behind
  intro name
  apply AgreeUpTo.behind
  intro descriptor
  exact (attributed _).counted.bind fun annotations => .same bound _

/-- A class file is read alike with any number of levels that its bytes cannot exceed. -/
theorem classReading_agrees (bound levels more : Nat) (enough : bound ≤ levels)
    (alsoEnough : bound ≤ more) :
    AgreeUpTo bound (classReading levels) (classReading more) := by
  rw [classReading_eq, classReading_eq]
  apply AgreeUpTo.behind
  intro first
  split
  · exact .same bound _
  · rw [afterMagic, afterMagic]
    apply AgreeUpTo.behind
    intro minor
    apply AgreeUpTo.behind
    intro major
    apply AgreeUpTo.behind
    intro pool
    apply AgreeUpTo.behind
    intro flags
    apply AgreeUpTo.behind
    intro name
    apply AgreeUpTo.behind
    intro superClass
    apply AgreeUpTo.behind
    intro interfaces
    exact (fieldReading_agrees pool bound levels more enough alsoEnough).counted.bind
      fun fields => .same bound _

/-- What a run to the last attribute amounts to. Bytes that are left over refuse the input. -/
def settled : Except Defect (ClassDescriptor × Cursor) → Except Defect ClassDescriptor
  | .error defect => .error defect
  | .ok (described, after) =>
    if after.rest = [] then .ok described else .error (.trailingBytes after.rest.length)

/-- An input is accepted when its reading is done and no byte is left. -/
theorem settled_eq_ok_iff (outcome : Except Defect (ClassDescriptor × Cursor))
    (described : ClassDescriptor) :
    settled outcome = .ok described ↔ ∃ offset, outcome = .ok (described, ⟨offset, []⟩) := by
  cases outcome with
  | error defect => simp [settled]
  | ok step =>
    obtain ⟨value, offset, rest⟩ := step
    cases rest with
    | nil => simp [settled]
    | cons b left => simp [settled]

/-- An input is refused when its reading fails, and when it is done but bytes are left. -/
theorem settled_eq_error_iff (outcome : Except Defect (ClassDescriptor × Cursor))
    (defect : Defect) :
    settled outcome = .error defect ↔ outcome = .error defect ∨
      ∃ described offset left, outcome = .ok (described, ⟨offset, left⟩) ∧ left ≠ [] ∧
        defect = .trailingBytes left.length := by
  cases outcome with
  | error reported => simp [settled]
  | ok step =>
    obtain ⟨value, offset, rest⟩ := step
    by_cases empty : rest = []
    · simp only [settled, empty, if_true, reduceCtorEq, false_iff, false_or]
      rintro ⟨_, _, left, same, nonempty, _⟩
      cases same
      exact nonempty rfl
    · simp only [settled, empty, if_false, Except.error.injEq, reduceCtorEq, false_or]
      constructor
      · rintro rfl
        exact ⟨value, offset, rest, rfl, empty, rfl⟩
      · rintro ⟨_, _, left, same, _, rfl⟩
        cases same
        rfl

/-- An input may be read with more levels than it has bytes. -/
theorem parse_eq_settled (data : List UInt8) (levels : Nat) (enough : data.length ≤ levels) :
    parse data = settled ((classReading levels).run (.start data)) := by
  rw [parse, (classReading_agrees data.length data.length levels (Nat.le_refl _) enough).run_eq
    (.start data) (Nat.le_refl _)]
  cases (classReading levels).run (.start data) with
  | error defect => rfl
  | ok step =>
    obtain ⟨described, offset, rest⟩ := step
    cases rest with
    | nil => rfl
    | cons b left => simp [settled]

end TagAudit.ClassFile
