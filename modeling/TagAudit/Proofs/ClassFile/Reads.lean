import TagAudit.ClassFile.Reading
import TagAudit.Proofs.ClassFile.BigEndian

/-!
# What a reading accepts

A reading accepts byte sequences: those that it uses up to the last byte, each with the value that
it yields. This relation is exact. A run that succeeds on a longer input has used one accepted
sequence, at the front, and has left the rest alone; conversely an accepted sequence is read in
front of anything.

Acceptance is decided part by part. What a bind accepts is what its parts accept, one behind the
other, and what a repetition accepts is a list of accepted pieces. So a format is matched with its
reading by one equivalence a production: the reading accepts exactly the spellings of the valid
items, and yields what they stand for. Both directions are used, one to read back what was written
and one to find out what has been read.
-/

namespace TagAudit.ClassFile

namespace Cursor

/-- Splitting succeeds exactly when the list has a beginning of that length. -/
theorem splitFirst?_eq_some_iff (width : Nat) (bytes taken left : List UInt8) :
    splitFirst? width bytes = some (taken, left) ↔
      taken.length = width ∧ bytes = taken ++ left := by
  induction width generalizing bytes taken with
  | zero =>
    simp only [splitFirst?, Option.some.injEq, Prod.mk.injEq, List.length_eq_zero_iff]
    constructor
    · rintro ⟨rfl, rfl⟩
      exact ⟨rfl, rfl⟩
    · rintro ⟨rfl, rfl⟩
      exact ⟨rfl, rfl⟩
  | succ width inductionHypothesis =>
    cases bytes with
    | nil =>
      simp only [splitFirst?, reduceCtorEq, false_iff]
      rintro ⟨counted, empty⟩
      have none : taken = [] := (List.append_eq_nil_iff.mp empty.symm).1
      simp [none] at counted
    | cons b rest =>
      simp only [splitFirst?, Option.map_eq_some_iff, Prod.exists, Prod.mk.injEq]
      constructor
      · rintro ⟨first, after, found, rfl, rfl⟩
        obtain ⟨counted, rfl⟩ := (inductionHypothesis rest first).mp found
        exact ⟨by simp [counted], rfl⟩
      · rintro ⟨counted, joined⟩
        cases taken with
        | nil => simp at counted
        | cons c first =>
          obtain ⟨rfl, others⟩ := List.cons.inj joined
          exact ⟨first, left, (inductionHypothesis rest first).mpr
            ⟨Nat.succ.inj counted, others⟩, rfl, rfl⟩

/-- Splitting fails exactly when the list is too short. -/
theorem splitFirst?_eq_none_iff (width : Nat) (bytes : List UInt8) :
    splitFirst? width bytes = none ↔ bytes.length < width := by
  constructor
  · intro failed
    apply Nat.lt_of_not_ge
    intro enough
    have found := (splitFirst?_eq_some_iff width bytes (bytes.take width) (bytes.drop width)).mpr
      ⟨List.length_take_of_le enough, (List.take_append_drop width bytes).symm⟩
    simp [failed] at found
  · intro short
    cases split : splitFirst? width bytes with
    | none => rfl
    | some parts =>
      obtain ⟨counted, rfl⟩ := (splitFirst?_eq_some_iff width bytes parts.1 parts.2).mp split
      simp only [List.length_append] at short
      omega

/-- A cursor goes on behind what is split off. -/
theorem take_of_some (c : Cursor) (width : Nat) (taken left : List UInt8)
    (split : splitFirst? width c.rest = some (taken, left)) :
    c.take width = .ok (taken, ⟨c.offset + width, left⟩) := by
  change c.take (Int.ofNat width) = _
  rw [take, split]

/-- A cursor that cannot split off enough says where it stands and what is there. -/
theorem take_of_none (c : Cursor) (width : Nat) (split : splitFirst? width c.rest = none) :
    c.take width = .error (.truncated c.offset width c.rest.length) := by
  change c.take (Int.ofNat width) = _
  rw [take, split]
  rfl

/-- A cursor advances by exactly the bytes that it returns. -/
theorem take_eq_ok_iff (c : Cursor) (width : Nat) (taken : List UInt8) (after : Cursor) :
    c.take width = .ok (taken, after) ↔
      taken.length = width ∧ c.rest = taken ++ after.rest ∧ after.offset = c.offset + width := by
  cases split : splitFirst? width c.rest with
  | none =>
    rw [take_of_none c width split]
    simp only [reduceCtorEq, false_iff]
    rintro ⟨counted, joined, _⟩
    have found := (splitFirst?_eq_some_iff width c.rest taken after.rest).mpr ⟨counted, joined⟩
    simp [split] at found
  | some parts =>
    obtain ⟨first, left⟩ := parts
    obtain ⟨counted, joined⟩ := (splitFirst?_eq_some_iff width c.rest first left).mp split
    rw [take_of_some c width first left split]
    simp only [Except.ok.injEq, Prod.mk.injEq]
    constructor
    · rintro ⟨rfl, rfl⟩
      exact ⟨counted, joined, rfl⟩
    · rintro ⟨sameCount, sameJoined, moved⟩
      have same := List.append_inj (joined.symm.trans sameJoined) (counted.trans sameCount.symm)
      obtain ⟨offset, rest⟩ := after
      simp only at same moved
      exact ⟨same.1, by rw [same.2, moved]⟩

/-- A cursor reports missing bytes truthfully, and reports nothing else. -/
theorem take_eq_error_iff (c : Cursor) (width : Nat) (defect : Defect) :
    c.take width = .error defect ↔
      c.rest.length < width ∧ defect = .truncated c.offset width c.rest.length := by
  cases split : splitFirst? width c.rest with
  | none =>
    have short := (splitFirst?_eq_none_iff width c.rest).mp split
    rw [take_of_none c width split]
    simp [short, eq_comm]
  | some parts =>
    have enough : ¬ c.rest.length < width := by
      intro short
      rw [(splitFirst?_eq_none_iff width c.rest).mpr short] at split
      simp at split
    rw [take_of_some c width parts.1 parts.2 split]
    simp [enough]

/-- Taking looks at the beginning, so bytes put behind do not matter where it succeeds. -/
theorem take_append_of_ok (c after : Cursor) (width : Nat) (taken more : List UInt8)
    (found : c.take width = .ok (taken, after)) :
    take ⟨c.offset, c.rest ++ more⟩ width = .ok (taken, ⟨after.offset, after.rest ++ more⟩) := by
  obtain ⟨counted, joined, moved⟩ := (take_eq_ok_iff c width taken after).mp found
  apply (take_eq_ok_iff _ width taken _).mpr
  exact ⟨counted, by simp [joined], moved⟩

end Cursor

namespace Reading

variable {α β γ : Type}

/-- Monadic notation stands for `bind`. -/
theorem bind_eq (r : Reading α) (f : α → Reading β) : r >>= f = r.bind f := rfl

/-- A returned value is a reading that is done. -/
theorem pure_eq (value : α) : (pure value : Reading α) = .done value := rfl

/-- A bind runs its parts one after the other and stops at the first defect. -/
theorem run_bind (r : Reading α) (f : α → Reading β) (c : Cursor) :
    (r.bind f).run c = match r.run c with
      | .ok (value, after) => (f value).run after
      | .error defect => .error defect := by
  induction r generalizing c with
  | done value => rfl
  | fail defect => rfl
  | take width next inductionHypothesis =>
    simp only [bind, run]
    cases c.take width with
    | error defect => rfl
    | ok taken => exact inductionHypothesis taken.1 taken.2
  | skip width next inductionHypothesis =>
    simp only [bind, run]
    cases c.take width with
    | error defect => rfl
    | ok taken => exact inductionHypothesis taken.2
  | position next inductionHypothesis => exact inductionHypothesis c.offset c

/-- What follows a bind may as well follow its second part. -/
theorem bind_assoc (r : Reading α) (f : α → Reading β) (g : β → Reading γ) :
    (r.bind f).bind g = r.bind fun value => (f value).bind g := by
  induction r with
  | done value => rfl
  | fail defect => rfl
  | take width next inductionHypothesis =>
    simp only [bind, inductionHypothesis]
  | skip width next inductionHypothesis =>
    simp only [bind, inductionHypothesis]
  | position next inductionHypothesis =>
    simp only [bind, inductionHypothesis]

/-- Reads a count and then as many values. -/
def counted (r : Reading α) : Reading (List α) := u2.bind fun count => times count r

/-- Passing over is taking without regard to what is taken. -/
theorem run_skip (width : Nat) (next : Reading α) (c : Cursor) :
    (Reading.skip width next).run c = (Reading.take width fun _ => next).run c := by
  rw [run, run]

/-- A run that succeeds also succeeds in front of more bytes, and leaves those alone. -/
theorem run_append (r : Reading α) (c after : Cursor) (value : α) (more : List UInt8)
    (completed : r.run c = .ok (value, after)) :
    r.run ⟨c.offset, c.rest ++ more⟩ = .ok (value, ⟨after.offset, after.rest ++ more⟩) := by
  induction r generalizing c with
  | done result =>
    obtain ⟨rfl, rfl⟩ := Prod.mk.inj (Except.ok.inj completed)
    rfl
  | fail defect => simp [run] at completed
  | take width next inductionHypothesis =>
    rw [run] at completed ⊢
    cases found : c.take width with
    | error defect => simp [found] at completed
    | ok taken =>
      rw [Cursor.take_append_of_ok c taken.2 width taken.1 more found]
      exact inductionHypothesis taken.1 taken.2 (by simpa only [found] using completed)
  | skip width next inductionHypothesis =>
    rw [run] at completed ⊢
    cases found : c.take width with
    | error defect => simp [found] at completed
    | ok taken =>
      rw [Cursor.take_append_of_ok c taken.2 width taken.1 more found]
      exact inductionHypothesis taken.2 (by simpa only [found] using completed)
  | position next inductionHypothesis => exact inductionHypothesis c.offset c completed

/-- The reading uses these bytes up when they begin at the offset, and yields the value. -/
def Reads (r : Reading α) (offset : Nat) (bytes : List UInt8) (value : α) : Prop :=
  r.run ⟨offset, bytes⟩ = .ok (value, ⟨offset + bytes.length, []⟩)

/-- A reading that is done uses up nothing. -/
theorem reads_done (result : α) (offset : Nat) (bytes : List UInt8) (value : α) :
    (Reading.done result).Reads offset bytes value ↔ bytes = [] ∧ result = value := by
  simp only [Reads, run, Except.ok.injEq, Prod.mk.injEq, Cursor.mk.injEq]
  constructor
  · rintro ⟨same, _, empty⟩
    exact ⟨empty, same⟩
  · rintro ⟨rfl, same⟩
    exact ⟨same, rfl, rfl⟩

/-- A failing reading accepts nothing. -/
theorem reads_fail (defect : Defect) (offset : Nat) (bytes : List UInt8) (value : α) :
    ¬ (Reading.fail defect).Reads offset bytes value := by
  simp [Reads, run]

/-- A decided result is accepted with no bytes when it is a value. -/
theorem reads_ofExcept (result : Except Defect α) (offset : Nat) (bytes : List UInt8) (value : α) :
    (Reading.ofExcept result).Reads offset bytes value ↔ bytes = [] ∧ result = .ok value := by
  cases result with
  | error defect =>
    simp only [reduceCtorEq, and_false, iff_false]
    exact reads_fail defect offset bytes value
  | ok result =>
    rw [Except.ok.injEq]
    exact reads_done result offset bytes value

/-- Taking accepts a first part of the width and then what is accepted with that part known. -/
theorem reads_take (width : Nat) (next : List UInt8 → Reading α) (offset : Nat)
    (bytes : List UInt8) (value : α) :
    (Reading.take width next).Reads offset bytes value ↔
      ∃ taken later, taken.length = width ∧ bytes = taken ++ later ∧
        (next taken).Reads (offset + width) later value := by
  rw [Reads, run]
  cases found : Cursor.take ⟨offset, bytes⟩ width with
  | error defect =>
    obtain ⟨short, _⟩ := (Cursor.take_eq_error_iff ⟨offset, bytes⟩ width defect).mp found
    simp only [reduceCtorEq, false_iff]
    rintro ⟨taken, later, counted, rfl, _⟩
    simp only [List.length_append] at short
    omega
  | ok step =>
    obtain ⟨taken, mid⟩ := step
    obtain ⟨counted, joined, moved⟩ := (Cursor.take_eq_ok_iff _ width taken mid).mp found
    obtain ⟨start, later⟩ := mid
    obtain ⟨rfl, rfl⟩ : bytes = taken ++ later ∧ start = offset + width := ⟨joined, moved⟩
    have arrived : offset + (taken ++ later).length = offset + width + later.length := by
      rw [List.length_append, counted, Nat.add_assoc]
    simp only [arrived]
    constructor
    · intro completed
      exact ⟨taken, later, counted, rfl, completed⟩
    · rintro ⟨taken', later', counted', joined', completed⟩
      obtain ⟨rfl, rfl⟩ := List.append_inj joined' (counted.trans counted'.symm)
      exact completed

/-- Passing over accepts any first part of the width and then what is accepted after it. -/
theorem reads_skip (width : Nat) (next : Reading α) (offset : Nat) (bytes : List UInt8)
    (value : α) :
    (Reading.skip width next).Reads offset bytes value ↔
      ∃ taken later, taken.length = width ∧ bytes = taken ++ later ∧
        next.Reads (offset + width) later value := by
  rw [Reads, run_skip]
  exact reads_take width (fun _ => next) offset bytes value

/-- Asking for the position uses up nothing. -/
theorem reads_position (next : Nat → Reading α) (offset : Nat) (bytes : List UInt8) (value : α) :
    (Reading.position next).Reads offset bytes value ↔ (next offset).Reads offset bytes value :=
  Iff.rfl

/-- A run succeeds exactly when its bytes begin with an accepted sequence; it leaves the rest. -/
theorem run_eq_ok_iff (r : Reading α) (c after : Cursor) (value : α) :
    r.run c = .ok (value, after) ↔
      ∃ bytes, c.rest = bytes ++ after.rest ∧ after.offset = c.offset + bytes.length ∧
        r.Reads c.offset bytes value := by
  -- What a step takes goes in front of what the run after it has used.
  have extended (c mid : Cursor) (width : Nat) (taken : List UInt8) (next : List UInt8 → Reading α)
      (found : c.take width = .ok (taken, mid))
      (used : ∃ later, mid.rest = later ++ after.rest ∧
        after.offset = mid.offset + later.length ∧ (next taken).Reads mid.offset later value) :
      ∃ bytes, c.rest = bytes ++ after.rest ∧ after.offset = c.offset + bytes.length ∧
        (Reading.take width next).Reads c.offset bytes value := by
    obtain ⟨counted, joined, moved⟩ := (Cursor.take_eq_ok_iff c width taken mid).mp found
    obtain ⟨later, left, arrived, accepted⟩ := used
    refine ⟨taken ++ later, by simp [joined, left], ?_, ?_⟩
    · rw [arrived, moved, List.length_append, counted, Nat.add_assoc]
    · exact (reads_take width next _ _ _).mpr ⟨taken, later, counted, rfl, moved ▸ accepted⟩
  constructor
  · intro completed
    induction r generalizing c with
    | done result =>
      obtain ⟨rfl, rfl⟩ := Prod.mk.inj (Except.ok.inj completed)
      exact ⟨[], rfl, rfl, (reads_done result c.offset [] result).mpr ⟨rfl, rfl⟩⟩
    | fail defect => simp [run] at completed
    | take width next inductionHypothesis =>
      rw [run] at completed
      cases found : c.take width with
      | error defect => simp [found] at completed
      | ok step =>
        apply extended c step.2 width step.1 next found
        exact inductionHypothesis step.1 step.2 (by simpa only [found] using completed)
    | skip width next inductionHypothesis =>
      rw [run] at completed
      cases found : c.take width with
      | error defect => simp [found] at completed
      | ok step =>
        simp only [Reads, run_skip]
        apply extended c step.2 width step.1 (fun _ => next) found
        exact inductionHypothesis step.2 (by simpa only [found] using completed)
    | position next inductionHypothesis => exact inductionHypothesis c.offset c completed
  · rintro ⟨bytes, joined, arrived, accepted⟩
    have inFront := run_append r ⟨c.offset, bytes⟩ _ value after.rest accepted
    simpa only [← joined, ← arrived, List.nil_append] using inFront

/-- A bind accepts what its first part accepts with what its second part accepts behind it. -/
theorem reads_bind (r : Reading α) (f : α → Reading β) (offset : Nat) (bytes : List UInt8)
    (result : β) :
    (r.bind f).Reads offset bytes result ↔
      ∃ first later value, bytes = first ++ later ∧ r.Reads offset first value ∧
        (f value).Reads (offset + first.length) later result := by
  rw [Reads, run_bind]
  constructor
  · intro completed
    cases ran : r.run ⟨offset, bytes⟩ with
    | error defect => simp [ran] at completed
    | ok step =>
      obtain ⟨value, mid⟩ := step
      obtain ⟨first, joined, arrived, accepted⟩ := (run_eq_ok_iff r _ mid value).mp ran
      obtain ⟨start, later⟩ := mid
      obtain ⟨rfl, rfl⟩ : bytes = first ++ later ∧ start = offset + first.length :=
        ⟨joined, arrived⟩
      refine ⟨first, later, value, rfl, accepted, ?_⟩
      simpa only [Reads, ran, List.length_append, Nat.add_assoc] using completed
  · rintro ⟨first, later, value, rfl, accepted, completed⟩
    have ran : r.run ⟨offset, first ++ later⟩ = .ok (value, ⟨offset + first.length, later⟩) :=
      (run_eq_ok_iff r _ _ value).mpr ⟨first, rfl, rfl, accepted⟩
    rw [ran]
    simpa only [Reads, List.length_append, Nat.add_assoc] using completed

end Reading

end TagAudit.ClassFile
