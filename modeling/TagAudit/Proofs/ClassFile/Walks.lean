import TagAudit.Proofs.ClassFile.Failing

/-!
# Where runs end

A run that succeeds tells where it has come to; one that fails tells only what is wrong. A walk
tells both: it does what a run does and leaves the cursor where it stands in the end. So two
readings can be compared also by what they have used up before they fail.
-/

namespace TagAudit.ClassFile

namespace Reading

variable {α β : Type} {r : Reading α} {c after : Cursor} {value : α} {outcome : Except Defect α}

/-- Walks a cursor through a reading and tells where it stands in the end. Bytes that are missing
leave it in its place. -/
def walk (r : Reading α) (c : Cursor) : Except Defect α × Cursor :=
  match r with
  | .done value => (.ok value, c)
  | .fail defect => (.error defect, c)
  | .take width next =>
    match c.take width with
    | .ok (taken, after) => (next taken).walk after
    | .error defect => (.error defect, c)
  | .skip width next =>
    match c.take width with
    | .ok (_, after) => next.walk after
    | .error defect => (.error defect, c)
  | .position next => (next c.offset).walk c

/-- A run comes to what a walk comes to, and tells the end if there is a value. -/
theorem run_eq_walk (r : Reading α) (c : Cursor) :
    r.run c = (r.walk c).1.map fun value => (value, (r.walk c).2) := by
  induction r generalizing c with
  | done value => rfl
  | fail defect => rfl
  | take width next inductionHypothesis =>
    rw [run, walk]
    cases c.take width with
    | error defect => rfl
    | ok step => exact inductionHypothesis step.1 step.2
  | skip width next inductionHypothesis =>
    rw [run, walk]
    cases c.take width with
    | error defect => rfl
    | ok step => exact inductionHypothesis step.2
  | position next inductionHypothesis => exact inductionHypothesis c.offset c

/-- A walk yields a value exactly if the run does, and both end at the same place. -/
theorem walk_eq_ok_iff : r.walk c = (.ok value, after) ↔ r.run c = .ok (value, after) := by
  rw [run_eq_walk]
  cases r.walk c with
  | mk outcome stop =>
    cases outcome with
    | error defect => simp [Except.map]
    | ok found => simp [Except.map]

/-- A bind walks through its parts one after the other and stops where the first defect is. -/
theorem walk_bind (r : Reading α) (f : α → Reading β) (c : Cursor) :
    (r.bind f).walk c = match r.walk c with
      | (.ok value, after) => (f value).walk after
      | (.error defect, stop) => (.error defect, stop) := by
  induction r generalizing c with
  | done value => rfl
  | fail defect => rfl
  | take width next inductionHypothesis =>
    rw [bind, walk, walk]
    cases c.take width with
    | error defect => rfl
    | ok step => exact inductionHypothesis step.1 step.2
  | skip width next inductionHypothesis =>
    rw [bind, walk, walk]
    cases c.take width with
    | error defect => rfl
    | ok step => exact inductionHypothesis step.2
  | position next inductionHypothesis => exact inductionHypothesis c.offset c

/-- Behind a part that yields a value, a bind walks on through the other part. -/
theorem walk_bind_of_ok (f : α → Reading β) (first : r.walk c = (.ok value, after)) :
    (r.bind f).walk c = (f value).walk after := by
  rw [walk_bind, first]

/-- Accepted bytes are walked through in front of any others. -/
theorem walk_of_reads {offset : Nat} {bytes : List UInt8} (accepted : r.Reads offset bytes value)
    (more : List UInt8) :
    r.walk ⟨offset, bytes ++ more⟩ = (.ok value, ⟨offset + bytes.length, more⟩) := by
  apply walk_eq_ok_iff.mpr
  exact (run_eq_ok_iff r _ _ value).mpr ⟨bytes, rfl, rfl, accepted⟩

/-- Wherever a walk ends, it has come there by using up bytes. -/
theorem reaches_of_walk (walked : r.walk c = (outcome, after)) : c.Reaches after := by
  have onward (c mid : Cursor) (width : Nat) (taken : List UInt8)
      (found : c.take width = .ok (taken, mid)) : c.Reaches mid := by
    obtain ⟨counted, joined, moved⟩ := (Cursor.take_eq_ok_iff c width taken mid).mp found
    exact ⟨taken, joined, by rw [moved, counted]⟩
  induction r generalizing c with
  | done value =>
    obtain ⟨-, rfl⟩ := Prod.mk.inj walked
    exact .here c
  | fail defect =>
    obtain ⟨-, rfl⟩ := Prod.mk.inj walked
    exact .here c
  | take width next inductionHypothesis =>
    rw [walk] at walked
    cases found : c.take width with
    | error defect =>
      rw [found] at walked
      obtain ⟨-, rfl⟩ := Prod.mk.inj walked
      exact .here c
    | ok step =>
      rw [found] at walked
      exact (onward c step.2 width step.1 found).trans (inductionHypothesis step.1 walked)
  | skip width next inductionHypothesis =>
    rw [walk] at walked
    cases found : c.take width with
    | error defect =>
      rw [found] at walked
      obtain ⟨-, rfl⟩ := Prod.mk.inj walked
      exact .here c
    | ok step =>
      rw [found] at walked
      exact (onward c step.2 width step.1 found).trans (inductionHypothesis walked)
  | position next inductionHypothesis => exact inductionHypothesis c.offset walked

end Reading

end TagAudit.ClassFile
