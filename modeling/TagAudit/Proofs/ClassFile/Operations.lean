import TagAudit.Failure
import TagAudit.Proofs.Binary64
import TagAudit.Proofs.ClassFile.Reads

/-!
# Runs of a cursor

Whatever is asked of a cursor, it stands somewhere in its bytes and has before it what follows that
place. It moves when it is asked for as many bytes as are there, and then over exactly these; what
it answers is what they say. Asked for more, or for a negative number, it names the place and the
two numbers and stays. So the bytes it has been over are those up to where it stands, each once.
-/

namespace TagAudit.ClassFile

/-- The number that bytes denote: each counts as often as there are numbers that the bytes behind it
could denote. -/
def unsignedOf : List UInt8 → Nat
  | [] => 0
  | b :: rest => b.toNat * Nat.pow 256 rest.length + unsignedOf rest

/-- Reading bytes from the front yields the number that they denote. -/
theorem bigEndian_eq_unsignedOf (bytes : List UInt8) : bigEndian bytes = unsignedOf bytes := by
  induction bytes with
  | nil => rfl
  | cons b rest inductionHypothesis => rw [bigEndian_cons, unsignedOf, inductionHypothesis]

/-- A number is what bits denote as a signed number: one in range that differs from the unsigned one
by nothing or by the capacity. -/
def IsSigned (width unsigned : Nat) (n : Int) : Prop :=
  -(Nat.pow 2 (width - 1) : Nat) ≤ n ∧ n < (Nat.pow 2 (width - 1) : Nat) ∧
    (n = unsigned ∨ n = unsigned - (Nat.pow 2 width : Nat))

/-- The signed reading of a number that fits is the one. -/
theorem isSigned_signed {width n : Nat} (positive : 0 < width) (fits : n < Nat.pow 2 width) :
    IsSigned width n (signed width n) := by
  have halves : Nat.pow 2 width = 2 * Nat.pow 2 (width - 1) := by
    rw [Nat.pow_eq, Nat.pow_eq, ← Nat.pow_add_one', Nat.sub_add_cancel positive]
  rw [IsSigned, signed]
  split <;> omega

namespace Operation

/-- What an operation that took bytes answers. -/
def Says (taken : List UInt8) : Operation → Answer → Prop
  | u1, answer | u2, answer | u4, answer => answer = .number (unsignedOf taken)
  | s4, answer => ∃ n, answer = .number n ∧ IsSigned 32 (unsignedOf taken) n
  | s8, answer => ∃ n, answer = .number n ∧ IsSigned 64 (unsignedOf taken) n
  | f4, answer => ∃ x, answer = .real x ∧ x.shape.Same (.ofBits32 (unsignedOf taken))
  | f8, answer => ∃ x, answer = .real x ∧ x.bits.toNat = unsignedOf taken
  | bytes _, answer => answer = .bytes taken
  | skip _, answer => answer = .nothing

/-- The reading of the bytes that were taken is what they say. -/
theorem says_answer {operation : Operation} {taken : List UInt8}
    (counted : taken.length = operation.width) :
    operation.Says taken (operation.answer taken) := by
  have spelled := bigEndian_eq_unsignedOf taken
  have small (width : Nat) (same : operation.width = width) :
      bigEndian taken < Nat.pow 256 width := by
    rw [← Int.ofNat_inj.mp (counted.trans same)]
    exact bigEndian_lt taken
  cases operation with
  | u1 | u2 | u4 => exact congrArg (Answer.number ∘ Int.ofNat) spelled
  | bytes | skip => rfl
  | s4 => exact ⟨_, rfl, spelled ▸ isSigned_signed (by decide) (small 4 rfl)⟩
  | s8 => exact ⟨_, rfl, spelled ▸ isSigned_signed (by decide) (small 8 rfl)⟩
  | f4 => exact ⟨_, rfl, spelled ▸ Binary64.same_ofBinary32 _⟩
  | f8 => exact ⟨_, rfl, (UInt64.toNat_ofNat_of_lt' (small 8 rfl)).trans spelled⟩

/-- An operation can be performed if its bytes are there. -/
def Fits (operation : Operation) (c : Cursor) : Prop :=
  0 ≤ operation.width ∧ operation.width ≤ c.remaining

/-- An operation whose bytes are there takes them. -/
theorem perform_of_fits {operation : Operation} {c : Cursor} (fits : operation.Fits c) :
    let width := operation.width.toNat
    operation.perform c =
      (.ok (operation.answer (c.rest.take width)), ⟨c.offset + width, c.rest.drop width⟩) := by
  obtain ⟨notNegative, enough⟩ := fits
  obtain ⟨width, same⟩ := Int.eq_ofNat_of_zero_le notNegative
  rw [same] at enough
  have taken : c.take operation.width =
      .ok (c.rest.take width, ⟨c.offset + width, c.rest.drop width⟩) := by
    rw [same, Cursor.take_eq_ok_iff]
    exact ⟨List.length_take_of_le (Int.ofNat_le.mp enough), (List.take_append_drop _ _).symm, rfl⟩
  rw [perform, taken, same]
  rfl

/-- Any other fails, and the cursor stays. -/
theorem perform_of_not_fits {operation : Operation} {c : Cursor} (short : ¬operation.Fits c) :
    operation.perform c = (.error (.truncated c.offset operation.width c.remaining), c) := by
  have failed : c.take operation.width =
      .error (.truncated c.offset operation.width c.remaining) := by
    rw [Fits] at short
    cases wanted : operation.width with
    | ofNat width =>
      rw [wanted, Int.ofNat_eq_natCast, Int.ofNat_le] at short
      refine (Cursor.take_eq_error_iff c width _).mpr ⟨?_, rfl⟩
      exact Nat.lt_of_not_le fun enough => short ⟨Int.natCast_nonneg width, enough⟩
    | negSucc n => rfl
  rw [perform, failed]

end Operation

/-- A cursor stands somewhere in bytes: what is before it is what follows that place. -/
def Cursor.StandsIn (c : Cursor) (data : List UInt8) : Prop :=
  c.offset ≤ data.length ∧ c.rest = data.drop c.offset

/-- Standing somewhere, a cursor has been over as many bytes as are not before it. -/
theorem Cursor.StandsIn.offset_add_remaining {c : Cursor} {data : List UInt8}
    (stands : c.StandsIn data) : c.offset + c.remaining = data.length := by
  obtain ⟨inside, ahead⟩ := stands
  rw [remaining, ahead, List.length_drop, Nat.add_sub_cancel' inside]

namespace Operation

/-- The bytes between two places. -/
def between (data : List UInt8) (first last : Nat) : List UInt8 :=
  (data.drop first).take (last - first)

/-- Nothing is between a place and itself. -/
theorem between_self (data : List UInt8) (place : Nat) : between data place place = [] := by
  rw [between, Nat.sub_self, List.take_zero]

/-- The bytes between two places are those up to a place in between and those from it on. -/
theorem between_append (data : List UInt8) {first middle last : Nat} (onward : first ≤ middle)
    (further : middle ≤ last) :
    between data first middle ++ between data middle last = between data first last := by
  obtain ⟨width, rfl⟩ := Nat.exists_eq_add_of_le onward
  obtain ⟨more, rfl⟩ := Nat.exists_eq_add_of_le further
  have both : first + width + more - first = width + more := by omega
  simp only [between, both, Nat.add_sub_cancel_left, List.take_add, List.drop_drop]

/-- An operation leaves a cursor standing, no further back. -/
theorem standsIn_perform (operation : Operation) {c : Cursor} {data : List UInt8}
    (stands : c.StandsIn data) :
    (operation.perform c).2.StandsIn data ∧ c.offset ≤ (operation.perform c).2.offset := by
  by_cases fits : operation.Fits c
  · have arrived := stands.offset_add_remaining
    obtain ⟨inside, ahead⟩ := stands
    obtain ⟨-, enough⟩ := id fits
    rw [perform_of_fits fits]
    have reached : c.offset + operation.width.toNat ≤ data.length := by omega
    exact ⟨⟨reached, by rw [ahead, List.drop_drop]⟩, Nat.le_add_right _ _⟩
  · rw [perform_of_not_fits fits]
    exact ⟨stands, Nat.le_refl _⟩

/-- The cursors of a run: the first one, and that after each operation. -/
def cursors (c : Cursor) (operations : List Operation) : List Cursor :=
  c :: (performAll c operations).map Prod.snd

/-- The stretches of bytes that the successful operations of a run took, one for each. -/
def stretches (data : List UInt8) (c : Cursor) : List Operation → List (List UInt8)
  | [] => []
  | operation :: rest =>
    let later := stretches data (operation.perform c).2 rest
    match (operation.perform c).1 with
    | .ok _ => between data c.offset (operation.perform c).2.offset :: later
    | .error _ => later

/-- What an operation takes comes before what is taken later; one that fails takes nothing. -/
theorem flatten_stretches_cons (data : List UInt8) (c : Cursor) (operation : Operation)
    (rest : List Operation) :
    (stretches data c (operation :: rest)).flatten =
      between data c.offset (operation.perform c).2.offset ++
        (stretches data (operation.perform c).2 rest).flatten := by
  rw [stretches]
  by_cases fits : operation.Fits c
  · rw [perform_of_fits fits]
    rfl
  · rw [perform_of_not_fits fits, between_self]
    rfl

/-- A run performs each operation where the one before has left the cursor. -/
theorem getElem?_performAll {operations : List Operation} {operation : Operation} {n : Nat}
    (asked : operations[n]? = some operation) (c : Cursor) :
    ∃ before, (cursors c operations)[n]? = some before ∧
      (performAll c operations)[n]? = some (operation.perform before) ∧
      (cursors c operations)[n + 1]? = some (operation.perform before).2 := by
  induction operations generalizing c n with
  | nil => cases asked
  | cons first rest inductionHypothesis =>
    cases n with
    | zero =>
      obtain rfl := Option.some.inj asked
      exact ⟨c, rfl, rfl, rfl⟩
    | succ n => exact inductionHypothesis asked (first.perform c).2

/-- Along a run the cursor stands in the bytes, and what was taken up to then are the bytes between
where it stood at first and where it stands. -/
theorem standsIn_cursors {operations : List Operation} {data : List UInt8} {c reached : Cursor}
    {n : Nat} (stands : c.StandsIn data) (arrived : (cursors c operations)[n]? = some reached) :
    reached.StandsIn data ∧ c.offset ≤ reached.offset ∧
      (stretches data c (operations.take n)).flatten = between data c.offset reached.offset := by
  induction operations generalizing c n with
  | nil =>
    cases n with
    | zero =>
      obtain rfl := Option.some.inj arrived
      exact ⟨stands, Nat.le_refl _, (between_self data _).symm⟩
    | succ n => cases arrived
  | cons first rest inductionHypothesis =>
    cases n with
    | zero =>
      obtain rfl := Option.some.inj arrived
      exact ⟨stands, Nat.le_refl _, (between_self data _).symm⟩
    | succ n =>
      obtain ⟨standsNext, onward⟩ := standsIn_perform first stands
      obtain ⟨standsLast, further, taken⟩ := inductionHypothesis standsNext arrived
      refine ⟨standsLast, Nat.le_trans onward further, ?_⟩
      rw [List.take_succ_cons, flatten_stretches_cons, taken]
      exact between_append data onward further

/-- A cursor before the first byte stands in the bytes. -/
theorem standsIn_start (data : List UInt8) : (Cursor.start data).StandsIn data :=
  ⟨Nat.zero_le _, rfl⟩

/-- Each operation of a run has one step. -/
theorem length_performAll (c : Cursor) (operations : List Operation) :
    (performAll c operations).length = operations.length := by
  induction operations generalizing c with
  | nil => rfl
  | cons operation rest inductionHypothesis => exact congrArg (· + 1) (inductionHypothesis _)

/-- What happens in every step of every run through bytes, be it after successes or failures. The
cursor is never beyond the bytes and leaves those that it has not been over, and the stretches that
were taken successfully are all bytes up to where it stands, in order. An operation succeeds exactly
if it wants a number of bytes from nought to what is left; then the cursor moves over that many and
the answer is what they say. Otherwise nothing moves, and the failure tells where the cursor stands,
what was wanted and what is left. -/
theorem steps_of_start (data : List UInt8) (operations : List Operation) :
    let steps := performAll (.start data) operations
    steps.length = operations.length ∧
    ∀ n operation, operations[n]? = some operation → ∃ before outcome after,
      (cursors (.start data) operations)[n]? = some before ∧ steps[n]? = some (outcome, after) ∧
      after.offset ≤ data.length ∧ after.offset + after.remaining = data.length ∧
      (stretches data (.start data) (operations.take (n + 1))).flatten = data.take after.offset ∧
      (0 ≤ operation.width ∧ operation.width ≤ before.remaining → ∃ answer, outcome = .ok answer ∧
        (after.offset : Int) = before.offset + operation.width ∧
        operation.Says (between data before.offset after.offset) answer) ∧
      (¬(0 ≤ operation.width ∧ operation.width ≤ before.remaining) →
        ∃ defect, outcome = .error defect ∧ after = before ∧ ∀ source,
          let failure := Failure.ofDefect source defect
          failure.name = "PARSE_TRUNCATED" ∧
            failure = .truncated (.ofText? source) (.int before.offset) (.int operation.width)
              (.int before.remaining)) := by
  refine ⟨length_performAll _ _, fun n operation asked => ?_⟩
  obtain ⟨before, found, step, next⟩ := getElem?_performAll asked (.start data)
  obtain ⟨stands, -, -⟩ := standsIn_cursors (standsIn_start data) found
  obtain ⟨standsNext, -, taken⟩ := standsIn_cursors (standsIn_start data) next
  cases performed : operation.perform before with
  | mk outcome after =>
    rw [performed] at step standsNext taken
    refine ⟨before, outcome, after, found, step, standsNext.1, standsNext.offset_add_remaining,
      taken, fun fits => ?_, fun short => ?_⟩
    · obtain ⟨rfl, rfl⟩ := Prod.mk.inj (performed.symm.trans (perform_of_fits fits))
      obtain ⟨inside, ahead⟩ := stands
      obtain ⟨notNegative, enough⟩ := fits
      have counted := Int.toNat_of_nonneg notNegative
      have there : operation.width.toNat ≤ before.rest.length := by
        rw [Cursor.remaining] at enough
        omega
      refine ⟨_, rfl, by rw [Int.natCast_add, counted], ?_⟩
      rw [between, Nat.add_sub_cancel_left, ← ahead]
      exact says_answer (by rw [List.length_take_of_le there, counted])
    · obtain ⟨rfl, rfl⟩ := Prod.mk.inj (performed.symm.trans (perform_of_not_fits short))
      exact ⟨_, rfl, rfl, fun source => ⟨rfl, rfl⟩⟩

/-- A number, two demands that cannot be met, and two numbers more. -/
def demands : List Operation := [.s4, .bytes 9, .skip (-1), .u1, .f4]

/-- Nine bytes to which they are put. -/
def nineBytes : List UInt8 := [0xFF, 0xFF, 0xFF, 0x80, 1, 0x3F, 0xC0, 0, 0]

/-- Neither demand moves the cursor, and what is read after them goes on where the first number
ended. -/
theorem demands_met :
    let steps := performAll (.start nineBytes) demands
    demands[(2 : Nat)]? = some (.skip (-1)) ∧ demands[(4 : Nat)]? = some .f4 ∧ steps.length = 5 ∧
    (∃ before outcome, (cursors (.start nineBytes) demands)[(2 : Nat)]? = some before ∧
      steps[(2 : Nat)]? = some (outcome, before) ∧ ∃ defect, outcome = .error defect) ∧
    (∃ before outcome after, (cursors (.start nineBytes) demands)[(4 : Nat)]? = some before ∧
      steps[(4 : Nat)]? = some (outcome, after) ∧ after.offset + after.remaining = 9 ∧
      (stretches nineBytes (.start nineBytes) demands).flatten = nineBytes.take after.offset ∧
      ∃ answer, outcome = .ok answer ∧ (after.offset : Int) = before.offset + 4 ∧
        Says (between nineBytes before.offset after.offset) .f4 answer) := by
  obtain ⟨counted, each⟩ := steps_of_start nineBytes demands
  refine ⟨rfl, rfl, counted, ?_, ?_⟩
  · obtain ⟨before, outcome, after, found, step, -, -, -, -, failing⟩ := each 2 (.skip (-1)) rfl
    obtain ⟨defect, failed, rfl, -⟩ := failing fun fits => absurd fits.1 (by decide)
    exact ⟨after, outcome, found, step, defect, failed⟩
  · obtain ⟨before, outcome, after, found, step, -, whole, taken, succeeding, -⟩ := each 4 .f4 rfl
    obtain rfl : (⟨5, [0x3F, 0xC0, 0, 0]⟩ : Cursor) = before := Option.some.inj found
    exact ⟨_, outcome, after, found, step, whole, taken, succeeding (by decide)⟩

end Operation

end TagAudit.ClassFile
