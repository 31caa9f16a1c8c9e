import TagAudit.Failure
import TagAudit.Proofs.ClassFile.Levels
import TagAudit.Proofs.Text.Decimal

/-!
# Bytes put behind an input

A class file is read from the left, and what has been read is never looked at again. So the verdict
on an input already says what the verdict on a longer one will be. An accepted input is refused for
the bytes put behind it. A refused one is refused for the same defect, unless bytes were missing
and enough of them have come.

In particular the beginnings of an accepted input are all refused, and all for missing bytes. A
file that breaks off is never taken for a malformed one, nor for a smaller class.
-/

namespace TagAudit.ClassFile

namespace Defect

/-- Whether a defect is about what bytes say and not about where they end. -/
def AboutContent : Defect → Prop
  | truncated .. | trailingBytes _ => False
  | _ => True

/-- The defect with a number of bytes more behind the input. -/
def extended (more : Nat) : Defect → Defect
  | truncated offset wanted available => truncated offset wanted (available + more)
  | trailingBytes count => trailingBytes (count + more)
  | defect => defect

/-- Whether a number of bytes more leaves the defect. Missing bytes may come. -/
def Outlasts (more : Nat) : Defect → Prop
  | truncated _ wanted available => ((available + more : Nat) : Int) < wanted
  | _ => True

/-- What bytes say is not changed by those behind them. -/
theorem extended_of_aboutContent (defect : Defect) (more : Nat) (content : defect.AboutContent) :
    defect.extended more = defect := by
  cases defect with
  | truncated offset wanted available => exact absurd content id
  | trailingBytes count => exact absurd content id
  | _ => rfl

/-- No byte that comes later changes what bytes say. -/
theorem outlasts_of_aboutContent (defect : Defect) (more : Nat) (content : defect.AboutContent) :
    defect.Outlasts more := by
  cases defect with
  | truncated offset wanted available => exact absurd content id
  | _ => exact trivial

end Defect

namespace Reading

variable {α β : Type}

/-- Every failure that a reading decides on by itself is of a sort. What a cursor reports is not
among them. -/
def FailsOnly (sort : Defect → Prop) : Reading α → Prop
  | .done _ => True
  | .fail defect => sort defect
  | .take _ next => ∀ taken, (next taken).FailsOnly sort
  | .skip _ next => next.FailsOnly sort
  | .position next => ∀ offset, (next offset).FailsOnly sort

/-- A run that fails also fails in front of more bytes, if its defect outlasts them. -/
theorem run_append_of_error (r : Reading α) (own : r.FailsOnly Defect.AboutContent) (c : Cursor)
    (defect : Defect) (more : List UInt8) (outlasts : defect.Outlasts more.length)
    (failed : r.run c = .error defect) :
    r.run ⟨c.offset, c.rest ++ more⟩ = .error (defect.extended more.length) := by
  -- A cursor that misses bytes misses them still, and counts those that have come.
  have missing (c : Cursor) (width : Nat) (found : c.take width = .error defect) :
      Cursor.take ⟨c.offset, c.rest ++ more⟩ width = .error (defect.extended more.length) := by
    obtain ⟨short, rfl⟩ := (Cursor.take_eq_error_iff c width defect).mp found
    apply (Cursor.take_eq_error_iff _ width _).mpr
    simp only [Defect.Outlasts, Int.ofNat_lt] at outlasts
    simp only [List.length_append, Defect.extended, and_true]
    exact outlasts
  induction r generalizing c with
  | done value => simp [run] at failed
  | fail other =>
    obtain rfl := Except.error.inj failed
    rw [run, Defect.extended_of_aboutContent other more.length own]
  | take width next inductionHypothesis =>
    rw [run] at failed ⊢
    cases found : c.take width with
    | error reported =>
      obtain rfl : reported = defect := by simpa [found] using failed
      rw [missing c width found]
    | ok taken =>
      rw [Cursor.take_append_of_ok c taken.2 width taken.1 more found]
      exact inductionHypothesis taken.1 (own taken.1) taken.2 (by simpa only [found] using failed)
  | skip width next inductionHypothesis =>
    rw [run] at failed ⊢
    cases found : c.take width with
    | error reported =>
      obtain rfl : reported = defect := by simpa [found] using failed
      rw [missing c width found]
    | ok taken =>
      rw [Cursor.take_append_of_ok c taken.2 width taken.1 more found]
      exact inductionHypothesis own taken.2 (by simpa only [found] using failed)
  | position next inductionHypothesis =>
    exact inductionHypothesis c.offset (own c.offset) c failed

variable {sort : Defect → Prop}

/-- A bind fails as its parts do. -/
theorem FailsOnly.bind {r : Reading α} {f : α → Reading β} (first : r.FailsOnly sort)
    (next : ∀ value, (f value).FailsOnly sort) : (r.bind f).FailsOnly sort := by
  induction r with
  | done value => exact next value
  | fail defect => exact first
  | take width step inductionHypothesis =>
    intro taken
    exact inductionHypothesis taken (first taken)
  | skip width step inductionHypothesis => exact inductionHypothesis first
  | position step inductionHypothesis =>
    intro offset
    exact inductionHypothesis offset (first offset)

/-- A repetition fails as what is repeated does. -/
theorem FailsOnly.timesOnto {step : Reading α} (each : step.FailsOnly sort) (count : Nat)
    (reversed : List α) : (Reading.timesOnto step count reversed).FailsOnly sort := by
  induction count generalizing reversed with
  | zero => exact trivial
  | succ count inductionHypothesis =>
    exact each.bind fun value => inductionHypothesis (value :: reversed)

/-- Reading one byte decides nothing. -/
theorem failsOnly_u1 : u1.FailsOnly sort := fun _ => trivial

/-- Reading two bytes decides nothing. -/
theorem failsOnly_u2 : u2.FailsOnly sort := fun _ => trivial

/-- Reading four bytes decides nothing. -/
theorem failsOnly_u4 : u4.FailsOnly sort := fun _ => trivial

/-- Passing over bytes decides nothing. -/
theorem failsOnly_pass (width : Nat) : (Reading.pass width).FailsOnly sort := trivial

/-- Finding out the number of bytes so far decides nothing. -/
theorem failsOnly_offset : Reading.offset.FailsOnly sort := fun _ => trivial

/-- A counted repetition fails as what is repeated does. -/
theorem FailsOnly.counted {step : Reading α} (each : step.FailsOnly sort) :
    (Reading.counted step).FailsOnly sort :=
  failsOnly_u2.bind fun count => each.timesOnto count []

/-- A decided result fails with its defect. -/
theorem failsOnly_ofExcept (result : Except Defect α)
    (decided : ∀ defect, result = .error defect → sort defect) :
    (Reading.ofExcept result).FailsOnly sort := by
  cases result with
  | ok value => exact trivial
  | error defect => exact decided defect rfl

end Reading

open Reading

namespace ConstantPool

variable (pool : ConstantPool)

/-- An index is refused for what it names. -/
theorem pick_error {α : Type} (kind : ConstantKind) (holds : Constant → Option α) (index : Nat)
    (defect : Defect) (failed : pool.pick kind holds index = .error defect) :
    defect.AboutContent := by
  unfold pick at failed
  split at failed
  · obtain rfl := Except.error.inj failed
    exact trivial
  · split at failed
    · simp at failed
    · obtain rfl := Except.error.inj failed
      exact trivial

/-- A text is refused for its index or for its bytes. -/
theorem text_error (index : Nat) (defect : Defect) (failed : pool.text index = .error defect) :
    defect.AboutContent := by
  simp only [text, Bind.bind, Except.bind] at failed
  split at failed
  · rename_i refused picked
    obtain rfl := Except.error.inj failed
    exact pick_error pool _ _ index _ picked
  · split at failed
    · simp at failed
    · obtain rfl := Except.error.inj failed
      exact trivial

/-- The name of a class is refused for one of its indexes or for its bytes. -/
theorem className_error (index : Nat) (defect : Defect)
    (failed : pool.className index = .error defect) : defect.AboutContent := by
  simp only [className, Bind.bind, Except.bind] at failed
  split at failed
  · rename_i refused picked
    obtain rfl := Except.error.inj failed
    exact pick_error pool _ _ index _ picked
  · exact text_error pool _ defect failed

/-- The payload of an entry is never refused by itself. -/
theorem payload_failsOnly (kind : ConstantKind) :
    (Constant.reading kind).FailsOnly Defect.AboutContent := by
  cases kind with
  | text => exact failsOnly_u2.bind fun length _ => trivial
  | integer | float | classRef | string | long | double => exact fun _ => trivial
  | _ => exact (failsOnly_pass _).bind fun _ => trivial

/-- Slots are refused for a tag, or for an entry that takes more of them than are left. -/
theorem fill_failsOnly (count left : Nat) (slots : Array (Option Constant)) :
    (fill count left slots).FailsOnly Defect.AboutContent := by
  induction left using Nat.strongRecOn generalizing slots with
  | ind left inductionHypothesis =>
    cases left with
    | zero => exact trivial
    | succ left =>
      rw [fill_succ]
      apply failsOnly_u1.bind
      intro tag
      cases ConstantKind.ofTag? tag with
      | none => exact trivial
      | some kind =>
        apply (payload_failsOnly kind).bind
        intro constant
        split
        · have fewer : left + 1 - kind.slots < left + 1 :=
            Nat.sub_lt left.succ_pos kind.slots_pos
          exact inductionHypothesis _ fewer _
        · exact trivial

/-- A pool is refused for what fills its slots. -/
theorem reading_failsOnly : ConstantPool.reading.FailsOnly Defect.AboutContent :=
  failsOnly_u2.bind fun count => fill_failsOnly count (count - 1) #[none]

end ConstantPool

section
variable (pool : ConstantPool)

/-- A text is read from an index, which may be refused. -/
theorem textReading_failsOnly : (textReading pool).FailsOnly Defect.AboutContent :=
  failsOnly_u2.bind fun index => failsOnly_ofExcept _ (pool.text_error index)

/-- A constant is read from an index, which may be refused. -/
theorem constantReading_failsOnly {α : Type} (kind : ConstantKind) (holds : Constant → Option α) :
    (constantReading pool kind holds).FailsOnly Defect.AboutContent :=
  failsOnly_u2.bind fun index => failsOnly_ofExcept _ (pool.pick_error kind holds index)

/-- An annotation is refused for its indexes and its values. -/
theorem annotationOver_failsOnly {inner : Reading ElementValue}
    (values : inner.FailsOnly Defect.AboutContent) :
    (annotationOver pool inner).FailsOnly Defect.AboutContent := by
  rw [annotationOver_eq]
  apply (textReading_failsOnly pool).bind
  intro desc
  apply FailsOnly.bind
  · apply FailsOnly.counted
    apply (textReading_failsOnly pool).bind
    intro name
    exact values.bind fun value => trivial
  · intro pairs
    exact trivial

/-- An element value is refused for its tag, its indexes and the values in it. -/
theorem elementValue_failsOnly (levels : Nat) :
    (elementValue pool levels).FailsOnly Defect.AboutContent := by
  induction levels with
  | zero => exact fun _ => trivial
  | succ levels values =>
    rw [elementValue, elementValueOver_eq]
    apply failsOnly_offset.bind
    intro offset
    apply failsOnly_u1.bind
    intro tag
    cases ElementForm.ofTag? tag with
    | none => exact trivial
    | some form =>
      cases form with
      | nested => exact (annotationOver_failsOnly pool values).bind fun a => trivial
      | array => exact values.counted.bind fun items => trivial
      | string => exact (textReading_failsOnly pool).bind fun t => trivial
      | classLiteral => exact (textReading_failsOnly pool).bind fun t => trivial
      | enum =>
        exact (textReading_failsOnly pool).bind fun desc =>
          (textReading_failsOnly pool).bind fun name => trivial
      | _ => exact (constantReading_failsOnly pool _ _).bind fun value => trivial

/-- Annotations of an attribute are refused for what they hold, and for a length that is not
theirs. -/
theorem annotationsReading_failsOnly (levels declared : Nat) :
    (annotationsReading pool levels declared).FailsOnly Defect.AboutContent := by
  rw [annotationsReading_eq]
  apply failsOnly_offset.bind
  intro start
  apply (annotationOver_failsOnly pool (elementValue_failsOnly pool levels)).counted.bind
  intro annotations
  apply failsOnly_offset.bind
  intro stop
  split
  · exact trivial
  · exact trivial

/-- An attribute of a field is refused for its name and its annotations. -/
theorem fieldAttribute_failsOnly (levels : Nat) (isStatic : Bool) :
    (fieldAttribute pool levels isStatic).FailsOnly Defect.AboutContent := by
  rw [fieldAttribute_eq]
  apply (textReading_failsOnly pool).bind
  intro name
  apply failsOnly_u4.bind
  intro length
  split
  · exact annotationsReading_failsOnly pool levels length
  · exact (failsOnly_pass length).bind fun _ => trivial

/-- A field is refused for its indexes and its attributes. -/
theorem fieldReading_failsOnly (levels : Nat) :
    (fieldReading pool levels).FailsOnly Defect.AboutContent := by
  rw [fieldReading_eq]
  apply failsOnly_u2.bind
  intro flags
  apply (textReading_failsOnly pool).bind
  intro name
  apply (textReading_failsOnly pool).bind
  intro descriptor
  exact (fieldAttribute_failsOnly pool levels _).counted.bind fun annotations => trivial

end

/-- Attributes that are passed over are never refused by themselves. -/
theorem passAttributes_failsOnly : passAttributes.FailsOnly Defect.AboutContent := by
  have single : passAttribute.FailsOnly Defect.AboutContent := by
    rw [passAttribute_eq]
    exact (failsOnly_pass 2).bind fun _ => failsOnly_u4.bind failsOnly_pass
  rw [passAttributes_eq]
  exact single.counted.bind fun _ => trivial

/-- A method is never refused by itself. -/
theorem passMethod_failsOnly : passMethod.FailsOnly Defect.AboutContent := by
  rw [passMethod_eq]
  exact (failsOnly_pass 6).bind fun _ => passAttributes_failsOnly

/-- A class file is refused by its reading for what its bytes say, and never for where they end. -/
theorem classReading_failsOnly (levels : Nat) :
    (classReading levels).FailsOnly Defect.AboutContent := by
  rw [classReading_eq]
  apply failsOnly_u4.bind
  intro first
  split
  · exact trivial
  · rw [afterMagic]
    apply (failsOnly_pass 2).bind
    intro minor
    apply (failsOnly_pass 2).bind
    intro major
    apply ConstantPool.reading_failsOnly.bind
    intro pool
    apply failsOnly_u2.bind
    intro flags
    apply (failsOnly_u2.bind fun index =>
      failsOnly_ofExcept _ (pool.className_error index)).bind
    intro name
    apply (failsOnly_pass 2).bind
    intro superClass
    apply (failsOnly_u2.bind fun count => failsOnly_pass (2 * count)).bind
    intro interfaces
    apply (fieldReading_failsOnly pool levels).counted.bind
    intro fields
    apply passMethod_failsOnly.counted.bind
    intro methods
    exact passAttributes_failsOnly.bind fun _ => trivial

/-- An accepted input is refused for what is put behind it. -/
theorem parse_append_of_ok (input more : List UInt8) (described : ClassDescriptor)
    (nonempty : more ≠ []) (accepted : parse input = .ok described) :
    parse (input ++ more) = .error (.trailingBytes more.length) := by
  rw [parse_eq_settled input (input ++ more).length (by simp)] at accepted
  rw [parse_eq_settled (input ++ more) (input ++ more).length (Nat.le_refl _)]
  obtain ⟨offset, completed⟩ := (settled_eq_ok_iff _ described).mp accepted
  have longer := run_append _ (.start input) _ described more completed
  exact (settled_eq_error_iff _ _).mpr (.inr ⟨described, offset, more, longer, nonempty, rfl⟩)

/-- A refused input is refused for the same defect with more bytes, if the defect outlasts them. -/
theorem parse_append_of_error (input more : List UInt8) (defect : Defect)
    (outlasts : defect.Outlasts more.length) (refused : parse input = .error defect) :
    parse (input ++ more) = .error (defect.extended more.length) := by
  rw [parse_eq_settled input (input ++ more).length (by simp)] at refused
  rw [parse_eq_settled (input ++ more) (input ++ more).length (Nat.le_refl _)]
  apply (settled_eq_error_iff _ _).mpr
  rcases (settled_eq_error_iff _ defect).mp refused with failed | completed
  · exact .inl (run_append_of_error _ (classReading_failsOnly _) (.start input) defect more
      outlasts failed)
  · obtain ⟨described, offset, left, completed, nonempty, rfl⟩ := completed
    have longer := run_append _ (.start input) _ described more completed
    exact .inr ⟨described, offset, left ++ more, longer, by simp [nonempty],
      by rw [Defect.extended, List.length_append]⟩

/-- What reading a class file from a source comes to. -/
def verdict (source : Option Text) (data : List UInt8) : Except Failure ClassDescriptor :=
  (parse data).mapError (Failure.ofDefect source)

/-- The failure of a file in which bytes are missing. -/
def missingBytes (source : Option Text) (offset : Nat) (wanted : Int) (available : Nat) : Failure :=
  .truncated (Data.ofText? source) (.int offset) (.int wanted) (.int available)

/-- The failure of a file that goes on behind its last attribute. -/
def bytesLeft (source : Option Text) (count : Nat) : Failure :=
  .malformed (Data.ofText? source)
    (.text (Text.ofNat count ++ " trailing byte(s) after class attributes")) []

/-- A verdict accepts what is parsed. -/
theorem verdict_eq_ok_iff (source : Option Text) (data : List UInt8)
    (described : ClassDescriptor) :
    verdict source data = .ok described ↔ parse data = .ok described := by
  rw [verdict]
  cases parse data with
  | ok value =>
    constructor
    · intro same
      exact congrArg Except.ok (Except.ok.inj same)
    · intro same
      exact congrArg Except.ok (Except.ok.inj same)
  | error defect =>
    constructor
    · intro same
      exact nomatch same
    · intro same
      exact nomatch same

/-- A verdict refuses for the defect that is found. -/
theorem verdict_eq_error_iff (source : Option Text) (data : List UInt8) (failure : Failure) :
    verdict source data = .error failure ↔
      ∃ defect, parse data = .error defect ∧ Failure.ofDefect source defect = failure := by
  rw [verdict]
  cases parse data with
  | ok value =>
    constructor
    · intro same
      exact nomatch same
    · rintro ⟨defect, same, _⟩
      exact nomatch same
  | error defect =>
    constructor
    · intro same
      exact ⟨defect, rfl, Except.error.inj same⟩
    · rintro ⟨_, found, rfl⟩
      cases found
      rfl

/-- Missing bytes are reported of an input exactly when they are missing. -/
theorem verdict_eq_missingBytes_iff (source : Option Text) (data : List UInt8)
    (offset available : Nat) (wanted : Int) :
    verdict source data = .error (missingBytes source offset wanted available) ↔
      parse data = .error (.truncated offset wanted available) := by
  rw [verdict_eq_error_iff]
  constructor
  · rintro ⟨defect, refused, same⟩
    cases defect with
    | truncated o w a =>
      simp only [Failure.ofDefect, missingBytes, Failure.truncated.injEq, Data.int.injEq,
        Int.ofNat_inj, true_and] at same
      obtain ⟨rfl, rfl, rfl⟩ := same
      exact refused
    | _ => simp [Failure.ofDefect, missingBytes] at same
  · intro refused
    exact ⟨_, refused, rfl⟩

/-- Bytes that are left over are reported of an input exactly when they are. -/
theorem verdict_eq_bytesLeft_iff (source : Option Text) (data : List UInt8) (count : Nat) :
    verdict source data = .error (bytesLeft source count) ↔
      parse data = .error (.trailingBytes count) := by
  rw [verdict_eq_error_iff]
  constructor
  · rintro ⟨defect, refused, same⟩
    cases defect with
    | trailingBytes left =>
      -- The count stands in the reason as text, in front of the same words.
      simp only [Failure.ofDefect, bytesLeft, Failure.malformed.injEq, Data.text.injEq,
        List.append_cancel_right_eq, and_true, true_and] at same
      rw [← Text.ofNat_injective left count same]
      exact refused
    | _ => simp [Failure.ofDefect, bytesLeft] at same
  · intro refused
    exact ⟨_, refused, rfl⟩

/-- The verdict on an input decides the verdict on the input with more bytes behind it. Accepted
bytes leave those behind over, and bytes left over stay so; bytes that are missing are missing
until they have come; and every other failure stays the failure it is. So an input that is accepted
with more bytes, but not by itself, is refused for missing bytes and for nothing else. -/
theorem verdict_append (source : Option Text) (input more : List UInt8) (nonempty : more ≠ []) :
    (∀ described, verdict source input = .ok described →
      verdict source (input ++ more) = .error (bytesLeft source more.length)) ∧
    (∀ count, verdict source input = .error (bytesLeft source count) →
      verdict source (input ++ more) = .error (bytesLeft source (count + more.length))) ∧
    (∀ (offset available : Nat) (wanted : Int),
      verdict source input = .error (missingBytes source offset wanted available) →
      ((available + more.length : Nat) : Int) < wanted →
      verdict source (input ++ more) =
        .error (missingBytes source offset wanted (available + more.length))) ∧
    (∀ failure, verdict source input = .error failure → failure.code ≠ 3001 →
      (∀ count, failure ≠ bytesLeft source count) →
      verdict source (input ++ more) = .error failure) ∧
    (∀ described, verdict source (input ++ more) = .ok described →
      ∃ offset wanted available,
        verdict source input = .error (missingBytes source offset wanted available)) := by
  simp only [verdict_eq_ok_iff, verdict_eq_missingBytes_iff, verdict_eq_bytesLeft_iff]
  refine ⟨?accepted, ?left, ?missing, ?other, ?beginning⟩
  case accepted =>
    intro described accepted
    exact parse_append_of_ok input more described nonempty accepted
  case left =>
    intro count refused
    exact parse_append_of_error input more (.trailingBytes count) trivial refused
  case missing =>
    intro offset available wanted refused short
    exact parse_append_of_error input more (.truncated offset wanted available) short refused
  case other =>
    intro failure refused notMissing notLeft
    obtain ⟨defect, found, rfl⟩ := (verdict_eq_error_iff source input failure).mp refused
    have content : defect.AboutContent := by
      cases defect with
      | truncated offset wanted available => exact absurd rfl notMissing
      | trailingBytes count => exact absurd rfl (notLeft count)
      | _ => exact trivial
    have longer := parse_append_of_error input more defect
      (defect.outlasts_of_aboutContent more.length content) found
    rw [defect.extended_of_aboutContent more.length content] at longer
    exact (verdict_eq_error_iff source _ _).mpr ⟨defect, longer, rfl⟩
  case beginning =>
    intro described accepted
    cases alone : parse input with
    | ok value =>
      simp [parse_append_of_ok input more value nonempty alone] at accepted
    | error defect =>
      have resolved : ¬ defect.Outlasts more.length := by
        intro outlasts
        simp [parse_append_of_error input more defect outlasts alone] at accepted
      cases defect with
      | truncated offset wanted available => exact ⟨offset, wanted, available, rfl⟩
      | _ => exact absurd trivial resolved

/-- The bytes of a class without members. -/
def smallestClass : List UInt8 :=
  [0xCA, 0xFE, 0xBA, 0xBE, 0, 0, 0, 52, 0, 3, 7, 0, 2, 1, 0, 1, 0x41,
    0, 33, 0, 1, 0, 0, 0, 0, 0, 0, 0, 0, 0, 0]

/-- One byte put behind the smallest class is left over and stays so, each of its beginnings misses
bytes, a magic that is cut stays cut, and a wrong one stays wrong. -/
theorem smallestClass_extended :
    [0] ≠ ([] : List UInt8) ∧ (∃ described, verdict none smallestClass = .ok described) ∧
      verdict none (smallestClass ++ [0]) = .error (bytesLeft none 1) ∧
      verdict none (smallestClass ++ [0] ++ [0]) = .error (bytesLeft none 2) ∧
      (∃ offset wanted available, verdict none (smallestClass.take 20) =
        .error (missingBytes none offset wanted available)) ∧
      verdict none ([0xCA, 0xFE] ++ [0xBA]) = .error (missingBytes none 0 4 3) ∧
      verdict none ([0, 0, 0, 0] ++ [0]) = .error (.badMagic .null (.int 0)) := by
  have nonempty (b : UInt8) : [b] ≠ [] := List.cons_ne_nil b []
  have evaluated : (parse smallestClass).toOption.isSome := by decide +kernel
  obtain ⟨described, accepted⟩ : ∃ described, verdict none smallestClass = .ok described := by
    cases parsed : parse smallestClass with
    | error defect => simp [parsed, Except.toOption] at evaluated
    | ok described => exact ⟨described, (verdict_eq_ok_iff none _ _).mpr parsed⟩
  have one := (verdict_append none smallestClass [0] (nonempty 0)).1 described accepted
  have two := (verdict_append none (smallestClass ++ [0]) [0] (nonempty 0)).2.1 1 one
  have cut := (verdict_append none (smallestClass.take 20) (smallestClass.drop 20)
    (by decide)).2.2.2.2 described (by rw [List.take_append_drop]; exact accepted)
  have short := (verdict_append none [0xCA, 0xFE] [0xBA] (nonempty 0xBA)).2.2.1 0 2 4 rfl
    (by decide)
  have wrong := (verdict_append none [0, 0, 0, 0] [0] (nonempty 0)).2.2.2.1
    (.badMagic .null (.int 0)) rfl (by decide) (by simp [bytesLeft])
  exact ⟨nonempty 0, ⟨described, accepted⟩, one, two, cut, short, wrong⟩

end TagAudit.ClassFile
