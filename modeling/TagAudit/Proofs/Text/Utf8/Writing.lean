import TagAudit.Proofs.Text.Utf8

/-!
# Class-file text as compilers write it

A compiler writes a text unit by unit: zero as a pair of bytes, and every other unit as the sequence
of its number, also where two units are the halves of one code point. So what is written depends on
the units of a text only, and it stands for these units.

Reading gives back what was written, up to halves that stand together: they are joined, from the
left. Of two texts with the same units nobody can tell which one was written.
-/

namespace TagAudit

namespace Text

/-- Each high surrogate with a low one directly behind it becomes the code point that they denote
together. This goes from the left, so that no surrogate is used twice. -/
inductive Joins : Text → Text → Prop where
  | nil : Joins [] []
  | pair {high low c : CodePoint} {rest joined : Text} (halves : AreHalves high.val low.val)
      (value : c.val = 0x10000 + (high.val - 0xD800) * 0x400 + (low.val - 0xDC00))
      (onward : Joins rest joined) : Joins (high :: low :: rest) (c :: joined)
  | alone {c : CodePoint} {rest joined : Text}
      (apart : ∀ next ∈ rest.head?, ¬AreHalves c.val next.val) (onward : Joins rest joined) :
      Joins (c :: rest) (c :: joined)

/-- Every text can be joined. -/
theorem joins_joinHalves (t : Text) : Joins t (joinHalves t) := by
  induction t using List.twoStepInduction with
  | nil => exact .nil
  | singleton c => exact .alone (fun _ first => nomatch first) .nil
  | cons_cons high low rest behind onward =>
    by_cases pair : (high.isHighSurrogate && low.isLowSurrogate) = true
    · have halves := (areHalves_iff high low).mp pair
      rw [joinHalves_of_pair rest pair]
      exact .pair halves (val_ofHalves halves) behind
    · rw [joinHalves_of_apart rest pair]
      refine .alone (fun next first => ?_) (onward low)
      obtain rfl := Option.some.inj first
      exact mt (areHalves_iff high low).mpr pair

/-- A text is joined in one way only. -/
theorem Joins.unique {t joined other : Text} (joins : Joins t joined) (joinsToo : Joins t other) :
    joined = other := by
  induction joins generalizing other with
  | nil =>
    cases joinsToo
    rfl
  | pair halves value onward inductionHypothesis =>
    cases joinsToo with
    | pair _ valueToo onwardToo =>
      rw [inductionHypothesis onwardToo, Fin.ext (value.trans valueToo.symm)]
    | alone apart _ => exact absurd halves (apart _ rfl)
  | alone apart onward inductionHypothesis =>
    cases joinsToo with
    | pair halves _ _ => exact absurd halves (apart _ rfl)
    | alone _ onwardToo => rw [inductionHypothesis onwardToo]

/-- Units are numbers of sixteen bits. -/
theorem lt_of_mem_unitsOf {c : CodePoint} {unit : Nat} (among : unit ∈ unitsOf c) :
    unit < 0x10000 := by
  have bounded := c.isLt
  rw [unitsOf] at among
  split at among
  · rename_i basic
    rw [List.mem_singleton.mp among]
    exact basic
  · rcases List.mem_pair.mp among with high | low <;> omega

/-- Each unit by itself is a code point, and these have the units that they are. -/
theorem units16_map_ofNat {units : List Nat} (bounded : ∀ unit ∈ units, unit < 0x10000) :
    units16 (units.map CodePoint.ofNat) = units := by
  induction units with
  | nil => rfl
  | cons unit rest inductionHypothesis =>
    have small : unit < 0x10000 := bounded unit List.mem_cons_self
    have number : (CodePoint.ofNat unit).val = unit :=
      CodePoint.val_ofNat (Nat.lt_trans small (by decide))
    have alone : unitsOf (CodePoint.ofNat unit) = [unit] := by
      rw [unitsOf_basic (number.trans_lt small), number]
    rw [List.map_cons, units16_cons, alone,
      inductionHypothesis fun other among => bounded other (List.mem_cons_of_mem unit among)]
    rfl

end Text

namespace Utf8

/-- What is written for a unit. -/
def unitSequence (unit : Nat) : List UInt8 :=
  if unit = 0 then [0xC0, 0x80] else sequenceOf (CodePoint.ofNat unit)

/-- A code point is written as its units. -/
theorem classFileSequenceOf_eq (c : CodePoint) :
    classFileSequenceOf c = (Text.unitsOf c).flatMap unitSequence := by
  rw [classFileSequenceOf]
  split
  · rename_i zero
    rw [Text.unitsOf_basic (by omega), zero]
    rfl
  · rename_i nonzero
    -- Neither a code point other than zero nor a half of one is the unit zero.
    have present : ∀ unit ∈ Text.unitsOf c, unit ≠ 0 := by
      intro unit among
      rw [Text.unitsOf] at among
      split at among
      · rw [List.mem_singleton.mp among]
        exact nonzero
      · rcases List.mem_pair.mp among with high | low <;> omega
    refine List.flatMap_congr fun unit among => ?_
    rw [unitSequence, if_neg (present unit among)]

/-- What is written for a text depends on its units only. -/
theorem encodeClassFile_eq (t : Text) : encodeClassFile t = t.units16.flatMap unitSequence := by
  rw [encodeClassFile, Text.units16, List.flatMap_assoc]
  exact List.flatMap_congr fun c _ => classFileSequenceOf_eq c

/-- The sequence of a number of sixteen bits is one in the dialect of class files, surrogates
included. -/
theorem sequence_sequenceOf {c : CodePoint} (basic : c.val < 0x10000) :
    Sequence classFile (sequenceOf c) c := by
  have byte {n : Nat} (small : n < 0x100) : (UInt8.ofNat n).toNat = n :=
    UInt8.toNat_ofNat_of_lt' small
  have trails (n : Nat) : Trails (UInt8.ofNat (0x80 + n % 0x40)) := by
    rw [Trails, byte (by omega)]
    omega
  rw [sequenceOf]
  split
  · have number := byte (n := c.val) (by omega)
    exact .one (by omega) number.symm
  split
  · have first := byte (n := 0xC0 + c.val / 0x40) (by omega)
    have second := byte (n := 0x80 + c.val % 0x40) (by omega)
    exact .two (by omega) (trails _) (by omega)
  have first := byte (n := 0xE0 + c.val / 0x1000) (by omega)
  have second := byte (n := 0x80 + c.val / 0x40 % 0x40) (by omega)
  have third := byte (n := 0x80 + c.val % 0x40) (by omega)
  exact .three (by omega) (trails _) (trails _) (by omega) (by omega) (.inl rfl)

/-- What is written for a unit is read as the code point with its number. -/
theorem sequence_unitSequence {unit : Nat} (bounded : unit < 0x10000) :
    Sequence classFile (unitSequence unit) (CodePoint.ofNat unit) := by
  have number : (CodePoint.ofNat unit).val = unit := CodePoint.val_ofNat (by omega)
  rw [unitSequence]
  split
  · rename_i zero
    exact .pairedZero rfl (number.trans zero)
  · exact sequence_sequenceOf (by omega)

/-- What is written for units is read as one code point for each. -/
theorem sequences_flatMap_unitSequence {units : List Nat}
    (bounded : ∀ unit ∈ units, unit < 0x10000) :
    Sequences classFile (units.flatMap unitSequence) (units.map CodePoint.ofNat) := by
  induction units with
  | nil => exact .nil
  | cons unit rest inductionHypothesis =>
    exact .cons (sequence_unitSequence (bounded unit List.mem_cons_self))
      (inductionHypothesis fun other among => bounded other (List.mem_cons_of_mem unit among))

/-- What is written for a text stands for its units. -/
theorem denotes_encodeClassFile (t : Text) : Denotes (encodeClassFile t) t.units16 := by
  have bounded : ∀ unit ∈ t.units16, unit < 0x10000 := by
    intro unit among
    obtain ⟨c, _, part⟩ := List.mem_flatMap.mp among
    exact Text.lt_of_mem_unitsOf part
  rw [encodeClassFile_eq]
  exact ⟨_, sequences_flatMap_unitSequence bounded, Text.units16_map_ofNat bounded⟩

/-- What a compiler writes for a text is read, in one pass or in three, as the one text that has its
halves joined from the left. That is the text itself exactly if no halves stand together in it, and
in any case it is written as the same bytes. -/
theorem decode_encodeClassFile (t : Text) :
    ∃ joined, (∀ other, Text.Joins t other ↔ other = joined) ∧
      decodeClassFile? (encodeClassFile t) = some joined ∧
      decodeInPasses? (encodeClassFile t) = some joined ∧
      (joined = t ↔ t.IsJoined) ∧
      encodeClassFile joined = encodeClassFile t := by
  have joins := Text.joins_joinHalves t
  have sameUnits := Text.units16_joinHalves t
  have apart := Text.isJoined_joinHalves t
  have read : decodeClassFile? (encodeClassFile t) = some t.joinHalves := by
    apply decodeClassFile?_eq_some_iff.mpr
    rw [sameUnits]
    exact ⟨denotes_encodeClassFile t, apart⟩
  have readInPasses := (decodeInPasses?_eq (encodeClassFile t)).trans read
  refine ⟨t.joinHalves, fun other => ⟨fun joinsToo => joinsToo.unique joins, ?_⟩, read,
    readInPasses, ⟨?_, Text.joinHalves_of_isJoined⟩, ?_⟩
  · rintro rfl
    exact joins
  · intro same
    rw [← same]
    exact apart
  · rw [encodeClassFile_eq, encodeClassFile_eq, sameUnits]

/-- A run of high surrogates waits for the last of them, and zero is two bytes long. -/
example : decodeClassFile? (encodeClassFile [0, 0xD83D, 0xD83D, 0xDE00, 0xDE00]) =
    some [0, 0xD83D, 0x1F600, 0xDE00] := by
  decide +kernel

end Utf8

end TagAudit
