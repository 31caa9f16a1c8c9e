import Mathlib.Data.List.Chain
import TagAudit.Text.Units

/-!
# Texts and their UTF-16 units

A text whose surrogate halves are joined can be told by its UTF-16 units: two such texts with the
same units are equal. Joining keeps the units and leaves no halves standing together, whatever stood
around them. It comes to the same as spelling a text out in units and reading these again, so
nothing is lost between a text and its units but the difference that joining removes.
-/

namespace TagAudit

namespace CodePoint

/-- A number below that of all code points is the one of its code point. -/
theorem val_ofNat {n : Nat} (bounded : n < 0x110000) : (ofNat n).val = n :=
  Nat.mod_eq_of_lt bounded

/-- A code point is the one with its number. -/
@[simp]
theorem ofNat_val (c : CodePoint) : ofNat c.val = c := Fin.ext (val_ofNat c.isLt)

/-- High surrogates are a range of code points. -/
theorem isHighSurrogate_iff (c : CodePoint) :
    c.isHighSurrogate = true ↔ 0xD800 ≤ c.val ∧ c.val < 0xDC00 := by
  simp [isHighSurrogate]

/-- Low surrogates are the range behind. -/
theorem isLowSurrogate_iff (c : CodePoint) :
    c.isLowSurrogate = true ↔ 0xDC00 ≤ c.val ∧ c.val < 0xE000 := by
  simp [isLowSurrogate]

/-- Surrogates are both ranges. -/
theorem isSurrogate_eq_false_iff (c : CodePoint) :
    c.isSurrogate = false ↔ ¬(0xD800 ≤ c.val ∧ c.val < 0xE000) := by
  rw [isSurrogate, Bool.or_eq_false_iff, Bool.eq_false_iff, Bool.eq_false_iff, ne_eq, ne_eq,
    isHighSurrogate_iff, isLowSurrogate_iff]
  omega

end CodePoint

namespace Text

/-- Two units that denote one code point together: a high surrogate and a low one after it. -/
def AreHalves (high low : Nat) : Prop :=
  (0xD800 ≤ high ∧ high < 0xDC00) ∧ 0xDC00 ≤ low ∧ low < 0xE000

instance (high low : Nat) : Decidable (AreHalves high low) :=
  inferInstanceAs (Decidable (_ ∧ _))

/-- Reads UTF-16 units from the left: two halves are the code point that they denote together, and
every other unit is the code point with its number. -/
def ofUnits16 : List Nat → Text
  | high :: low :: rest =>
    if AreHalves high low then
      CodePoint.ofNat (0x10000 + (high - 0xD800) * 0x400 + (low - 0xDC00)) :: ofUnits16 rest
    else CodePoint.ofNat high :: ofUnits16 (low :: rest)
  | units => units.map CodePoint.ofNat

/-- In a text no high surrogate stands directly before a low one. -/
def IsJoined (t : Text) : Prop := t.IsChain fun high low => ¬AreHalves high.val low.val

/-- The surrogates that are joined are those whose units are halves. -/
theorem areHalves_iff (high low : CodePoint) :
    (high.isHighSurrogate && low.isLowSurrogate) = true ↔ AreHalves high.val low.val := by
  rw [Bool.and_eq_true, CodePoint.isHighSurrogate_iff, CodePoint.isLowSurrogate_iff, AreHalves]

/-- The units of a text are those of its first code point and of the rest. -/
theorem units16_cons (c : CodePoint) (t : Text) : units16 (c :: t) = unitsOf c ++ units16 t :=
  List.flatMap_cons

/-- A code point below `0x10000` is its own unit. -/
theorem unitsOf_basic {c : CodePoint} (basic : c.val < 0x10000) : unitsOf c = [c.val] := by
  rw [unitsOf, if_pos basic]

/-- The number of the code point that halves denote. -/
theorem val_ofHalves {high low : CodePoint} (halves : AreHalves high.val low.val) :
    (ofHalves high low).val = 0x10000 + (high.val - 0xD800) * 0x400 + (low.val - 0xDC00) := by
  obtain ⟨⟨_, below⟩, _, belowToo⟩ := halves
  exact CodePoint.val_ofNat (by omega)

/-- Halves denote an astral code point. -/
theorem ofHalves_astral {high low : CodePoint} (halves : AreHalves high.val low.val) :
    0x10000 ≤ (ofHalves high low).val := by
  rw [val_ofHalves halves]
  omega

/-- Halves are joined to the code point that has them as its units. -/
theorem unitsOf_ofHalves {high low : CodePoint} (halves : AreHalves high.val low.val) :
    unitsOf (ofHalves high low) = [high.val, low.val] := by
  have number := val_ofHalves halves
  obtain ⟨⟨atLeast, below⟩, atLeastToo, belowToo⟩ := id halves
  have first : 0xD800 + ((ofHalves high low).val - 0x10000) / 0x400 = high.val := by omega
  have second : 0xDC00 + ((ofHalves high low).val - 0x10000) % 0x400 = low.val := by omega
  rw [unitsOf, if_neg (Nat.not_lt.mpr (ofHalves_astral halves)), first, second]

/-- The first unit of a code point is a low surrogate only if the code point is. -/
theorem unitsOf_eq_cons (c : CodePoint) : ∃ first rest, unitsOf c = first :: rest ∧
    ∀ high, AreHalves high first → AreHalves high c.val := by
  by_cases basic : c.val < 0x10000
  · exact ⟨c.val, [], unitsOf_basic basic, fun _ halves => halves⟩
  · have spelled : unitsOf c =
        [0xD800 + (c.val - 0x10000) / 0x400, 0xDC00 + (c.val - 0x10000) % 0x400] := by
      rw [unitsOf, if_neg basic]
    have bounded := c.isLt
    exact ⟨_, _, spelled, fun high halves => absurd halves.2.1 (by omega)⟩

/-- Reading the units of an astral code point gives it back. -/
theorem ofUnits16_astral {c : CodePoint} (astral : 0x10000 ≤ c.val) (units : List Nat) :
    ofUnits16 (unitsOf c ++ units) = c :: ofUnits16 units := by
  have bounded := c.isLt
  have halves : AreHalves (0xD800 + (c.val - 0x10000) / 0x400)
      (0xDC00 + (c.val - 0x10000) % 0x400) := by
    refine ⟨⟨?_, ?_⟩, ?_, ?_⟩ <;> omega
  have number : 0x10000 + (0xD800 + (c.val - 0x10000) / 0x400 - 0xD800) * 0x400 +
      (0xDC00 + (c.val - 0x10000) % 0x400 - 0xDC00) = c.val := by omega
  rw [unitsOf, if_neg (Nat.not_lt.mpr astral)]
  simp only [List.cons_append, List.nil_append, ofUnits16]
  rw [if_pos halves, number, CodePoint.ofNat_val]

/-- Halves in front are joined. -/
theorem joinHalves_of_pair {high low : CodePoint} (rest : Text)
    (pair : (high.isHighSurrogate && low.isLowSurrogate) = true) :
    joinHalves (high :: low :: rest) = ofHalves high low :: joinHalves rest := by
  rw [joinHalves, if_pos pair]

/-- What does not begin with halves keeps its first code point. -/
theorem joinHalves_of_apart {high low : CodePoint} (rest : Text)
    (apart : ¬(high.isHighSurrogate && low.isLowSurrogate) = true) :
    joinHalves (high :: low :: rest) = high :: joinHalves (low :: rest) := by
  rw [joinHalves, if_neg apart]

/-- Joining halves is the same as spelling the units out and reading them again. -/
theorem joinHalves_eq (t : Text) : joinHalves t = ofUnits16 (units16 t) := by
  induction t using List.twoStepInduction with
  | nil => rfl
  | singleton c =>
    by_cases basic : c.val < 0x10000
    · simp [joinHalves, units16, unitsOf_basic basic, ofUnits16]
    · have alone := ofUnits16_astral (Nat.not_lt.mp basic) []
      rw [units16_cons]
      exact alone.symm
  | cons_cons high low rest behind onward =>
    by_cases pair : (high.isHighSurrogate && low.isLowSurrogate) = true
    · have halves := (areHalves_iff high low).mp pair
      obtain ⟨⟨_, below⟩, _, belowToo⟩ := id halves
      rw [joinHalves_of_pair rest pair, units16_cons, units16_cons, unitsOf_basic (by omega),
        unitsOf_basic (by omega)]
      simp only [List.cons_append, List.nil_append, ofUnits16, halves, if_true, behind]
      rfl
    · have notHalves := mt (areHalves_iff high low).mpr pair
      have onwardHere := onward low
      rw [joinHalves_of_apart rest pair, units16_cons]
      by_cases basic : high.val < 0x10000
      · obtain ⟨first, more, spelled, onlyLow⟩ := unitsOf_eq_cons low
        rw [units16_cons, spelled] at onwardHere
        rw [unitsOf_basic basic, units16_cons, spelled]
        have apartStill : ¬AreHalves high.val first := fun halves => notHalves (onlyLow _ halves)
        simp only [List.cons_append, List.nil_append] at onwardHere ⊢
        rw [ofUnits16, if_neg apartStill, onwardHere, CodePoint.ofNat_val]
      · rw [ofUnits16_astral (Nat.not_lt.mp basic), onwardHere]

/-- Joining halves does not change the units. -/
theorem units16_joinHalves (t : Text) : units16 (joinHalves t) = units16 t := by
  induction t using List.twoStepInduction with
  | nil => rfl
  | singleton c => rfl
  | cons_cons high low rest behind onward =>
    by_cases pair : (high.isHighSurrogate && low.isLowSurrogate) = true
    · have halves := (areHalves_iff high low).mp pair
      obtain ⟨⟨_, below⟩, _, belowToo⟩ := id halves
      rw [joinHalves_of_pair rest pair, units16_cons, units16_cons, units16_cons,
        unitsOf_ofHalves halves, unitsOf_basic (c := high) (by omega),
        unitsOf_basic (c := low) (by omega), behind]
      rfl
    · rw [joinHalves_of_apart rest pair, units16_cons, units16_cons high, onward low]

/-- The first code point is a low surrogate after joining only if it was one before. -/
theorem joinHalves_eq_cons (c : CodePoint) (rest : Text) :
    ∃ first more, joinHalves (c :: rest) = first :: more ∧
      ∀ high, AreHalves high first.val → AreHalves high c.val := by
  cases rest with
  | nil => exact ⟨c, [], rfl, fun _ halves => halves⟩
  | cons low rest =>
    by_cases pair : (c.isHighSurrogate && low.isLowSurrogate) = true
    · have astral := ofHalves_astral ((areHalves_iff c low).mp pair)
      refine ⟨_, _, joinHalves_of_pair rest pair, fun high halves => ?_⟩
      exact absurd halves.2.2 (by omega)
    · exact ⟨c, _, joinHalves_of_apart rest pair, fun _ halves => halves⟩

/-- In a text whose halves are joined none are left. -/
theorem isJoined_joinHalves (t : Text) : (joinHalves t).IsJoined := by
  induction t using List.twoStepInduction with
  | nil => exact .nil
  | singleton c => exact .singleton c
  | cons_cons high low rest behind onward =>
    by_cases pair : (high.isHighSurrogate && low.isLowSurrogate) = true
    · have astral := ofHalves_astral ((areHalves_iff high low).mp pair)
      rw [joinHalves_of_pair rest pair]
      refine List.isChain_cons.mpr ⟨fun next _ halves => ?_, behind⟩
      exact absurd halves.1.2 (by omega)
    · have onwardHere := onward low
      rw [joinHalves_of_apart rest pair]
      obtain ⟨first, more, spelled, onlyLow⟩ := joinHalves_eq_cons low rest
      rw [spelled] at onwardHere ⊢
      refine List.isChain_cons_cons.mpr ⟨fun halves => ?_, onwardHere⟩
      exact pair ((areHalves_iff high low).mpr (onlyLow _ halves))

/-- A text without halves that stand together stays as it is when halves are joined. -/
theorem joinHalves_of_isJoined {t : Text} (joined : t.IsJoined) : joinHalves t = t := by
  induction t using List.twoStepInduction with
  | nil => rfl
  | singleton c => rfl
  | cons_cons high low rest behind onward =>
    obtain ⟨apart, joinedRest⟩ := List.isChain_cons_cons.mp joined
    rw [joinHalves_of_apart rest (mt (areHalves_iff high low).mp apart), onward low joinedRest]

/-- In a text without surrogates no halves stand together. -/
theorem isJoined_of_plain {t : Text} (plain : t.any CodePoint.isSurrogate = false) :
    t.IsJoined := by
  induction t with
  | nil => exact .nil
  | cons c rest inductionHypothesis =>
    obtain ⟨first, others⟩ : c.isSurrogate = false ∧ rest.any CodePoint.isSurrogate = false := by
      simpa [List.any_cons] using plain
    rw [CodePoint.isSurrogate_eq_false_iff] at first
    refine List.isChain_cons.mpr ⟨fun next _ halves => ?_, inductionHypothesis others⟩
    obtain ⟨⟨atLeast, below⟩, -⟩ := halves
    omega

/-- Texts without halves that stand together are equal if they have the same units. -/
theorem eq_of_units16_eq {t other : Text} (joined : t.IsJoined) (joinedToo : other.IsJoined)
    (same : t.units16 = other.units16) : t = other := by
  calc t
    _ = ofUnits16 t.units16 := by rw [← joinHalves_eq, joinHalves_of_isJoined joined]
    _ = ofUnits16 other.units16 := by rw [same]
    _ = other := by rw [← joinHalves_eq, joinHalves_of_isJoined joinedToo]

end Text

end TagAudit
