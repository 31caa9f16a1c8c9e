import TagAudit.Binary64

/-!
# Numbers of single precision

Thirty-two bits denote a number of single precision, and every such number is one of double
precision too. Widening one rounds a fraction, as everything does that yields a number. The fraction
has so few digits that rounding leaves it as it is.
-/

namespace TagAudit.Binary64

/-- What thirty-two bits denote. -/
def Shape.ofBits32 (bits : Nat) : Shape :=
  let negative := bits / Nat.pow 2 31 % 2 = 1
  let exponent : Nat := bits / Nat.pow 2 23 % 256
  let fraction := bits % Nat.pow 2 23
  if exponent = 255 then
    if fraction = 0 then .infinite negative else .notANumber
  else if exponent = 0 then .finite negative fraction (-149)
  else .finite negative (Nat.pow 2 23 + fraction) ((exponent : Int) - 150)

/-- How many times the least positive number goes into a finite one. Every finite number is a whole
multiple of it. -/
def leastNumbers (significand : Nat) (exponent : Int) : Nat :=
  significand * Nat.pow 2 (exponent + 1074).toNat

/-- Two shapes are the same number, or neither of them is a number. -/
def Shape.Same : Shape → Shape → Prop
  | .notANumber, .notANumber => True
  | .infinite negative, .infinite negative' => negative = negative'
  | .finite negative m e, .finite negative' n f =>
    negative = negative' ∧ leastNumbers m e = leastNumbers n f
  | _, _ => False

/-- The bits of a sign and a magnitude are these two. -/
theorem toNat_ofMagnitude (negative : Bool) {magnitude : Nat} (fits : magnitude < Nat.pow 2 63) :
    (ofMagnitude negative magnitude).bits.toNat =
      (if negative then Nat.pow 2 63 else 0) + magnitude := by
  rw [ofMagnitude, UInt64.toNat_ofNat']
  simp only [Nat.pow_eq] at *
  refine Nat.mod_eq_of_lt ?_
  split <;> omega

/-- What is denoted by a sign, an exponent that is neither the least nor the greatest, and a
fraction. -/
theorem shape_ofMagnitude (negative : Bool) {exponent fraction : Nat} (positive : 0 < exponent)
    (small : exponent < 2047) (fits : fraction < Nat.pow 2 52) :
    (ofMagnitude negative (exponent * Nat.pow 2 52 + fraction)).shape =
      .finite negative (Nat.pow 2 52 + fraction) ((exponent : Int) - 1075) := by
  have bits : (ofMagnitude negative (exponent * Nat.pow 2 52 + fraction)).bits.toNat =
      (if negative then Nat.pow 2 63 else 0) + (exponent * Nat.pow 2 52 + fraction) := by
    refine toNat_ofMagnitude negative ?_
    simp only [Nat.pow_eq] at *
    omega
  simp only [Nat.pow_eq] at *
  generalize (ofMagnitude negative (exponent * 2 ^ 52 + fraction)) = x at bits ⊢
  have sign : x.bits.toNat / 2 ^ 63 = 1 ↔ negative = true := by
    rw [bits]
    cases negative <;> simp <;> omega
  have middle : x.bits.toNat / 2 ^ 52 % 2048 = exponent := by
    rw [bits]
    cases negative <;> simp <;> omega
  have last : x.bits.toNat % 2 ^ 52 = fraction := by
    rw [bits]
    cases negative <;> simp <;> omega
  simp only [shape, Nat.pow_eq, middle, last, sign]
  rw [if_neg (Nat.ne_of_lt small), if_neg (Nat.ne_of_gt positive), Bool.decide_eq_true]

/-- A fraction that is divided by a power of two without a remainder. -/
theorem scaled_exact (m a b c : Nat) (exponent : Int) (exact : (a : Int) = b + exponent + c) :
    (scaled (m * Nat.pow 2 a) (Nat.pow 2 b) exponent).1 =
        m * Nat.pow 2 c * (scaled (m * Nat.pow 2 a) (Nat.pow 2 b) exponent).2 ∧
      0 < (scaled (m * Nat.pow 2 a) (Nat.pow 2 b) exponent).2 := by
  cases exponent with
  | ofNat e =>
    obtain rfl : a = b + e + c := by
      rw [Int.ofNat_eq_natCast] at exact
      omega
    refine ⟨?_, Nat.mul_pos (Nat.two_pow_pos _) (Nat.two_pow_pos _)⟩
    simp only [scaled, Nat.pow_eq, Nat.pow_add, Nat.mul_comm, Nat.mul_left_comm, Nat.mul_assoc]
  | negSucc e =>
    have together : a + (e + 1) = b + c := by omega
    refine ⟨?_, Nat.pow_pos (by decide)⟩
    simp only [scaled, Nat.pow_eq]
    rw [Nat.mul_assoc, ← Nat.pow_add, together, Nat.pow_add, Nat.mul_comm (2 ^ b), Nat.mul_assoc]

/-- Rounding leaves a whole number as it is. -/
theorem roundQuotient_mul (n : Nat) {den : Nat} (positive : 0 < den) :
    roundQuotient (n * den) den = n := by
  rw [roundQuotient, Nat.mul_div_cancel n positive, Nat.mul_mod_left]
  exact if_pos positive

/-- The logarithm of a number that is moved up. -/
theorem log2_mul_pow {m : Nat} (positive : 0 < m) (a : Nat) :
    (m * Nat.pow 2 a).log2 = m.log2 + a := by
  have moved : m * 2 ^ a ≠ 0 := Nat.ne_of_gt (Nat.mul_pos positive (Nat.two_pow_pos a))
  refine (Nat.log2_eq_iff moved).mpr ⟨?_, ?_⟩
  · rw [Nat.pow_add]
    exact Nat.mul_le_mul_right _ (Nat.log2_self_le (Nat.ne_of_gt positive))
  · rw [Nat.add_right_comm, Nat.pow_add]
    exact Nat.mul_lt_mul_of_pos_right Nat.lt_log2_self (Nat.two_pow_pos _)

/-- A number with at most fifty-three digits in base two has exactly as many when it is moved up. -/
theorem moved_up {m : Nat} (positive : 0 < m) (digits : m < Nat.pow 2 53) :
    m.log2 ≤ 52 ∧ Nat.pow 2 52 ≤ m * Nat.pow 2 (52 - m.log2) ∧
      m * Nat.pow 2 (52 - m.log2) < Nat.pow 2 53 := by
  have few : m.log2 < 53 := (Nat.log2_lt (Nat.ne_of_gt positive)).mpr digits
  have lower : 2 ^ m.log2 * 2 ^ (52 - m.log2) ≤ m * 2 ^ (52 - m.log2) :=
    Nat.mul_le_mul_right _ (Nat.log2_self_le (Nat.ne_of_gt positive))
  have upper : m * 2 ^ (52 - m.log2) < 2 ^ (m.log2 + 1) * 2 ^ (52 - m.log2) :=
    Nat.mul_lt_mul_of_pos_right Nat.lt_log2_self (Nat.two_pow_pos _)
  rw [← Nat.pow_add] at lower upper
  rw [show m.log2 + (52 - m.log2) = 52 by omega] at lower
  rw [show m.log2 + 1 + (52 - m.log2) = 53 by omega] at upper
  exact ⟨by omega, lower, upper⟩

/-- The exponent at which such a number has fifty-three digits. -/
theorem exponentFor_exact {m a b : Nat} (positive : 0 < m) (digits : m < Nat.pow 2 53)
    (notTiny : -1074 ≤ (m.log2 : Int) + a - b - 52) :
    exponentFor (m * Nat.pow 2 a) (Nat.pow 2 b) = (m.log2 : Int) + a - b - 52 := by
  obtain ⟨few, lower, -⟩ := moved_up positive digits
  have den : (Nat.pow 2 b).log2 = b := Nat.log2_two_pow
  have exact : (a : Int) = b + (((m.log2 + a : Nat) : Int) - b - 53) + (52 - m.log2 + 1 : Nat) := by
    omega
  obtain ⟨quotient, apart⟩ := scaled_exact m a b (52 - m.log2 + 1) _ exact
  have enough : ¬m * Nat.pow 2 (52 - m.log2 + 1) < Nat.pow 2 53 := by
    simp only [Nat.pow_eq, Nat.pow_succ, ← Nat.mul_assoc] at *
    omega
  rw [exponentFor, log2_mul_pow positive, den]
  dsimp only
  rw [quotient, Nat.mul_div_cancel _ apart, if_neg enough]
  omega

/-- A number with at most fifty-three digits in base two is not rounded, unless it is beyond the
numbers there are. -/
theorem ofRatio_exact (negative : Bool) {m a b : Nat} (positive : 0 < m) (digits : m < Nat.pow 2 53)
    (notTiny : -1074 ≤ (m.log2 : Int) + a - b - 52) (notHuge : (m.log2 : Int) + a - b - 52 ≤ 971) :
    (ofRatio negative (m * Nat.pow 2 a) (Nat.pow 2 b)).shape =
      .finite negative (m * Nat.pow 2 (52 - m.log2)) ((m.log2 : Int) + a - b - 52) := by
  obtain ⟨few, lower, upper⟩ := moved_up positive digits
  have notZero : ¬m * Nat.pow 2 a = 0 :=
    Nat.ne_of_gt (Nat.mul_pos positive (Nat.two_pow_pos a))
  obtain ⟨quotient, apart⟩ :=
    scaled_exact m a b (52 - m.log2) ((m.log2 : Int) + a - b - 52) (by omega)
  obtain ⟨exponent, same⟩ : ∃ exponent : Nat, (m.log2 : Int) + a - b - 52 + 1075 = exponent :=
    ⟨_, (Int.toNat_of_nonneg (by omega)).symm⟩
  rw [ofRatio, if_neg notZero, exponentFor_exact positive digits notTiny]
  dsimp only
  rw [quotient, roundQuotient_mul _ apart, if_neg (Nat.ne_of_lt upper)]
  dsimp only
  rw [if_neg (by omega), if_neg (Nat.not_lt.mpr lower), same, Int.toNat_natCast,
    shape_ofMagnitude negative (by omega) (by omega) (by simp only [Nat.pow_eq] at *; omega),
    Nat.add_sub_cancel' lower, ← same, Int.add_sub_cancel]

/-- The same number, written with its digits moved up. -/
theorem leastNumbers_moved_up {m c : Nat} {exponent : Int} (notTiny : -1074 ≤ exponent - c) :
    leastNumbers (m * Nat.pow 2 c) (exponent - c) = leastNumbers m exponent := by
  have together : (exponent + 1074).toNat = c + (exponent - c + 1074).toNat := by omega
  rw [leastNumbers, leastNumbers, together]
  simp only [Nat.pow_eq, Nat.pow_add, Nat.mul_assoc]

/-- A fraction with a power of two below it that is not rounded is the number it was. -/
theorem same_ofRatio (negative : Bool) {m a b : Nat} {exponent : Int} (positive : 0 < m)
    (digits : m < Nat.pow 2 53) (written : (a : Int) - b = exponent) (notTiny : -1022 ≤ exponent)
    (notHuge : exponent ≤ 971) :
    (ofRatio negative (m * Nat.pow 2 a) (Nat.pow 2 b)).shape.Same
      (.finite negative m exponent) := by
  obtain ⟨few, -, -⟩ := moved_up positive digits
  rw [ofRatio_exact negative positive digits (by omega) (by omega),
    show (m.log2 : Int) + a - b - 52 = exponent - (52 - m.log2 : Nat) by omega]
  exact ⟨rfl, leastNumbers_moved_up (by omega)⟩

/-- A number divided by a power of two. -/
theorem scaled_one (m : Nat) (exponent : Int) : ∃ a b : Nat,
    scaled m 1 exponent = (m * Nat.pow 2 a, Nat.pow 2 b) ∧ (b : Int) - a = exponent := by
  cases exponent with
  | ofNat e => exact ⟨0, e, by simp [scaled], by simp⟩
  | negSucc e => exact ⟨e + 1, 0, by simp [scaled], by omega⟩

/-- Widening changes no number. -/
theorem same_ofBinary32 (bits : Nat) :
    (ofBinary32 bits).shape.Same (Shape.ofBits32 bits) := by
  have few : bits % Nat.pow 2 23 < Nat.pow 2 23 := Nat.mod_lt _ (Nat.two_pow_pos _)
  have range : bits / Nat.pow 2 23 % 256 < 256 := Nat.mod_lt _ (by decide)
  simp only [ofBinary32, Shape.ofBits32]
  generalize decide (bits / Nat.pow 2 31 % 2 = 1) = negative
  generalize bits / Nat.pow 2 23 % 256 = exponent at range ⊢
  generalize bits % Nat.pow 2 23 = fraction at few ⊢
  simp only [Nat.pow_eq] at few
  by_cases special : exponent = 255
  · rw [if_pos special, if_pos special]
    split
    · cases negative <;> exact rfl
    · exact trivial
  · rw [if_neg special, if_neg special]
    split
    · cases fraction with
      | zero =>
        have nothing : (zero negative).shape = .finite negative 0 (-1074) := by
          cases negative <;> rfl
        rw [ofRatio, if_pos rfl, nothing]
        exact ⟨rfl, (Nat.zero_mul _).trans (Nat.zero_mul _).symm⟩
      | succ fraction =>
        have small : fraction + 1 < Nat.pow 2 53 := Nat.lt_trans few (by decide)
        have same : (ofRatio negative ((fraction + 1) * Nat.pow 2 0) (Nat.pow 2 149)).shape.Same
            (.finite negative (fraction + 1) (-149)) :=
          same_ofRatio negative (Nat.succ_pos _) small rfl (by omega) (by omega)
        rwa [Nat.pow_eq, Nat.pow_zero, Nat.mul_one] at same
    · obtain ⟨a, b, written, same⟩ := scaled_one (Nat.pow 2 23 + fraction) (150 - (exponent : Int))
      rw [written]
      simp only [Nat.pow_eq] at written ⊢
      have small : 2 ^ 23 + fraction < Nat.pow 2 53 :=
        Nat.lt_trans (Nat.add_lt_add_left few _) (by decide)
      exact same_ofRatio negative (by omega) small (by omega) (by omega) (by omega)

end TagAudit.Binary64
