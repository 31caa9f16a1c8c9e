import TagAudit.Text.Integer

/-!
# Numbers in decimal

Messages and reports spell numbers out. The digits of a number spell that number, in every base of
at least two, so it is read back from them, and two numbers that are written alike are the same. Who
reads a count in a message knows which count was meant.
-/

namespace TagAudit.Text

/-- The number that digits spell in a base, most significant first. -/
def spelledValue (base : Nat) (digits : List Nat) : Nat :=
  digits.foldl (fun n digit => n * base + digit) 0

/-- The digits of a number spell it, if there may be enough of them. -/
theorem spelledValue_digitsUpTo (base bound n : Nat) (fits : n < Nat.pow base bound) :
    spelledValue base (digitsUpTo base bound n) = n := by
  induction bound generalizing n with
  | zero => simpa [digitsUpTo, spelledValue, eq_comm] using fits
  | succ bound inductionHypothesis =>
    rw [digitsUpTo]
    split
    · simp [spelledValue]
    · have fewer : n / base < Nat.pow base bound := by
        apply Nat.div_lt_of_lt_mul
        simpa only [Nat.pow_eq, Nat.pow_succ, Nat.mul_comm] using fits
      have leading := inductionHypothesis (n / base) fewer
      rw [spelledValue] at leading ⊢
      rw [List.foldl_append, leading, List.foldl_cons, List.foldl_nil, Nat.div_add_mod']

/-- Every digit is below the base. -/
theorem digitsUpTo_lt (base bound n digit : Nat) (positive : 0 < base)
    (member : digit ∈ digitsUpTo base bound n) : digit < base := by
  induction bound generalizing n with
  | zero => simp [digitsUpTo] at member
  | succ bound inductionHypothesis =>
    rw [digitsUpTo] at member
    split at member
    · rename_i small
      rw [List.mem_singleton.mp member]
      exact small
    · rcases List.mem_append.mp member with leading | last
      · exact inductionHypothesis (n / base) leading
      · rw [List.mem_singleton.mp last]
        exact Nat.mod_lt n positive

/-- There are enough digits for a number. -/
theorem lt_pow_log2 {base : Nat} (two : 2 ≤ base) (n : Nat) : n < Nat.pow base (n.log2 + 1) :=
  calc n
    _ < Nat.pow 2 (n.log2 + 1) := Nat.lt_log2_self
    _ ≤ Nat.pow base (n.log2 + 1) := Nat.pow_le_pow_left two _

/-- The digits of a number spell it. -/
theorem spelledValue_digits (base n : Nat) (two : 2 ≤ base) :
    spelledValue base (digits base n) = n :=
  spelledValue_digitsUpTo base _ n (lt_pow_log2 two n)

/-- A number below the base is a digit. -/
theorem digitsUpTo_of_lt {base n : Nat} (bound : Nat) (small : n < base) :
    digitsUpTo base (bound + 1) n = [n] := by
  rw [digitsUpTo, if_pos small]

/-- A number that is no digit has a last one. -/
theorem digitsUpTo_of_le {base n : Nat} (bound : Nat) (large : base ≤ n) :
    digitsUpTo base (bound + 1) n = digitsUpTo base bound (n / base) ++ [n % base] := by
  rw [digitsUpTo, if_neg (Nat.not_lt_of_le large)]

/-- Digits are the same wherever there may be enough of them. -/
theorem digitsUpTo_eq_of_lt {base bound more n : Nat} (fits : n < Nat.pow base (bound + 1))
    (fitsToo : n < Nat.pow base (more + 1)) :
    digitsUpTo base (bound + 1) n = digitsUpTo base (more + 1) n := by
  have fewer (bound n : Nat) (fits : n < Nat.pow base (bound + 1)) :
      n / base < Nat.pow base bound :=
    Nat.div_lt_of_lt_mul (by simpa only [Nat.pow_eq, Nat.pow_succ'] using fits)
  induction bound generalizing more n with
  | zero =>
    have small : n < base := by simpa using fits
    rw [digitsUpTo_of_lt 0 small, digitsUpTo_of_lt more small]
  | succ bound inductionHypothesis =>
    rcases Nat.lt_or_ge n base with small | large
    · rw [digitsUpTo_of_lt _ small, digitsUpTo_of_lt more small]
    · cases more with
      | zero =>
        have small : n < base := by simpa using fitsToo
        omega
      | succ more =>
        rw [digitsUpTo_of_le _ large, digitsUpTo_of_le _ large,
          inductionHypothesis (fewer _ n fits) (fewer _ n fitsToo)]

/-- The digits in front of the last one are those of the number without it. -/
theorem digits_of_le {base n : Nat} (two : 2 ≤ base) (large : base ≤ n) :
    digits base n = digits base (n / base) ++ [n % base] := by
  obtain ⟨fewer, bounded⟩ : ∃ fewer, n.log2 = fewer + 1 :=
    Nat.exists_eq_add_of_le' ((Nat.le_log2 (by omega)).mpr (by omega))
  have fitsToo : n / base < Nat.pow base (fewer + 1) := by
    rw [← bounded]
    exact Nat.div_lt_of_lt_mul (by simpa only [Nat.pow_eq, Nat.pow_succ'] using lt_pow_log2 two n)
  rw [digits, digitsUpTo_of_le _ large, digits, bounded,
    digitsUpTo_eq_of_lt fitsToo (lt_pow_log2 two _)]

/-- A padded number ends with its last digit, and the number without it is padded in front. -/
theorem padded_succ {base width : Nat} (two : 2 ≤ base) (positive : 0 < width) (n : Nat) :
    padded base (width + 1) n = padded base width (n / base) ++ [CodePoint.ofDigit (n % base)] := by
  by_cases small : n < base
  · have zero : digits base 0 = [0] := digitsUpTo_of_lt _ (by omega)
    have alone : digits base n = [n] := digitsUpTo_of_lt _ small
    have padding : List.replicate width ('0' : CodePoint) =
        List.replicate (width - 1) ('0' : CodePoint) ++ [CodePoint.ofDigit 0] := by
      obtain ⟨fewer, rfl⟩ := Nat.exists_eq_add_of_le' positive
      exact List.replicate_succ'
    simp only [padded, Nat.div_eq_of_lt small, Nat.mod_eq_of_lt small, zero, alone, List.map_cons,
      List.map_nil, List.length_singleton, Nat.add_sub_cancel, padding]
  · have counted : width + 1 - (digits base n).length =
        width - (digits base (n / base)).length := by
      rw [digits_of_le two (Nat.le_of_not_lt small), List.length_append, List.length_singleton]
      omega
    simp only [padded, List.length_map, counted]
    rw [digits_of_le two (Nat.le_of_not_lt small), List.map_append, List.map_singleton,
      List.append_assoc]

/-- The digits of a number can be told from how it is written. -/
theorem map_val_ofNat (n : Nat) :
    (ofNat n).map (fun c : CodePoint => c.val - 0x30) = digits 10 n := by
  have read (digit : Nat) (small : digit < 10) : (CodePoint.ofDigit digit).val - 0x30 = digit := by
    simp [CodePoint.ofDigit, small]
  rw [ofNat, List.map_map]
  conv => rhs; rw [← List.map_id (digits 10 n)]
  apply List.map_congr_left
  intro digit member
  exact read digit (digitsUpTo_lt 10 _ n digit (by decide) member)

/-- Numbers that are written alike are the same. -/
theorem ofNat_injective (m n : Nat) (same : ofNat m = ofNat n) : m = n := by
  calc m
    _ = spelledValue 10 (digits 10 m) := (spelledValue_digits 10 m (by decide)).symm
    _ = spelledValue 10 (digits 10 n) := by rw [← map_val_ofNat, same, map_val_ofNat]
    _ = n := spelledValue_digits 10 n (by decide)

/-- Every digit is read back. -/
theorem digitValue?_ofDigit (digit : Nat) (small : digit < 10) :
    CodePoint.digitValue? 10 (.ofDigit digit) = some digit := by
  have isDigit : (CodePoint.ofDigit digit).isDigit = true := by
    simp [CodePoint.isDigit, CodePoint.ofDigit, small]
    omega
  have value : (CodePoint.ofDigit digit).val - 0x30 = digit := by
    simp [CodePoint.ofDigit, small]
  simp [CodePoint.digitValue?, isDigit, value, small]

/-- So are digits in a row. -/
theorem mapM_digitValue? (row : List Nat) (small : ∀ digit ∈ row, digit < 10) :
    (row.map CodePoint.ofDigit).mapM (CodePoint.digitValue? 10) = some row := by
  induction row with
  | nil => rfl
  | cons digit rest inductionHypothesis =>
    obtain ⟨first, others⟩ := List.forall_mem_cons.mp small
    simp [List.mapM_cons, digitValue?_ofDigit digit first, inductionHypothesis others]

/-- A number begins with a digit. -/
theorem exists_ofNat_eq_cons (n : Nat) :
    ∃ digit rest, digit < 10 ∧ ofNat n = CodePoint.ofDigit digit :: rest := by
  cases spelled : digits 10 n with
  | nil =>
    -- no digits spell zero, but zero is spelled with one
    have zero : n = 0 := by
      rw [← spelledValue_digits 10 n (by decide), spelled]
      rfl
    rw [zero] at spelled
    cases spelled
  | cons digit rest =>
    have among : digit ∈ digits 10 n := by simp [spelled]
    refine ⟨digit, rest.map CodePoint.ofDigit, digitsUpTo_lt 10 _ n digit (by decide) among, ?_⟩
    rw [ofNat, spelled, List.map_cons]

/-- A number is read back from its digits. -/
theorem natural?_ofNat (n : Nat) : natural? 10 (ofNat n) = some n := by
  have filled : (ofNat n).isEmpty = false := by
    obtain ⟨digit, rest, -, written⟩ := exists_ofNat_eq_cons n
    simp [written]
  have small : ∀ digit ∈ digits 10 n, digit < 10 := fun digit member =>
    digitsUpTo_lt 10 _ n digit (by decide) member
  have spelled : (digits 10 n).foldl (fun n d => n * 10 + d) 0 = n :=
    spelledValue_digits 10 n (by decide)
  rw [natural?, if_neg (by simp [filled]), ofNat, mapM_digitValue? _ small, Option.map_some,
    spelled]

/-- An integer is read back from its sign and its digits. -/
theorem signed?_ofInt (n : Int) : signed? (natural? 10) (ofInt n) = some n := by
  cases n with
  | ofNat n =>
    obtain ⟨digit, rest, small, written⟩ := exists_ofNat_eq_cons n
    have unsigned : ∀ digit < 10,
        CodePoint.ofDigit digit ≠ '-' ∧ CodePoint.ofDigit digit ≠ '+' := by decide
    obtain ⟨noMinus, noPlus⟩ := unsigned digit small
    rw [ofInt, written, signed?, if_neg noMinus, if_neg noPlus, ← written, natural?_ofNat]
    rfl
  | negSucc n =>
    rw [ofInt, signed?, if_pos rfl, natural?_ofNat]
    rfl

/-- Integers that are written alike are the same. -/
theorem ofInt_injective (m n : Int) (same : ofInt m = ofInt n) : m = n := by
  apply Option.some.inj
  rw [← signed?_ofInt m, ← signed?_ofInt n, same]

end TagAudit.Text
