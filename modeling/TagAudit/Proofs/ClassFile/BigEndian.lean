import TagAudit.ClassFile.Cursor

/-!
# Big-endian words

A word of a class file is a number written with its most significant byte first. The writer here
and the reading of a cursor are inverse to each other: every number below the capacity of a width
has exactly one spelling of that width, and every byte sequence is the spelling of the number that
is read from it.

Machine words enter as numbers. A two's complement reading of a spelled word is the value that the
signed word has by itself.
-/

namespace TagAudit.ClassFile

/-- The spelling of a number in a number of bytes, most significant first. A number that is too
large is cut to its lowest bytes. -/
def bytesOf : (width : Nat) → (n : Nat) → List UInt8
  | 0, _ => []
  | width + 1, n => UInt8.ofNat (n / Nat.pow 256 width) :: bytesOf width n

/-- A spelling has the width it was written in, whatever the number. -/
@[simp] theorem bytesOf_length (width n : Nat) : (bytesOf width n).length = width := by
  induction width with
  | zero => rfl
  | succ width inductionHypothesis => simp [bytesOf, inductionHypothesis]

/-- Reading with a number in front adds that number, moved up by all bytes read. -/
theorem foldl_bigEndian (first : Nat) (bytes : List UInt8) :
    bytes.foldl (fun n b => n * 256 + b.toNat) first =
      first * Nat.pow 256 bytes.length + bigEndian bytes := by
  induction bytes generalizing first with
  | nil => simp [bigEndian]
  | cons b rest inductionHypothesis =>
    have moved : bigEndian (b :: rest) = b.toNat * Nat.pow 256 rest.length + bigEndian rest := by
      simpa [bigEndian] using inductionHypothesis b.toNat
    rw [List.foldl_cons, inductionHypothesis, moved, List.length_cons]
    simp only [Nat.pow_eq, Nat.pow_succ, Nat.add_mul, Nat.mul_assoc, Nat.add_assoc,
      Nat.mul_comm 256]

/-- The first byte counts for the highest power. -/
theorem bigEndian_cons (b : UInt8) (rest : List UInt8) :
    bigEndian (b :: rest) = b.toNat * Nat.pow 256 rest.length + bigEndian rest := by
  simpa [bigEndian] using foldl_bigEndian b.toNat rest

/-- Bytes spell a number below the capacity of their width. -/
theorem bigEndian_lt (bytes : List UInt8) : bigEndian bytes < Nat.pow 256 bytes.length := by
  induction bytes with
  | nil => decide
  | cons b rest inductionHypothesis =>
    have small : b.toNat < 256 := b.toNat_lt
    have scaled : (b.toNat + 1) * Nat.pow 256 rest.length ≤ 256 * Nat.pow 256 rest.length :=
      Nat.mul_le_mul_right _ small
    rw [bigEndian_cons, List.length_cons]
    simp only [Nat.pow_eq, Nat.pow_succ, Nat.add_mul, Nat.one_mul] at *
    omega

/-- A spelling looks at the lowest bytes only: a multiple of the capacity changes nothing. -/
theorem bytesOf_add_mul (width n k : Nat) :
    bytesOf width (k * Nat.pow 256 width + n) = bytesOf width n := by
  induction width generalizing k with
  | zero => rfl
  | succ width inductionHypothesis =>
    have positive : 0 < Nat.pow 256 width := Nat.pow_pos (by decide)
    have split : k * Nat.pow 256 (width + 1) + n = k * 256 * Nat.pow 256 width + n := by
      simp only [Nat.pow_eq, Nat.pow_succ, Nat.mul_assoc, Nat.mul_comm 256]
    have digit : UInt8.ofNat ((k * 256 * Nat.pow 256 width + n) / Nat.pow 256 width) =
        UInt8.ofNat (n / Nat.pow 256 width) := by
      rw [Nat.add_comm, Nat.add_mul_div_right _ _ positive]
      apply UInt8.toNat_inj.mp
      simp [UInt8.toNat_ofNat']
    rw [bytesOf, bytesOf, split, digit, inductionHypothesis]

/-- Every byte sequence is the spelling of the number that is read from it. -/
theorem bytesOf_bigEndian (bytes : List UInt8) :
    bytesOf bytes.length (bigEndian bytes) = bytes := by
  induction bytes with
  | nil => rfl
  | cons b rest inductionHypothesis =>
    have positive : 0 < Nat.pow 256 rest.length := Nat.pow_pos (by decide)
    have highest : (b.toNat * Nat.pow 256 rest.length + bigEndian rest) /
        Nat.pow 256 rest.length = b.toNat := by
      rw [Nat.add_comm, Nat.add_mul_div_right _ _ positive,
        Nat.div_eq_of_lt (bigEndian_lt rest), Nat.zero_add]
    rw [bigEndian_cons, List.length_cons, bytesOf, highest, bytesOf_add_mul, inductionHypothesis]
    simp

/-- The number read from a spelling is the number written, if the width can hold it. -/
theorem bigEndian_bytesOf (width n : Nat) (fits : n < Nat.pow 256 width) :
    bigEndian (bytesOf width n) = n := by
  induction width generalizing n with
  | zero =>
    have none : n = 0 := Nat.lt_one_iff.mp fits
    subst n
    rfl
  | succ width inductionHypothesis =>
    have positive : 0 < Nat.pow 256 width := Nat.pow_pos (by decide)
    have digit : n / Nat.pow 256 width < 256 := by
      apply Nat.div_lt_of_lt_mul
      simpa only [Nat.pow_eq, Nat.pow_succ] using fits
    have split : n / Nat.pow 256 width * Nat.pow 256 width + n % Nat.pow 256 width = n := by
      rw [Nat.mul_comm]
      exact Nat.div_add_mod n _
    have lower : bytesOf width n = bytesOf width (n % Nat.pow 256 width) := by
      calc bytesOf width n
        _ = bytesOf width (n / Nat.pow 256 width * Nat.pow 256 width + n % Nat.pow 256 width) := by
          rw [split]
        _ = bytesOf width (n % Nat.pow 256 width) := bytesOf_add_mul _ _ _
    rw [bytesOf, bigEndian_cons, bytesOf_length, lower,
      inductionHypothesis _ (Nat.mod_lt n positive), UInt8.toNat_ofNat_of_lt' digit, split]

/-- Numbers below the capacity and byte sequences of the width are the same thing. -/
theorem bigEndian_eq_iff (width n : Nat) (bytes : List UInt8) :
    bytes.length = width ∧ bigEndian bytes = n ↔
      n < Nat.pow 256 width ∧ bytes = bytesOf width n := by
  constructor
  · rintro ⟨rfl, rfl⟩
    exact ⟨bigEndian_lt bytes, (bytesOf_bigEndian bytes).symm⟩
  · rintro ⟨fits, rfl⟩
    exact ⟨bytesOf_length width n, bigEndian_bytesOf width n fits⟩

/-- A word is read back from its eight bytes. -/
theorem bigEndian_word64 (word : UInt64) : bigEndian (bytesOf 8 word.toNat) = word.toNat :=
  bigEndian_bytesOf 8 _ word.toNat_lt

/-- Two bytes spell some word. -/
theorem exists_word16 (bytes : List UInt8) (counted : bytes.length = 2) :
    ∃ word : UInt16, bytesOf 2 word.toNat = bytes := by
  have fits : bigEndian bytes < Nat.pow 256 2 := by
    rw [← counted]
    exact bigEndian_lt bytes
  refine ⟨UInt16.ofNat (bigEndian bytes), ?_⟩
  rw [UInt16.toNat_ofNat_of_lt' fits, ← counted, bytesOf_bigEndian]

/-- Bytes that are long enough begin with the spelling of some word. -/
theorem exists_word16_append (bytes : List UInt8) (enough : 2 ≤ bytes.length) :
    ∃ (word : UInt16) (later : List UInt8),
      bytesOf 2 word.toNat ++ later = bytes ∧ later.length = bytes.length - 2 := by
  obtain ⟨word, spelled⟩ := exists_word16 (bytes.take 2) (List.length_take_of_le enough)
  exact ⟨word, bytes.drop 2, by rw [spelled, List.take_append_drop], List.length_drop⟩

/-- Bytes of an even number spell half as many words. -/
theorem exists_words16 (count : Nat) (bytes : List UInt8) (counted : bytes.length = 2 * count) :
    ∃ words : List UInt16, words.length = count ∧
      (words.flatMap fun word => bytesOf 2 word.toNat) = bytes := by
  induction count generalizing bytes with
  | zero => exact ⟨[], rfl, (List.length_eq_zero_iff.mp counted).symm⟩
  | succ count inductionHypothesis =>
    obtain ⟨word, later, rfl, left⟩ := exists_word16_append bytes (by omega)
    obtain ⟨words, rfl, rfl⟩ := inductionHypothesis later (by omega)
    exact ⟨word :: words, rfl, rfl⟩

/-- Four bytes spell two words. -/
theorem exists_pair16 (bytes : List UInt8) (counted : bytes.length = 4) :
    ∃ words : UInt16 × UInt16,
      bytesOf 2 words.1.toNat ++ bytesOf 2 words.2.toNat = bytes := by
  obtain ⟨words, two, rfl⟩ := exists_words16 2 bytes counted
  match words, two with
  | [first, second], _ => exact ⟨(first, second), by simp⟩

/-- The two's complement reading of a word is the value of the word as a signed one. -/
theorem signed_toNat (width : Nat) (word : BitVec (width + 1)) :
    signed (width + 1) word.toNat = word.toInt := by
  have halves : Nat.pow 2 (width + 1) = 2 * Nat.pow 2 width := by
    simp only [Nat.pow_eq, Nat.pow_succ, Nat.mul_comm]
  rw [BitVec.toInt_eq_toNat_cond, signed, Nat.add_sub_cancel]
  simp only [Nat.pow_eq] at *
  rw [halves]
  by_cases small : word.toNat < 2 ^ width
  · rw [if_pos small, if_pos (by omega)]
  · rw [if_neg small, if_neg (by omega)]

/-- The signed word of four bytes. -/
theorem signed_word32 (n : Int32) : signed 32 n.toUInt32.toNat = n.toInt :=
  signed_toNat 31 n.toBitVec

/-- The signed word of eight bytes. -/
theorem signed_word64 (n : Int64) : signed 64 n.toUInt64.toNat = n.toInt :=
  signed_toNat 63 n.toBitVec

end TagAudit.ClassFile
