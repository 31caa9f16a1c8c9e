import TagAudit.Text.Utf8
import TagAudit.Proofs.Text.Units

/-!
# What bytes stand for in UTF-8

A dialect of UTF-8 is a grammar: bytes are sequences one after another, each of which stands for a
code point. The grammar is given by the ranges of bytes and of code points alone, and reading
accepts exactly the bytes that it derives.

Class-file text stands for UTF-16 units. They are kept when it is read: which text comes of it
depends on the units only, so it does not matter whether an astral code point is written as one
sequence or as two, nor zero as a byte or as a pair.

Reading in three passes, each of which goes over all that the one before has left, comes to the
same. The first byte of the pair that stands for zero has no other use, and the zero byte in the
place of the pair completes no sequence that the pair has broken off.
-/

namespace TagAudit.Utf8

/-- A byte that stands after the first one of a sequence. -/
def Trails (b : UInt8) : Prop := 0x80 ≤ b.toNat ∧ b.toNat ≤ 0xBF

instance (b : UInt8) : Decidable (Trails b) := inferInstanceAs (Decidable (_ ∧ _))

/-- The sequences of a dialect, with the code points that they stand for. -/
inductive Sequence (dialect : Dialect) : List UInt8 → CodePoint → Prop where
  | one {a : UInt8} {p : CodePoint} (lead : a.toNat ≤ 0x7F) (value : p.val = a.toNat) :
      Sequence dialect [a] p
  | pairedZero {p : CodePoint} (allowed : dialect.pairedZero) (value : p.val = 0) :
      Sequence dialect [0xC0, 0x80] p
  | two {a b : UInt8} {p : CodePoint} (lead : 0xC2 ≤ a.toNat ∧ a.toNat ≤ 0xDF)
      (second : Trails b) (value : p.val = (a.toNat - 0xC0) * 0x40 + (b.toNat - 0x80)) :
      Sequence dialect [a, b] p
  | three {a b c : UInt8} {p : CodePoint} (lead : 0xE0 ≤ a.toNat ∧ a.toNat ≤ 0xEF)
      (second : Trails b) (third : Trails c)
      (value : p.val = (a.toNat - 0xE0) * 0x1000 + (b.toNat - 0x80) * 0x40 + (c.toNat - 0x80))
      (shortest : 0x800 ≤ p.val) (allowed : dialect.surrogates ∨ p.isSurrogate = false) :
      Sequence dialect [a, b, c] p
  | four {a b c d : UInt8} {p : CodePoint} (lead : 0xF0 ≤ a.toNat ∧ a.toNat ≤ 0xF7)
      (second : Trails b) (third : Trails c) (fourth : Trails d)
      (value : p.val = (a.toNat - 0xF0) * 0x40000 + (b.toNat - 0x80) * 0x1000
        + (c.toNat - 0x80) * 0x40 + (d.toNat - 0x80))
      (shortest : 0x10000 ≤ p.val) : Sequence dialect [a, b, c, d] p

/-- Bytes are sequences one after another, which stand for the code points of a text. -/
inductive Sequences (dialect : Dialect) : List UInt8 → Text → Prop where
  | nil : Sequences dialect [] []
  | cons {bytes rest : List UInt8} {p : CodePoint} {t : Text} (first : Sequence dialect bytes p)
      (onward : Sequences dialect rest t) : Sequences dialect (bytes ++ rest) (p :: t)

/-- The test for a byte after the first one. -/
theorem isContinuation_iff (b : UInt8) : isContinuation b = true ↔ Trails b := by
  simp only [isContinuation, Bool.and_eq_true, decide_eq_true_eq, Trails]
  omega

section
variable {dialect : Dialect} {a b c d : UInt8} {p : CodePoint}

/-- The test for a two-byte sequence. -/
theorem two?_eq_some_iff : two? dialect a b = some p ↔ Sequence dialect [a, b] p := by
  constructor
  · intro read
    rw [two?] at read
    split at read
    · rename_i zero
      simp only [Bool.and_eq_true, beq_iff_eq] at zero
      obtain ⟨⟨allowed, lead⟩, second⟩ := zero
      obtain rfl : a = 0xC0 := UInt8.toNat.inj lead
      obtain rfl : b = 0x80 := UInt8.toNat.inj second
      obtain rfl := Option.some.inj read
      exact .pairedZero allowed rfl
    · split at read
      · rename_i bounds
        simp only [Bool.and_eq_true, decide_eq_true_eq, isContinuation_iff] at bounds
        obtain ⟨⟨atLeast, below⟩, second⟩ := bounds
        obtain rfl := Option.some.inj read
        refine .two ⟨atLeast, by omega⟩ second (CodePoint.val_ofNat ?_)
        have := second.2
        omega
      · cases read
  · intro sequence
    cases sequence with
    | pairedZero allowed value =>
      have zero : CodePoint.ofNat 0 = p := Fin.ext value.symm
      simp [two?, allowed, zero]
    | two lead second value =>
      have notZero : (a.toNat == 0xC0) = false := by
        rw [beq_eq_false_iff_ne]
        omega
      have bounds : (0xC2 ≤ a.toNat ∧ a.toNat < 0xE0) ∧ Trails b := ⟨⟨lead.1, by omega⟩, second⟩
      have number : CodePoint.ofNat ((a.toNat - 0xC0) * 0x40 + (b.toNat - 0x80)) = p := by
        rw [← value, CodePoint.ofNat_val]
      simp [two?, notZero, bounds, isContinuation_iff, number]

/-- The test for a three-byte sequence. -/
theorem three?_eq_some_iff : three? dialect a b c = some p ↔ Sequence dialect [a, b, c] p := by
  constructor
  · intro read
    rw [three?] at read
    split at read
    · rename_i bounds
      simp only [Bool.and_eq_true, decide_eq_true_eq, isContinuation_iff] at bounds
      obtain ⟨⟨⟨atLeast, below⟩, second⟩, third⟩ := bounds
      have bounded : (a.toNat - 0xE0) * 0x1000 + (b.toNat - 0x80) * 0x40 + (c.toNat - 0x80) <
          0x110000 := by
        have := second.2
        have := third.2
        omega
      dsimp only at read
      split at read
      · cases read
      · split at read
        · cases read
        · rename_i long allowed
          obtain rfl := Option.some.inj read
          have number := CodePoint.val_ofNat bounded
          refine .three ⟨atLeast, by omega⟩ second third number (by omega) ?_
          rw [CodePoint.isSurrogate_eq_false_iff, number]
          simpa [or_iff_not_imp_right, and_imp] using allowed
    · cases read
  · intro sequence
    cases sequence with
    | three lead second third value shortest allowed =>
      have bounds : ((0xE0 ≤ a.toNat ∧ a.toNat < 0xF0) ∧ Trails b) ∧ Trails c :=
        ⟨⟨⟨lead.1, by omega⟩, second⟩, third⟩
      have long : ¬p.val < 0x800 := by omega
      rw [CodePoint.isSurrogate_eq_false_iff] at allowed
      have notRefused :
          ¬((0xD800 ≤ p.val ∧ p.val < 0xE000) ∧ dialect.surrogates = false) := by
        rintro ⟨surrogate, refused⟩
        simp [refused, surrogate] at allowed
      simp only [three?, Bool.and_eq_true, decide_eq_true_eq, isContinuation_iff, ← value,
        CodePoint.ofNat_val, Bool.not_eq_true']
      rw [if_pos bounds, if_neg long, if_neg notRefused]

/-- The test for a four-byte sequence. -/
theorem four?_eq_some_iff : four? a b c d = some p ↔ Sequence dialect [a, b, c, d] p := by
  constructor
  · intro read
    rw [four?] at read
    split at read
    · rename_i bounds
      simp only [Bool.and_eq_true, decide_eq_true_eq, isContinuation_iff] at bounds
      obtain ⟨⟨⟨⟨atLeast, below⟩, second⟩, third⟩, fourth⟩ := bounds
      dsimp only at read
      split at read
      · split at read
        · cases read
        · rename_i long
          obtain rfl := Option.some.inj read
          exact .four ⟨atLeast, by omega⟩ second third fourth rfl (Nat.le_of_not_lt long)
      · cases read
    · cases read
  · intro sequence
    cases sequence with
    | four lead second third fourth value shortest =>
      have bounded := p.isLt
      have bounds : (((0xF0 ≤ a.toNat ∧ a.toNat < 0xF5) ∧ Trails b) ∧ Trails c) ∧ Trails d :=
        ⟨⟨⟨⟨lead.1, by omega⟩, second⟩, third⟩, fourth⟩
      have astral : ¬p.val < 0x10000 := Nat.not_lt.mpr shortest
      simp only [four?, Bool.and_eq_true, decide_eq_true_eq, isContinuation_iff, ← value]
      rw [if_pos bounds, dif_pos bounded, if_neg astral]

/-- A byte that does not begin a two-byte sequence is read on. -/
theorem two?_eq_none_of_lead (lead : 0xE0 ≤ a.toNat) : two? dialect a b = none := by
  rw [Option.eq_none_iff_forall_ne_some]
  intro p read
  have sequence := two?_eq_some_iff.mp read
  cases sequence with
  | pairedZero => simp at lead
  | two bounds => omega

/-- A byte that does not begin a three-byte sequence is read on. -/
theorem three?_eq_none_of_lead (lead : 0xF0 ≤ a.toNat) : three? dialect a b c = none := by
  rw [Option.eq_none_iff_forall_ne_some]
  intro p read
  have sequence := three?_eq_some_iff.mp read
  cases sequence with
  | three bounds => omega

end

section
variable {dialect : Dialect} {bytes : List UInt8} {t : Text}

/-- A sequence at the front is read, and then what follows it. -/
theorem sequences?_append {p : CodePoint} (first : Sequence dialect bytes p) (rest : List UInt8) :
    sequences? dialect (bytes ++ rest) = (sequences? dialect rest).map (p :: ·) := by
  cases first with
  | @one a _ lead value =>
    have number : CodePoint.ofNat a.toNat = p := by rw [← value, CodePoint.ofNat_val]
    have plain : a.toNat < 0x80 := by omega
    rw [sequences?.eq_def]
    simp [plain, number]
  | pairedZero allowed value =>
    have read := two?_eq_some_iff.mpr (Sequence.pairedZero allowed value)
    rw [sequences?.eq_def]
    simp [read]
  | @two a b _ lead second value =>
    have sequence : Sequence dialect [a, b] p := .two lead second value
    have read := two?_eq_some_iff.mpr sequence
    have long : ¬a.toNat < 0x80 := by omega
    rw [sequences?.eq_def]
    simp [long, read]
  | @three a b c _ lead second third value shortest allowed =>
    have read := three?_eq_some_iff.mpr (Sequence.three lead second third value shortest allowed)
    have long : ¬a.toNat < 0x80 := by omega
    have notTwo : two? dialect a b = none := two?_eq_none_of_lead lead.1
    rw [sequences?.eq_def]
    simp [long, notTwo, read]
  | @four a b c d _ lead second third fourth value shortest =>
    have sequence : Sequence dialect [a, b, c, d] p :=
      .four lead second third fourth value shortest
    have read := four?_eq_some_iff.mpr sequence
    have long : ¬a.toNat < 0x80 := by omega
    have notTwo : two? dialect a b = none := two?_eq_none_of_lead (by omega)
    have notThree : three? dialect a b c = none := three?_eq_none_of_lead lead.1
    rw [sequences?.eq_def]
    simp [long, notTwo, notThree, read]

/-- Bytes are read as a text exactly if they are the sequences of its code points. -/
theorem sequences?_eq_some_iff : sequences? dialect bytes = some t ↔ Sequences dialect bytes t := by
  constructor
  · intro read
    fun_induction sequences? dialect bytes generalizing t with
    | case1 =>
      obtain rfl := Option.some.inj read
      exact .nil
    | case2 a rest plain inductionHypothesis =>
      obtain ⟨more, onward, rfl⟩ := Option.map_eq_some_iff.mp read
      have number := CodePoint.val_ofNat (n := a.toNat) (by omega)
      exact .cons (.one (by omega) number) (inductionHypothesis onward)
    | case4 a long b rest p two inductionHypothesis =>
      obtain ⟨more, onward, rfl⟩ := Option.map_eq_some_iff.mp read
      exact .cons (two?_eq_some_iff.mp two) (inductionHypothesis onward)
    | case6 a long b notTwo c rest p three inductionHypothesis =>
      obtain ⟨more, onward, rfl⟩ := Option.map_eq_some_iff.mp read
      exact .cons (three?_eq_some_iff.mp three) (inductionHypothesis onward)
    | case8 a long b notTwo c notThree d rest p four inductionHypothesis =>
      obtain ⟨more, onward, rfl⟩ := Option.map_eq_some_iff.mp read
      exact .cons (four?_eq_some_iff.mp four) (inductionHypothesis onward)
    | case3 | case5 | case7 | case9 => cases read
  · intro spelled
    induction spelled with
    | nil => rw [sequences?]
    | cons first onward inductionHypothesis =>
      rw [sequences?_append first, inductionHypothesis]
      rfl

end

/-- Bytes stand for UTF-16 units in class-file text: they are sequences one after another, and the
units are those of their code points in order. -/
def Denotes (bytes : List UInt8) (units : List Nat) : Prop :=
  ∃ t, Sequences classFile bytes t ∧ t.units16 = units

/-- Class-file text is read as the text without halves that stand together whose units the bytes
stand for. -/
theorem decodeClassFile?_eq_some_iff {bytes : List UInt8} {t : Text} :
    decodeClassFile? bytes = some t ↔ Denotes bytes t.units16 ∧ t.IsJoined := by
  rw [decodeClassFile?, Option.map_eq_some_iff]
  constructor
  · rintro ⟨apart, read, rfl⟩
    have sameUnits := (Text.units16_joinHalves apart).symm
    exact ⟨⟨apart, sequences?_eq_some_iff.mp read, sameUnits⟩, Text.isJoined_joinHalves apart⟩
  · rintro ⟨⟨apart, spelled, sameUnits⟩, joined⟩
    refine ⟨apart, sequences?_eq_some_iff.mpr spelled, ?_⟩
    apply Text.eq_of_units16_eq (Text.isJoined_joinHalves apart) joined
    rw [Text.units16_joinHalves, sameUnits]

/-- Bytes that stand for units are read. -/
theorem Denotes.exists_text {bytes : List UInt8} {units : List Nat}
    (denotes : Denotes bytes units) :
    ∃ t, decodeClassFile? bytes = some t ∧ t.units16 = units := by
  obtain ⟨apart, spelled, rfl⟩ := denotes
  have sameUnits := Text.units16_joinHalves apart
  have read : decodeClassFile? bytes = some apart.joinHalves := by
    rw [decodeClassFile?, sequences?_eq_some_iff.mpr spelled]
    rfl
  exact ⟨apart.joinHalves, read, sameUnits⟩

/-! ## Three passes -/

/-- The dialect in which zero is a plain byte only. -/
def plainZero : Dialect := ⟨false, true⟩

/-- A zero byte in place of every pair `C0 80`, wherever it stands. -/
def exchangeZeros : List UInt8 → List UInt8
  | a :: b :: rest =>
    if a = 0xC0 ∧ b = 0x80 then 0 :: exchangeZeros rest else a :: exchangeZeros (b :: rest)
  | bytes => bytes

/-- Decodes class-file text in three passes over all of it: pairs that stand for zero are exchanged
byte by byte, the sequences are read, and if there are any surrogates the text is spelled out in
UTF-16 units, which are read again. -/
def decodeInPasses? (bytes : List UInt8) : Option Text :=
  (sequences? plainZero (exchangeZeros bytes)).map fun t =>
    if t.any CodePoint.isSurrogate then Text.ofUnits16 t.units16 else t

/-- Some byte is left of some. -/
theorem exchangeZeros_cons_ne_nil (a : UInt8) (rest : List UInt8) :
    exchangeZeros (a :: rest) ≠ [] := by
  cases rest with
  | nil => exact List.cons_ne_nil _ _
  | cons b rest =>
    rw [exchangeZeros]
    split <;> exact List.cons_ne_nil _ _

/-- Bytes that begin no pair stay as they are. -/
theorem exchangeZeros_append {bytes : List UInt8} (others : ∀ b ∈ bytes, b ≠ 0xC0)
    (rest : List UInt8) : exchangeZeros (bytes ++ rest) = bytes ++ exchangeZeros rest := by
  induction bytes with
  | nil => rfl
  | cons a bytes inductionHypothesis =>
    have onward := inductionHypothesis fun b among => others b (List.mem_cons_of_mem a among)
    have noPair : a ≠ 0xC0 := others a List.mem_cons_self
    rw [List.cons_append, List.cons_append, ← onward]
    cases behind : bytes ++ rest with
    | nil => rfl
    | cons b more => simp [exchangeZeros, noPair]

/-- A first byte after the exchange was first before, unless it stands for a pair. -/
theorem exchangeZeros_eq_cons {bytes rest : List UInt8} {a : UInt8}
    (exchanged : exchangeZeros bytes = a :: rest) :
    (∃ more, bytes = a :: more ∧ exchangeZeros more = rest) ∨
      a = 0 ∧ ∃ more, bytes = 0xC0 :: 0x80 :: more ∧ exchangeZeros more = rest := by
  match bytes with
  | [] => cases exchanged
  | [b] =>
    obtain ⟨rfl, rfl⟩ := List.cons.inj exchanged
    exact .inl ⟨[], rfl, rfl⟩
  | b :: c :: more =>
    rw [exchangeZeros] at exchanged
    split at exchanged
    · rename_i pair
      obtain ⟨rfl, rfl⟩ := pair
      obtain ⟨rfl, same⟩ := List.cons.inj exchanged
      exact .inr ⟨rfl, more, rfl, same⟩
    · obtain ⟨rfl, same⟩ := List.cons.inj exchanged
      exact .inl ⟨c :: more, rfl, same⟩

/-- Bytes other than zero stood where they stand after the exchange. -/
theorem exchangeZeros_eq_append {bytes first rest : List UInt8} (others : ∀ b ∈ first, b ≠ 0)
    (exchanged : exchangeZeros bytes = first ++ rest) :
    ∃ more, bytes = first ++ more ∧ exchangeZeros more = rest := by
  induction first generalizing bytes with
  | nil => exact ⟨bytes, rfl, exchanged⟩
  | cons a first inductionHypothesis =>
    rcases exchangeZeros_eq_cons exchanged with ⟨more, rfl, onward⟩ | ⟨zero, -⟩
    · obtain ⟨last, rfl, same⟩ :=
        inductionHypothesis (fun b among => others b (List.mem_cons_of_mem a among)) onward
      exact ⟨last, rfl, same⟩
    · exact (others a List.mem_cons_self zero).elim

/-- A byte that trails is neither zero nor the first one of the pair that stands for zero. -/
theorem Trails.differs {b : UInt8} (trails : Trails b) : b ≠ 0xC0 ∧ b ≠ 0 := by
  constructor
  · rintro rfl
    exact absurd trails (by decide)
  · rintro rfl
    exact absurd trails (by decide)

/-- A sequence is the pair that stands for zero, or it is one in every dialect with as many
surrogates. Then the pair does not begin in it, and it is the zero byte or holds none. -/
theorem Sequence.paired_or_common {dialect : Dialect} {bytes : List UInt8} {p : CodePoint}
    (sequence : Sequence dialect bytes p) :
    (dialect.pairedZero ∧ bytes = [0xC0, 0x80] ∧ p.val = 0) ∨
      (∀ other : Dialect, other.surrogates = dialect.surrogates → Sequence other bytes p) ∧
        (∀ b ∈ bytes, b ≠ 0xC0) ∧ ((bytes = [0] ∧ p.val = 0) ∨ ∀ b ∈ bytes, b ≠ 0) := by
  have leads {a : UInt8} (atLeast : 0xC2 ≤ a.toNat) : a ≠ 0xC0 ∧ a ≠ 0 := by
    constructor
    · rintro rfl
      exact absurd atLeast (by decide)
    · rintro rfl
      exact absurd atLeast (by decide)
  cases sequence with
  | @one a _ lead value =>
    refine .inr ⟨fun _ _ => .one lead value, ?_, ?_⟩
    · have noPair : a ≠ 0xC0 := by
        rintro rfl
        exact absurd lead (by decide)
      simpa using noPair
    · by_cases zero : a = 0
      · subst zero
        exact .inl ⟨rfl, value⟩
      · exact .inr (by simpa using zero)
  | pairedZero allowed value => exact .inl ⟨allowed, rfl, value⟩
  | two lead second value =>
    have first := leads lead.1
    refine .inr ⟨fun _ _ => .two lead second value, ?_, .inr ?_⟩
    · simpa using ⟨first.1, second.differs.1⟩
    · simpa using ⟨first.2, second.differs.2⟩
  | three lead second third value shortest allowed =>
    have first := leads (Nat.le_trans (by decide) lead.1)
    refine .inr ⟨fun _ alike => .three lead second third value shortest (alike ▸ allowed), ?_,
      .inr ?_⟩
    · simpa using ⟨first.1, second.differs.1, third.differs.1⟩
    · simpa using ⟨first.2, second.differs.2, third.differs.2⟩
  | four lead second third fourth value shortest =>
    have first := leads (Nat.le_trans (by decide) lead.1)
    refine .inr ⟨fun _ _ => .four lead second third fourth value shortest, ?_, .inr ?_⟩
    · simpa using ⟨first.1, second.differs.1, third.differs.1, fourth.differs.1⟩
    · simpa using ⟨first.2, second.differs.2, third.differs.2, fourth.differs.2⟩

/-- Exchanging the pairs that stand for zero makes no difference to what bytes are read as, whatever
stands around the pairs. -/
theorem sequences?_exchangeZeros (bytes : List UInt8) :
    sequences? plainZero (exchangeZeros bytes) = sequences? classFile bytes := by
  apply Option.ext
  intro t
  rw [sequences?_eq_some_iff, sequences?_eq_some_iff]
  constructor
  · intro spelled
    generalize same : exchangeZeros bytes = exchanged at spelled
    induction spelled generalizing bytes with
    | nil =>
      cases bytes with
      | nil => exact .nil
      | cons a rest => exact (exchangeZeros_cons_ne_nil a rest same).elim
    | cons first onward inductionHypothesis =>
      rcases first.paired_or_common with ⟨allowed, -⟩ | ⟨common, -, ⟨rfl, value⟩ | others⟩
      · cases allowed
      · -- A zero byte after the exchange was one before, or the pair.
        rcases exchangeZeros_eq_cons same with ⟨more, rfl, behind⟩ | ⟨-, more, rfl, behind⟩
        · exact .cons (.one (by decide) value) (inductionHypothesis more behind)
        · exact .cons (.pairedZero rfl value) (inductionHypothesis more behind)
      · obtain ⟨more, rfl, behind⟩ := exchangeZeros_eq_append others same
        exact .cons (common classFile rfl) (inductionHypothesis more behind)
  · intro spelled
    induction spelled with
    | nil => exact .nil
    | cons first onward inductionHypothesis =>
      rcases first.paired_or_common with ⟨-, rfl, value⟩ | ⟨common, others, -⟩
      · exact .cons (.one (by decide) value) inductionHypothesis
      · rw [exchangeZeros_append others]
        exact .cons (common plainZero rfl) inductionHypothesis

/-- The three passes come to the same as one. -/
theorem decodeInPasses?_eq (bytes : List UInt8) :
    decodeInPasses? bytes = decodeClassFile? bytes := by
  rw [decodeInPasses?, decodeClassFile?, sequences?_exchangeZeros]
  congr 1
  funext t
  split
  · exact (Text.joinHalves_eq t).symm
  · rename_i plain
    exact (Text.joinHalves_of_isJoined (Text.isJoined_of_plain (Bool.eq_false_iff.mpr plain))).symm

/-- Class-file text is read exactly if its bytes stand for UTF-16 units, and then as the text
without halves that stand together which has these units. So two constants are read as the same text
exactly if they stand for the same units. Three passes over the bytes come to the same. -/
theorem decodeClassFile?_exact (bytes : List UInt8) :
    ((decodeClassFile? bytes).isSome ↔ ∃ units, Denotes bytes units) ∧
    (∀ t, decodeClassFile? bytes = some t ↔ Denotes bytes t.units16 ∧ t.IsJoined) ∧
    (∀ others units more, Denotes bytes units → Denotes others more →
      (decodeClassFile? bytes = decodeClassFile? others ↔ units = more)) ∧
    decodeClassFile? bytes = decodeInPasses? bytes := by
  refine ⟨?_, fun t => decodeClassFile?_eq_some_iff, ?_, (decodeInPasses?_eq bytes).symm⟩
  · rw [Option.isSome_iff_exists]
    constructor
    · rintro ⟨t, read⟩
      exact ⟨_, (decodeClassFile?_eq_some_iff.mp read).1⟩
    · rintro ⟨units, denotes⟩
      obtain ⟨t, read, -⟩ := denotes.exists_text
      exact ⟨t, read⟩
  · intro others units more denotes denotesToo
    obtain ⟨t, read, rfl⟩ := denotes.exists_text
    obtain ⟨other, readToo, rfl⟩ := denotesToo.exists_text
    rw [read, readToo, Option.some.injEq]
    have joined := (decodeClassFile?_eq_some_iff.mp read).2
    have joinedToo := (decodeClassFile?_eq_some_iff.mp readToo).2
    exact ⟨congrArg Text.units16, Text.eq_of_units16_eq joined joinedToo⟩

/-- Zero as a pair or as a byte, a high surrogate before another, and an astral code point as its
halves or as a sequence of its own are read alike. -/
theorem spellings_read_alike :
    let bytes : List UInt8 :=
      [0xC0, 0x80, 0xED, 0xA0, 0x80, 0xED, 0xA0, 0x80, 0xED, 0xB0, 0x80]
    let others : List UInt8 := [0x00, 0xED, 0xA0, 0x80, 0xF0, 0x90, 0x80, 0x80]
    let units := [0, 0xD800, 0xD800, 0xDC00]
    Denotes bytes units ∧ Denotes others units ∧ decodeClassFile? bytes = decodeClassFile? others ∧
      decodeClassFile? bytes = some [0, 0xD800, 0x10000] := by
  intro bytes others units
  have denotes : Denotes bytes units :=
    ⟨[0, 0xD800, 0xD800, 0xDC00], sequences?_eq_some_iff.mp (by decide +kernel), by decide +kernel⟩
  have denotesToo : Denotes others units :=
    ⟨[0, 0xD800, 0x10000], sequences?_eq_some_iff.mp (by decide +kernel), by decide +kernel⟩
  obtain ⟨-, -, alike, -⟩ := decodeClassFile?_exact bytes
  exact ⟨denotes, denotesToo, (alike others units units denotes denotesToo).mpr rfl,
    by decide +kernel⟩

end TagAudit.Utf8
