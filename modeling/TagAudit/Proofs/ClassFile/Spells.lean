import TagAudit.Proofs.ClassFile.Reads

/-!
# Readings matched with items

An item of a format has a spelling and stands for a value. A reading is matched with a kind of
items when it accepts exactly the spellings of the valid ones, each with the value that the item
stands for. A bound on the length of what is read is part of the match, because readings of nested
items are made for inputs up to a length.

Words, byte sequences and repetitions are matched here once. A production of the format is matched
by putting these together, in both directions at the same time.
-/

namespace TagAudit.ClassFile.Reading

variable {α β ι : Type}

/-- Up to a length, the reading accepts exactly the spellings of valid items, with their values. -/
def Spells (r : Reading α) (bound : Nat) (valid : ι → Prop) (spelling : ι → List UInt8)
    (value : ι → α) : Prop :=
  ∀ offset bytes result, bytes.length ≤ bound →
    (r.Reads offset bytes result ↔
      ∃ item, valid item ∧ spelling item = bytes ∧ value item = result)

/-- A number is read from its spelling in the width of the word, and from nothing else. -/
theorem reads_word (width offset : Nat) (bytes : List UInt8) (n : Nat) :
    (Reading.take width fun taken => .done (bigEndian taken)).Reads offset bytes n ↔
      n < Nat.pow 256 width ∧ bytes = bytesOf width n := by
  rw [← bigEndian_eq_iff, reads_take]
  constructor
  · rintro ⟨taken, later, counted, rfl, accepted⟩
    obtain ⟨rfl, same⟩ := (reads_done _ _ _ _).mp accepted
    exact ⟨by simpa using counted, by simpa using same⟩
  · rintro ⟨counted, same⟩
    exact ⟨bytes, [], counted, (List.append_nil bytes).symm, (reads_done _ _ _ _).mpr ⟨rfl, same⟩⟩

/-- One byte is read as the number of some byte. -/
theorem reads_u1 (offset : Nat) (bytes : List UInt8) (n : Nat) :
    u1.Reads offset bytes n ↔ ∃ word : UInt8, bytesOf 1 word.toNat = bytes ∧ word.toNat = n := by
  rw [u1, reads_word]
  constructor
  · rintro ⟨fits, rfl⟩
    have same : (UInt8.ofNat n).toNat = n := UInt8.toNat_ofNat_of_lt' fits
    exact ⟨UInt8.ofNat n, by rw [same], same⟩
  · rintro ⟨word, rfl, rfl⟩
    exact ⟨word.toNat_lt, rfl⟩

/-- Two bytes are read as the number of some word. -/
theorem reads_u2 (offset : Nat) (bytes : List UInt8) (n : Nat) :
    u2.Reads offset bytes n ↔ ∃ word : UInt16, bytesOf 2 word.toNat = bytes ∧ word.toNat = n := by
  rw [u2, reads_word]
  constructor
  · rintro ⟨fits, rfl⟩
    have same : (UInt16.ofNat n).toNat = n := UInt16.toNat_ofNat_of_lt' fits
    exact ⟨UInt16.ofNat n, by rw [same], same⟩
  · rintro ⟨word, rfl, rfl⟩
    exact ⟨word.toNat_lt, rfl⟩

/-- Two bytes are read as a count exactly when they spell it and can hold it. -/
theorem reads_count (offset : Nat) (bytes : List UInt8) (n : Nat) :
    u2.Reads offset bytes n ↔ n < 65536 ∧ bytesOf 2 n = bytes := by
  rw [u2, reads_word, eq_comm (a := bytes)]

/-- Four bytes are read as a length exactly when they spell it and can hold it. -/
theorem reads_u4 (offset : Nat) (bytes : List UInt8) (n : Nat) :
    u4.Reads offset bytes n ↔ n < 4294967296 ∧ bytesOf 4 n = bytes := by
  rw [u4, reads_word, eq_comm (a := bytes)]

/-- Four bytes are read as the number of some word. -/
theorem reads_word32 (offset : Nat) (bytes : List UInt8) (n : Nat) :
    u4.Reads offset bytes n ↔ ∃ word : UInt32, bytesOf 4 word.toNat = bytes ∧ word.toNat = n := by
  rw [reads_u4]
  constructor
  · rintro ⟨fits, rfl⟩
    have same : (UInt32.ofNat n).toNat = n := UInt32.toNat_ofNat_of_lt' fits
    exact ⟨UInt32.ofNat n, by rw [same], same⟩
  · rintro ⟨word, rfl, rfl⟩
    exact ⟨word.toNat_lt, rfl⟩

/-- Bytes are read as they are. -/
theorem reads_bytes (width offset : Nat) (bytes value : List UInt8) :
    (Reading.bytes width).Reads offset bytes value ↔ value.length = width ∧ value = bytes := by
  rw [Reading.bytes, reads_take]
  constructor
  · rintro ⟨taken, later, counted, rfl, accepted⟩
    obtain ⟨rfl, rfl⟩ := (reads_done _ _ _ _).mp accepted
    exact ⟨counted, (List.append_nil _).symm⟩
  · rintro ⟨counted, rfl⟩
    exact ⟨value, [], counted, (List.append_nil value).symm, (reads_done _ _ _ _).mpr ⟨rfl, rfl⟩⟩

/-- Eight bytes are read as the spelling of some word. -/
theorem reads_word64 (offset : Nat) (bytes value : List UInt8) :
    (Reading.bytes 8).Reads offset bytes value ↔
      ∃ word : UInt64, bytesOf 8 word.toNat = bytes ∧ bytesOf 8 word.toNat = value := by
  rw [reads_bytes]
  constructor
  · rintro ⟨counted, rfl⟩
    obtain ⟨fits, spelled⟩ := (bigEndian_eq_iff 8 _ value).mp ⟨counted, rfl⟩
    have same : (UInt64.ofNat (bigEndian value)).toNat = bigEndian value :=
      UInt64.toNat_ofNat_of_lt' fits
    exact ⟨UInt64.ofNat (bigEndian value), by rw [same, ← spelled], by rw [same, ← spelled]⟩
  · rintro ⟨word, rfl, rfl⟩
    exact ⟨bytesOf_length 8 _, rfl⟩

/-- Any bytes of the width are passed over. -/
theorem reads_pass (width offset : Nat) (bytes : List UInt8) (result : Unit) :
    (Reading.pass width).Reads offset bytes result ↔ bytes.length = width := by
  rw [Reading.pass, reads_skip]
  constructor
  · rintro ⟨taken, later, counted, rfl, accepted⟩
    obtain ⟨rfl, _⟩ := (reads_done _ _ _ _).mp accepted
    simpa using counted
  · intro counted
    exact ⟨bytes, [], counted, (List.append_nil bytes).symm, (reads_done _ _ _ _).mpr ⟨rfl, rfl⟩⟩

/-- The number of bytes before the reading is found out without reading any. -/
theorem reads_offset (offset : Nat) (bytes : List UInt8) (result : Nat) :
    Reading.offset.Reads offset bytes result ↔ bytes = [] ∧ offset = result := by
  rw [Reading.offset, reads_position, reads_done]

/-- A value that is made from what is read. -/
theorem reads_map {α β : Type} (r : Reading α) (f : α → β) (offset : Nat) (bytes : List UInt8)
    (result : β) :
    (r.bind fun value => .done (f value)).Reads offset bytes result ↔
      ∃ value, r.Reads offset bytes value ∧ f value = result := by
  rw [reads_bind]
  constructor
  · rintro ⟨first, later, value, rfl, accepted, done⟩
    obtain ⟨rfl, same⟩ := (reads_done _ _ _ _).mp done
    exact ⟨value, by simpa using accepted, same⟩
  · rintro ⟨value, accepted, same⟩
    exact ⟨bytes, [], value, (List.append_nil bytes).symm, accepted,
      (reads_done _ _ _ _).mpr ⟨rfl, same⟩⟩

/-- Items of two kinds that spell and mean the same are matched alike. -/
theorem Spells.exchange {κ : Type} {r : Reading α} {bound : Nat} {valid : ι → Prop}
    {spelling : ι → List UInt8} {value : ι → α} (spells : r.Spells bound valid spelling value)
    {otherValid : κ → Prop} {otherSpelling : κ → List UInt8} {otherValue : κ → α}
    (forth : ∀ item, valid item → ∃ other, otherValid other ∧
      otherSpelling other = spelling item ∧ otherValue other = value item)
    (back : ∀ other, otherValid other → ∃ item, valid item ∧
      spelling item = otherSpelling other ∧ value item = otherValue other) :
    r.Spells bound otherValid otherSpelling otherValue := by
  intro offset bytes result short
  rw [spells offset bytes result short]
  constructor
  · rintro ⟨item, itemValid, rfl, rfl⟩
    exact forth item itemValid
  · rintro ⟨other, isValid, rfl, rfl⟩
    exact back other isValid

/-- Items may be matched under another name, if every valid one has it. -/
theorem Spells.image {κ : Type} {r : Reading α} {bound : Nat} {valid : ι → Prop}
    {spelling : ι → List UInt8} {value : ι → α} (spells : r.Spells bound valid spelling value)
    {otherValid : κ → Prop} {otherSpelling : κ → List UInt8} {otherValue : κ → α} (make : ι → κ)
    (covers : ∀ other, otherValid other → ∃ item, make item = other)
    (sameValid : ∀ item, otherValid (make item) ↔ valid item)
    (sameSpelling : ∀ item, otherSpelling (make item) = spelling item)
    (sameValue : ∀ item, otherValue (make item) = value item) :
    r.Spells bound otherValid otherSpelling otherValue := by
  apply spells.exchange
  · intro item itemValid
    exact ⟨make item, (sameValid item).mpr itemValid, sameSpelling item, sameValue item⟩
  · intro other isValid
    obtain ⟨item, rfl⟩ := covers other isValid
    exact ⟨item, (sameValid item).mp isValid, (sameSpelling item).symm, (sameValue item).symm⟩

/-- Two bytes are matched with words. -/
theorem u2_spells (bound : Nat) :
    u2.Spells bound (fun _ : UInt16 => True) (fun word => bytesOf 2 word.toNat) UInt16.toNat := by
  intro offset bytes result _
  simp only [reads_u2, true_and]

/-- Four bytes are matched with the lengths that they can hold. -/
theorem u4_spells (bound : Nat) :
    u4.Spells bound (fun length : Nat => length < 4294967296) (bytesOf 4) id := by
  intro offset bytes result _
  rw [reads_u4]
  constructor
  · rintro ⟨fits, spelled⟩
    exact ⟨result, fits, spelled, rfl⟩
  · rintro ⟨_, fits, spelled, rfl⟩
    exact ⟨fits, spelled⟩

/-- What is passed over is matched with all byte sequences of the width. -/
theorem pass_spells (width bound : Nat) :
    (Reading.pass width).Spells bound (fun raw : List UInt8 => raw.length = width) id
      (fun _ => ()) := by
  intro offset bytes result _
  rw [reads_pass]
  constructor
  · intro counted
    exact ⟨bytes, counted, rfl, rfl⟩
  · rintro ⟨_, counted, rfl, _⟩
    exact counted

/-- Items put behind values that are already there, which stand in reverse. -/
theorem Spells.timesOnto {r : Reading α} {bound : Nat} {valid : ι → Prop}
    {spelling : ι → List UInt8} {value : ι → α} (spells : r.Spells bound valid spelling value)
    (count : Nat) (reversed : List α) :
    (Reading.timesOnto r count reversed).Spells bound
      (fun items : List ι => items.length = count ∧ ∀ item ∈ items, valid item)
      (fun items => items.flatMap spelling)
      (fun items => reversed.reverse ++ items.map value) := by
  induction count generalizing reversed with
  | zero =>
    intro offset bytes result _
    rw [Reading.timesOnto, reads_done]
    constructor
    · rintro ⟨rfl, rfl⟩
      exact ⟨[], by simp, rfl, by simp⟩
    · rintro ⟨items, ⟨none, _⟩, rfl, rfl⟩
      obtain rfl := List.length_eq_zero_iff.mp none
      exact ⟨rfl, by simp⟩
  | succ count inductionHypothesis =>
    intro offset bytes result short
    rw [Reading.timesOnto, reads_bind]
    constructor
    · rintro ⟨first, later, head, rfl, accepted, others⟩
      simp only [List.length_append] at short
      obtain ⟨item, itemValid, rfl, rfl⟩ :=
        (spells offset first head (by omega)).mp accepted
      obtain ⟨items, ⟨counted, allValid⟩, rfl, rfl⟩ :=
        (inductionHypothesis _ _ later result (by omega)).mp others
      refine ⟨item :: items, ⟨by simp [counted], ?_⟩, rfl, by simp⟩
      exact List.forall_mem_cons.mpr ⟨itemValid, allValid⟩
    · rintro ⟨items, ⟨counted, allValid⟩, rfl, rfl⟩
      cases items with
      | nil => simp at counted
      | cons item items =>
        obtain ⟨itemValid, othersValid⟩ := List.forall_mem_cons.mp allValid
        simp only [List.flatMap_cons, List.length_append] at short
        refine ⟨spelling item, items.flatMap spelling, value item, rfl, ?_, ?_⟩
        · exact (spells offset _ _ (by omega)).mpr ⟨item, itemValid, rfl, rfl⟩
        · exact (inductionHypothesis _ _ _ _ (by omega)).mpr
            ⟨items, ⟨Nat.succ.inj counted, othersValid⟩, rfl, by simp⟩

/-- A repetition accepts the spellings of lists of valid items, one behind the other. -/
theorem Spells.times {r : Reading α} {bound : Nat} {valid : ι → Prop}
    {spelling : ι → List UInt8} {value : ι → α} (spells : r.Spells bound valid spelling value)
    (count : Nat) :
    (Reading.times count r).Spells bound
      (fun items : List ι => items.length = count ∧ ∀ item ∈ items, valid item)
      (fun items => items.flatMap spelling) (fun items => items.map value) := by
  intro offset bytes result short
  simpa only [Reading.times, List.reverse_nil, List.nil_append] using
    spells.timesOnto count [] offset bytes result short

/-- A value made from what is read stands for the same item. -/
theorem Spells.map {r : Reading α} {bound : Nat} {valid : ι → Prop} {spelling : ι → List UInt8}
    {value : ι → α} (spells : r.Spells bound valid spelling value) (f : α → β) :
    (r.bind fun result => .done (f result)).Spells bound valid spelling
      (fun item => f (value item)) := by
  intro offset bytes result short
  rw [reads_map]
  constructor
  · rintro ⟨read, accepted, rfl⟩
    obtain ⟨item, itemValid, spelled, rfl⟩ := (spells offset bytes read short).mp accepted
    exact ⟨item, itemValid, spelled, rfl⟩
  · rintro ⟨item, itemValid, spelled, rfl⟩
    exact ⟨_, (spells offset bytes _ short).mpr ⟨item, itemValid, spelled, rfl⟩, rfl⟩

/-- A reading and what goes on from its value are matched with pairs of items, spelled one behind
the other. What the second item may be depends on the first. -/
theorem Spells.bind {κ : Type} {r : Reading α} {bound : Nat} {valid : ι → Prop}
    {spelling : ι → List UInt8} {value : ι → α} (first : r.Spells bound valid spelling value)
    (next : α → Reading β) {otherValid : ι → κ → Prop}
    {otherSpelling : ι → κ → List UInt8} {otherValue : ι → κ → β}
    (second : ∀ item, valid item → (next (value item)).Spells bound (otherValid item)
      (otherSpelling item) (otherValue item)) :
    (r.bind next).Spells bound (fun items : ι × κ => valid items.1 ∧ otherValid items.1 items.2)
      (fun items => spelling items.1 ++ otherSpelling items.1 items.2)
      (fun items => otherValue items.1 items.2) := by
  intro offset bytes result short
  rw [reads_bind]
  constructor
  · rintro ⟨taken, later, a, rfl, accepted, rest⟩
    simp only [List.length_append] at short
    obtain ⟨item, itemValid, rfl, rfl⟩ := (first offset taken a (by omega)).mp accepted
    obtain ⟨other, isValid, rfl, rfl⟩ :=
      (second item itemValid _ later result (by omega)).mp rest
    exact ⟨(item, other), ⟨itemValid, isValid⟩, rfl, rfl⟩
  · rintro ⟨⟨item, other⟩, ⟨itemValid, isValid⟩, rfl, rfl⟩
    simp only [List.length_append] at short
    refine ⟨spelling item, otherSpelling item other, value item, rfl, ?_, ?_⟩
    · exact (first offset _ _ (by omega)).mpr ⟨item, itemValid, rfl, rfl⟩
    · exact (second item itemValid _ _ _ (by omega)).mpr ⟨other, isValid, rfl, rfl⟩

/-- Two readings in a row that do not depend on each other. -/
theorem Spells.both {γ κ : Type} {r : Reading α} {s : Reading β} {bound : Nat} {valid : ι → Prop}
    {otherValid : κ → Prop} {spelling : ι → List UInt8} {otherSpelling : κ → List UInt8}
    {value : ι → α} {otherValue : κ → β} (first : r.Spells bound valid spelling value)
    (second : s.Spells bound otherValid otherSpelling otherValue) (f : α → β → γ) :
    (r.bind fun a => s.bind fun b => .done (f a b)).Spells bound
      (fun items : ι × κ => valid items.1 ∧ otherValid items.2)
      (fun items => spelling items.1 ++ otherSpelling items.2)
      (fun items => f (value items.1) (otherValue items.2)) := by
  have paired := first.bind (fun a => s.bind fun b => .done (f a b)) fun item _ =>
    second.map (f (value item))
  exact paired

/-- A count and as many values are matched with a list of items that a count can hold. -/
theorem Spells.counted {r : Reading α} {bound : Nat} {valid : ι → Prop}
    {spelling : ι → List UInt8} {value : ι → α} (spells : r.Spells bound valid spelling value) :
    (Reading.counted r).Spells bound
      (fun items : List ι => items.length < 65536 ∧ ∀ item ∈ items, valid item)
      (fun items => bytesOf 2 items.length ++ items.flatMap spelling)
      (fun items => items.map value) := by
  intro offset bytes result short
  rw [Reading.counted, reads_bind]
  constructor
  · rintro ⟨first, later, count, rfl, sized, repeated⟩
    simp only [List.length_append] at short
    obtain ⟨fits, rfl⟩ := (reads_count _ _ _).mp sized
    obtain ⟨items, ⟨rfl, allValid⟩, rfl, rfl⟩ :=
      (spells.times count _ later result (by omega)).mp repeated
    exact ⟨items, ⟨fits, allValid⟩, rfl, rfl⟩
  · rintro ⟨items, ⟨fits, allValid⟩, rfl, rfl⟩
    simp only [List.length_append] at short
    refine ⟨_, _, items.length, rfl, (reads_count _ _ _).mpr ⟨fits, rfl⟩, ?_⟩
    exact (spells.times items.length _ _ _ (by omega)).mpr ⟨items, ⟨rfl, allValid⟩, rfl, rfl⟩

end TagAudit.ClassFile.Reading
