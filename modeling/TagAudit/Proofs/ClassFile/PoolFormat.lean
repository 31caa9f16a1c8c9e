import TagAudit.Proofs.ClassFile.Format
import TagAudit.Proofs.ClassFile.Productions
import TagAudit.Proofs.ClassFile.Spells

/-!
# The constant pool of the format

The pool that is read from the spelling of entries holds each entry in the slot where it starts and
nothing in the slots behind it. So looking a constant up in what was read and finding the entry that
starts at an index are the same thing, for every index.
-/

namespace TagAudit.ClassFile

namespace ConstantKind

/-- A byte announces a kind exactly when it is the tag of that kind. -/
theorem ofTag?_eq_some_iff (tag : Nat) (kind : ConstantKind) :
    ofTag? tag = some kind ↔ kind.tag = tag := by
  constructor
  · intro announced
    unfold ofTag? at announced
    split at announced <;> first | cases announced; rfl | simp at announced
  · rintro rfl
    exact ofTag?_tag kind

/-- A tag is a single byte. -/
theorem tag_lt (kind : ConstantKind) : kind.tag < 256 := by
  cases kind <;> decide

end ConstantKind

namespace PoolEntry

/-- As much of an entry as anyone looks at. -/
def constant : PoolEntry → Constant
  | text raw => .text raw
  | integer n => .integer n.toInt
  | float bits => .float (Binary64.ofBinary32 bits.toNat)
  | long n => .long n.toInt
  | double bits => .double ⟨bits⟩
  | classRef name => .classRef name.toNat
  | string index => .string index.toNat
  | e => .reference e.kind

/-- The slots of an entry: its own, and an empty one behind an entry of eight bytes. -/
def slots (e : PoolEntry) : List (Option Constant) :=
  some e.constant :: List.replicate (e.kind.slots - 1) none

end PoolEntry

open Reading

/-- The payload of every entry that fits is read as what is kept of the entry. -/
theorem reads_payload (e : PoolEntry) (fits : e.Fits) (offset : Nat) :
    (Constant.reading e.kind).Reads offset e.payload e.constant := by
  cases e with
  | text raw =>
    apply (reads_bind _ _ _ _ _).mpr
    refine ⟨bytesOf 2 raw.length, raw, raw.length, rfl, ?_, ?_⟩
    · exact (reads_count _ _ _).mpr ⟨fits, rfl⟩
    · exact (reads_map _ _ _ _ _).mpr ⟨raw, (reads_bytes _ _ _ _).mpr ⟨rfl, rfl⟩, rfl⟩
  | integer n =>
    apply (reads_map _ _ _ _ _).mpr
    exact ⟨_, (reads_word32 _ _ _).mpr ⟨n.toUInt32, rfl, rfl⟩,
      congrArg Constant.integer (signed_word32 n)⟩
  | float bits =>
    apply (reads_map _ _ _ _ _).mpr
    exact ⟨_, (reads_word32 _ _ _).mpr ⟨bits, rfl, rfl⟩, rfl⟩
  | long n =>
    apply (reads_map _ _ _ _ _).mpr
    refine ⟨_, (reads_word64 _ _ _).mpr ⟨n.toUInt64, rfl, rfl⟩, ?_⟩
    rw [bigEndian_word64, signed_word64, PoolEntry.constant]
  | double bits =>
    apply (reads_map _ _ _ _ _).mpr
    refine ⟨_, (reads_word64 _ _ _).mpr ⟨bits, rfl, rfl⟩, ?_⟩
    rw [bigEndian_word64, UInt64.ofNat_toNat, PoolEntry.constant]
  | classRef name =>
    apply (reads_map _ _ _ _ _).mpr
    exact ⟨name.toNat, (reads_u2 _ _ _).mpr ⟨name, rfl, rfl⟩, rfl⟩
  | string index =>
    apply (reads_map _ _ _ _ _).mpr
    exact ⟨index.toNat, (reads_u2 _ _ _).mpr ⟨index, rfl, rfl⟩, rfl⟩
  | _ =>
    apply (reads_map _ _ _ _ _).mpr
    refine ⟨(), (reads_pass _ _ _ _).mpr ?_, rfl⟩
    simp [PoolEntry.payload, PoolEntry.kind, ConstantKind.payload]

/-- A payload that is passed over is the payload of an entry, if every byte sequence of the length
is one. -/
theorem exists_reference {σ : Type} (kind : ConstantKind) (make : σ → PoolEntry)
    (spelling : σ → List UInt8)
    (made : ∀ s, (make s).kind = kind ∧ (make s).Fits ∧ (make s).payload = spelling s ∧
      (make s).constant = .reference kind)
    (spelled : ∀ bytes : List UInt8, bytes.length = kind.payload → ∃ s, spelling s = bytes)
    (offset : Nat) (bytes : List UInt8) (constant : Constant)
    (accepted : ((Reading.pass kind.payload).bind fun _ => .done (.reference kind)).Reads
      offset bytes constant) :
    ∃ e : PoolEntry, e.kind = kind ∧ e.Fits ∧ e.payload = bytes ∧ e.constant = constant := by
  obtain ⟨_, skipped, rfl⟩ := (reads_map _ _ _ _ _).mp accepted
  obtain ⟨s, rfl⟩ := spelled bytes ((reads_pass _ _ _ _).mp skipped)
  obtain ⟨sameKind, fits, samePayload, kept⟩ := made s
  exact ⟨make s, sameKind, fits, samePayload, kept⟩

/-- A payload that is read is the payload of some entry that fits. -/
theorem exists_of_reads_payload (kind : ConstantKind) (offset : Nat) (bytes : List UInt8)
    (constant : Constant) (accepted : (Constant.reading kind).Reads offset bytes constant) :
    ∃ e : PoolEntry, e.kind = kind ∧ e.Fits ∧ e.payload = bytes ∧ e.constant = constant := by
  have single (kind : ConstantKind) (make : UInt16 → PoolEntry) (counted : kind.payload = 2)
      (made : ∀ i, (make i).kind = kind ∧ (make i).Fits ∧
        (make i).payload = bytesOf 2 i.toNat ∧ (make i).constant = .reference kind) :=
    exists_reference kind make (fun i => bytesOf 2 i.toNat) made
      fun bytes sized => exists_word16 bytes (sized.trans counted)
  have pair (kind : ConstantKind) (make : UInt16 → UInt16 → PoolEntry) (counted : kind.payload = 4)
      (made : ∀ i : UInt16 × UInt16, (make i.1 i.2).kind = kind ∧ (make i.1 i.2).Fits ∧
        (make i.1 i.2).payload = bytesOf 2 i.1.toNat ++ bytesOf 2 i.2.toNat ∧
        (make i.1 i.2).constant = .reference kind) :=
    exists_reference kind (fun i : UInt16 × UInt16 => make i.1 i.2)
      (fun i => bytesOf 2 i.1.toNat ++ bytesOf 2 i.2.toNat) made
      fun bytes sized => exists_pair16 bytes (sized.trans counted)
  cases kind with
  | text =>
    obtain ⟨first, later, length, rfl, counted, rest⟩ := (reads_bind _ _ _ _ _).mp accepted
    obtain ⟨raw, held, rfl⟩ := (reads_map _ _ _ _ _).mp rest
    obtain ⟨fits, rfl⟩ := (reads_count _ _ _).mp counted
    obtain ⟨rfl, rfl⟩ := (reads_bytes _ _ _ _).mp held
    exact ⟨.text raw, rfl, fits, rfl, rfl⟩
  | integer =>
    obtain ⟨n, held, rfl⟩ := (reads_map _ _ _ _ _).mp accepted
    obtain ⟨word, rfl, rfl⟩ := (reads_word32 _ _ _).mp held
    exact ⟨.integer ⟨word⟩, rfl, trivial, rfl,
      congrArg Constant.integer (signed_word32 ⟨word⟩).symm⟩
  | float =>
    obtain ⟨n, held, rfl⟩ := (reads_map _ _ _ _ _).mp accepted
    obtain ⟨word, rfl, rfl⟩ := (reads_word32 _ _ _).mp held
    exact ⟨.float word, rfl, trivial, rfl, rfl⟩
  | long =>
    obtain ⟨taken, held, rfl⟩ := (reads_map _ _ _ _ _).mp accepted
    obtain ⟨word, rfl, rfl⟩ := (reads_word64 _ _ _).mp held
    refine ⟨.long ⟨word⟩, rfl, trivial, rfl, ?_⟩
    rw [bigEndian_word64]
    exact congrArg Constant.long (signed_word64 ⟨word⟩).symm
  | double =>
    obtain ⟨taken, held, rfl⟩ := (reads_map _ _ _ _ _).mp accepted
    obtain ⟨word, rfl, rfl⟩ := (reads_word64 _ _ _).mp held
    refine ⟨.double word, rfl, trivial, rfl, ?_⟩
    rw [bigEndian_word64, UInt64.ofNat_toNat, PoolEntry.constant]
  | classRef =>
    obtain ⟨n, held, rfl⟩ := (reads_map _ _ _ _ _).mp accepted
    obtain ⟨index, rfl, rfl⟩ := (reads_u2 _ _ _).mp held
    exact ⟨.classRef index, rfl, trivial, rfl, rfl⟩
  | string =>
    obtain ⟨n, held, rfl⟩ := (reads_map _ _ _ _ _).mp accepted
    obtain ⟨index, rfl, rfl⟩ := (reads_u2 _ _ _).mp held
    exact ⟨.string index, rfl, trivial, rfl, rfl⟩
  | methodType =>
    exact single .methodType .methodType rfl (fun _ => ⟨rfl, trivial, rfl, rfl⟩) _ _ _ accepted
  | moduleName =>
    exact single .moduleName .moduleName rfl (fun _ => ⟨rfl, trivial, rfl, rfl⟩) _ _ _ accepted
  | packageName =>
    exact single .packageName .packageName rfl (fun _ => ⟨rfl, trivial, rfl, rfl⟩) _ _ _ accepted
  | fieldRef =>
    exact pair .fieldRef .fieldRef rfl (fun _ => ⟨rfl, trivial, rfl, rfl⟩) _ _ _ accepted
  | methodRef =>
    exact pair .methodRef .methodRef rfl (fun _ => ⟨rfl, trivial, rfl, rfl⟩) _ _ _ accepted
  | interfaceMethodRef =>
    exact pair .interfaceMethodRef .interfaceMethodRef rfl (fun _ => ⟨rfl, trivial, rfl, rfl⟩)
      _ _ _ accepted
  | nameAndType =>
    exact pair .nameAndType .nameAndType rfl (fun _ => ⟨rfl, trivial, rfl, rfl⟩) _ _ _ accepted
  | dynamic =>
    exact pair .dynamic .dynamic rfl (fun _ => ⟨rfl, trivial, rfl, rfl⟩) _ _ _ accepted
  | invokeDynamic =>
    exact pair .invokeDynamic .invokeDynamic rfl (fun _ => ⟨rfl, trivial, rfl, rfl⟩) _ _ _ accepted
  | methodHandle =>
    obtain ⟨_, skipped, rfl⟩ := (reads_map _ _ _ _ _).mp accepted
    have counted : bytes.length = 3 := (reads_pass _ _ _ _).mp skipped
    cases bytes with
    | nil => simp at counted
    | cons form rest =>
      obtain ⟨target, rfl⟩ := exists_word16 rest (Nat.succ.inj counted)
      exact ⟨.methodHandle form target, rfl, trivial, by simp [PoolEntry.payload, bytesOf], rfl⟩

/-- An entry is spelled with its tag in front; a kind of entry is read back from exactly that. -/
theorem reads_payload_iff (kind : ConstantKind) (offset : Nat) (bytes : List UInt8)
    (constant : Constant) :
    (Constant.reading kind).Reads offset bytes constant ↔
      ∃ e : PoolEntry, e.kind = kind ∧ e.Fits ∧ e.payload = bytes ∧ e.constant = constant := by
  constructor
  · exact exists_of_reads_payload kind offset bytes constant
  · rintro ⟨e, rfl, fits, rfl, rfl⟩
    exact reads_payload e fits offset

/-- A first entry takes up its own slots. -/
theorem Pool.slotCount_cons (e : PoolEntry) (pool : Pool) :
    Pool.slotCount (e :: pool) = e.kind.slots + Pool.slotCount pool := rfl

/-- Entries in two parts take up the slots of both. -/
theorem Pool.slotCount_append (pool more : Pool) :
    Pool.slotCount (pool ++ more) = pool.slotCount + more.slotCount := by
  induction pool with
  | nil => exact (Nat.zero_add _).symm
  | cons e rest inductionHypothesis =>
    rw [List.cons_append, slotCount_cons, inductionHypothesis, slotCount_cons, Nat.add_assoc]

namespace ConstantPool

/-- What is left to be done once an entry of some kind has been read. -/
theorem reads_fill_succ (count left offset : Nat) (slots : Array (Option Constant))
    (bytes : List UInt8) (result : ConstantPool) :
    (fill count (left + 1) slots).Reads offset bytes result ↔
      ∃ (e : PoolEntry) (later : List UInt8), e.Fits ∧ bytes = e.bytes ++ later ∧
        e.kind.slots ≤ left + 1 ∧
        (fill count (left + 1 - e.kind.slots) (slots ++ e.slots.toArray)).Reads
          (offset + e.bytes.length) later result := by
  rw [fill_succ, reads_bind]
  constructor
  · rintro ⟨first, rest, tag, rfl, tagged, entry⟩
    obtain ⟨word, rfl, rfl⟩ := (reads_u1 _ _ _).mp tagged
    cases announced : ConstantKind.ofTag? word.toNat with
    | none =>
      simp only [announced, Option.elim] at entry
      exact absurd entry (reads_fail _ _ _ _)
    | some kind =>
      simp only [announced, Option.elim] at entry
      obtain ⟨payload, later, constant, rfl, held, others⟩ := (reads_bind _ _ _ _ _).mp entry
      obtain ⟨e, rfl, fits, rfl, rfl⟩ := (reads_payload_iff _ _ _ _).mp held
      have tagBytes : e.bytes = bytesOf 1 word.toNat ++ e.payload := by
        rw [PoolEntry.bytes, (ConstantKind.ofTag?_eq_some_iff _ _).mp announced]
      by_cases enough : e.kind.slots ≤ left + 1
      · rw [if_pos enough] at others
        refine ⟨e, later, fits, by rw [tagBytes, List.append_assoc], enough, ?_⟩
        rw [tagBytes, List.length_append, ← Nat.add_assoc]
        exact others
      · rw [if_neg enough] at others
        exact absurd others (reads_fail _ _ _ _)
  · rintro ⟨e, later, fits, rfl, enough, others⟩
    refine ⟨bytesOf 1 e.kind.tag, e.payload ++ later, e.kind.tag, ?_, ?_, ?_⟩
    · rw [PoolEntry.bytes, List.append_assoc]
    · have word : (UInt8.ofNat e.kind.tag).toNat = e.kind.tag :=
        UInt8.toNat_ofNat_of_lt' e.kind.tag_lt
      exact (reads_u1 _ _ _).mpr ⟨.ofNat e.kind.tag, by rw [word], word⟩
    · simp only [ConstantKind.ofTag?_tag, Option.elim]
      refine (reads_bind _ _ _ _ _).mpr ⟨e.payload, later, e.constant, rfl,
        reads_payload e fits _, ?_⟩
      rw [PoolEntry.bytes, List.length_append, ← Nat.add_assoc] at others
      rw [if_pos enough]
      exact others

/-- The slots that are added to those filled already are those of entries that fill the rest of the
pool exactly. An entry of eight bytes never begins in the last slot. -/
theorem reads_fill (count left offset : Nat) (slots : Array (Option Constant))
    (bytes : List UInt8) (result : ConstantPool) :
    (fill count left slots).Reads offset bytes result ↔
      ∃ pool : Pool, pool.slotCount = left ∧ (∀ e ∈ pool, e.Fits) ∧
        pool.flatMap PoolEntry.bytes = bytes ∧
        ⟨slots ++ (pool.flatMap PoolEntry.slots).toArray⟩ = result := by
  induction left using Nat.strongRecOn generalizing slots offset bytes with
  | ind left inductionHypothesis =>
    cases left with
    | zero =>
      rw [fill, reads_done]
      constructor
      · rintro ⟨rfl, rfl⟩
        exact ⟨[], rfl, by simp, rfl, by simp⟩
      · rintro ⟨pool, filled, _, rfl, rfl⟩
        cases pool with
        | nil => exact ⟨rfl, by simp⟩
        | cons e pool =>
          have positive := e.kind.slots_pos
          rw [Pool.slotCount_cons] at filled
          omega
    | succ left =>
      rw [reads_fill_succ]
      constructor
      · rintro ⟨e, later, fits, rfl, enough, others⟩
        have fewer : left + 1 - e.kind.slots < left + 1 :=
          Nat.sub_lt left.succ_pos e.kind.slots_pos
        obtain ⟨pool, filled, allFit, rfl, rfl⟩ :=
          (inductionHypothesis _ fewer _ _ later).mp others
        refine ⟨e :: pool, ?_, List.forall_mem_cons.mpr ⟨fits, allFit⟩, rfl, by simp⟩
        rw [Pool.slotCount_cons]
        omega
      · rintro ⟨pool, filled, allFit, rfl, rfl⟩
        cases pool with
        | nil => simp [Pool.slotCount] at filled
        | cons e pool =>
          obtain ⟨fits, othersFit⟩ := List.forall_mem_cons.mp allFit
          rw [Pool.slotCount_cons] at filled
          have fewer : left + 1 - e.kind.slots < left + 1 :=
            Nat.sub_lt left.succ_pos e.kind.slots_pos
          refine ⟨e, pool.flatMap PoolEntry.bytes, fits, rfl, by omega, ?_⟩
          exact (inductionHypothesis _ fewer _ _ _).mpr
            ⟨pool, by omega, othersFit, rfl, by simp⟩

/-- The pool that holds each entry in the slot where it starts. -/
def ofEntries (pool : Pool) : ConstantPool := ⟨(none :: pool.flatMap PoolEntry.slots).toArray⟩

/-- A pool is read from a count and the entries that fill the slots below it. Counts of zero and
one both mean that there are none. -/
theorem reads_pool (offset : Nat) (bytes : List UInt8) (result : ConstantPool) :
    ConstantPool.reading.Reads offset bytes result ↔
      ∃ (count : Nat) (pool : Pool), count < 65536 ∧ pool.slotCount = count - 1 ∧
        (∀ e ∈ pool, e.Fits) ∧ bytesOf 2 count ++ pool.flatMap PoolEntry.bytes = bytes ∧
        ofEntries pool = result := by
  rw [ConstantPool.reading, bind_eq, reads_bind]
  constructor
  · rintro ⟨first, later, count, rfl, counted, filled⟩
    obtain ⟨fits, rfl⟩ := (reads_count _ _ _).mp counted
    obtain ⟨pool, slots, allFit, rfl, rfl⟩ := (reads_fill _ _ _ _ _ _).mp filled
    exact ⟨count, pool, fits, slots, allFit, rfl, by simp [ofEntries]⟩
  · rintro ⟨count, pool, fits, slots, allFit, rfl, rfl⟩
    refine ⟨_, _, count, rfl, (reads_count _ _ _).mpr ⟨fits, rfl⟩, ?_⟩
    exact (reads_fill _ _ _ _ _ _).mpr ⟨pool, slots, allFit, rfl, by simp [ofEntries]⟩

/-- A slot holds what is kept of the entry that starts there, if one does. -/
theorem slot_ofEntries (pool : Pool) (index : Nat) :
    ((ofEntries pool).slots[index]?).join = (pool.entryAt? index).map PoolEntry.constant := by
  simp only [ofEntries, List.getElem?_toArray]
  induction pool generalizing index with
  | nil => cases index <;> simp [Pool.entryAt?]
  | cons e pool inductionHypothesis =>
    rcases e.kind.slots_cases with two | one
    · have slots : e.slots = [some e.constant, none] := by simp [PoolEntry.slots, two]
      rw [List.flatMap_cons, slots]
      match index with
      | 0 => simp [Pool.entryAt?]
      | 1 => simp [Pool.entryAt?]
      | 2 => simp [Pool.entryAt?, two]
      | index + 3 => simpa [Pool.entryAt?, two] using inductionHypothesis (index + 1)
    · have slots : e.slots = [some e.constant] := by simp [PoolEntry.slots, one]
      rw [List.flatMap_cons, slots]
      match index with
      | 0 => simp [Pool.entryAt?]
      | 1 => simp [Pool.entryAt?]
      | index + 2 => simpa [Pool.entryAt?, one] using inductionHypothesis (index + 1)

/-- An entry starts at a slot of the pool, and never at the first one. -/
theorem entryAt?_bounds (pool : Pool) (index : Nat) (e : PoolEntry)
    (found : pool.entryAt? index = some e) :
    index ≠ 0 ∧ index < (ofEntries pool).slots.size := by
  have held := slot_ofEntries pool index
  rw [found, Option.map_some] at held
  constructor
  · rintro rfl
    simp [ofEntries] at held
  · apply Nat.lt_of_not_ge
    intro outside
    rw [Array.getElem?_eq_none outside] at held
    simp at held

/-- Looking a constant of a kind up succeeds exactly when the index names an entry that holds
something of the kind, and then yields what is kept of it. -/
theorem pick_eq_ok_iff {σ α : Type} (holds : PoolEntry → Option σ) (kept : Constant → Option α)
    (f : σ → α) (same : ∀ e : PoolEntry, kept e.constant = (holds e).map f) (pool : Pool)
    (kind : ConstantKind) (index : UInt16) (value : α) :
    (ofEntries pool).pick kind kept index.toNat = .ok value ↔
      ∃ held, pool.held? holds index = some held ∧ f held = value := by
  rw [pick, slot_ofEntries, Pool.held?]
  cases found : pool.entryAt? index.toNat with
  | none =>
    simp only [Option.map_none, Option.bind_none, reduceCtorEq, false_and, exists_false, iff_false]
    split <;> simp
  | some e =>
    have inside := entryAt?_bounds pool index.toNat e found
    rw [if_neg (by omega)]
    simp only [Option.map_some, Option.bind_some, same]
    cases holds e <;> simp

/-- One result after another is a value when both are. -/
theorem bind_eq_ok_iff {α β : Type} (first : Except Defect α) (next : α → Except Defect β)
    (result : β) : first >>= next = .ok result ↔ ∃ value, first = .ok value ∧
      next value = .ok result := by
  cases first with
  | ok value => simp [Bind.bind, Except.bind]
  | error defect => simp [Bind.bind, Except.bind]

/-- Looking a text up succeeds exactly when the index names one, and yields it decoded. -/
theorem text_eq_ok_iff (pool : Pool) (index : UInt16) (t : Text) :
    (ofEntries pool).text index.toNat = .ok t ↔ pool.text? index = some t := by
  have same (e : PoolEntry) : e.constant.text? = e.text?.map id := by cases e <;> rfl
  simp only [text, bind_eq_ok_iff, pick_eq_ok_iff PoolEntry.text? _ id same, id_eq,
    exists_eq_right, Pool.text?, Option.bind_eq_some_iff]
  apply exists_congr
  intro raw
  cases Utf8.decodeClassFile? raw <;> simp

/-- Looking the name of a class up succeeds exactly when the index names a class with a name. -/
theorem className_eq_ok_iff (pool : Pool) (index : UInt16) (t : Text) :
    (ofEntries pool).className index.toNat = .ok t ↔ pool.className? index = some t := by
  have same (e : PoolEntry) : e.constant.classRef? = e.classRef?.map UInt16.toNat := by
    cases e <;> rfl
  simp only [className, bind_eq_ok_iff, pick_eq_ok_iff PoolEntry.classRef? _ _ same,
    Pool.className?, Option.bind_eq_some_iff]
  constructor
  · rintro ⟨_, ⟨name, found, rfl⟩, named⟩
    exact ⟨name, found, (text_eq_ok_iff pool name t).mp named⟩
  · rintro ⟨name, found, named⟩
    exact ⟨name.toNat, ⟨name, found, rfl⟩, (text_eq_ok_iff pool name t).mpr named⟩

end ConstantPool

end TagAudit.ClassFile
