import TagAudit.Proofs.ClassFile.Lookups
import TagAudit.Proofs.ClassFile.Walks

/-!
# The numbering of slots

Entries of a pool are numbered by the slots that they take up: one starts behind the slots of those
before it, and the first at one. A pool that is filled up to a declared count takes in the entries
that start below the count, each at the slot that is its number, and no others. It overruns the
count exactly if the last of them needs the slot behind the last one.

What is looked up afterwards is what starts at the index, if it is of the kind that is asked for.
-/

namespace TagAudit.ClassFile

open Reading

namespace Pool

variable {pool : Pool} {e : PoolEntry} {j k index : Nat}

/-- The index at which an entry starts: one more than the slots of the entries before it. -/
def start (pool : Pool) (k : Nat) : Nat := 1 + Pool.slotCount (pool.take k)

/-- A last entry takes up its own slots. -/
theorem slotCount_concat (pool : Pool) (e : PoolEntry) :
    Pool.slotCount (pool ++ [e]) = pool.slotCount + e.kind.slots := by
  rw [slotCount_append]
  rfl

/-- Behind its first entry a pool is numbered as by itself, moved up by the slots of that one. -/
theorem start_cons (e : PoolEntry) (pool : Pool) (k : Nat) :
    Pool.start (e :: pool) (k + 1) = e.kind.slots + pool.start k := by
  rw [start, start, List.take_succ_cons, slotCount_cons, Nat.add_left_comm]

/-- An entry starts behind the slots of the one before it. -/
theorem start_succ (found : pool[k]? = some e) :
    pool.start (k + 1) = pool.start k + e.kind.slots := by
  rw [start, start, List.take_add_one, found, slotCount_append, Nat.add_assoc]
  rfl

/-- Later entries start no earlier. -/
theorem start_le (pool : Pool) (onward : j ≤ k) : pool.start j ≤ pool.start k := by
  obtain ⟨more, rfl⟩ := Nat.exists_eq_add_of_le onward
  rw [start, start, List.take_add, slotCount_append]
  omega

/-- What stands behind an entry starts behind its slots. -/
theorem start_add_slots_le (found : pool[k]? = some e) (onward : k < j) :
    pool.start k + e.kind.slots ≤ pool.start j := by
  rw [← start_succ found]
  exact start_le pool onward

/-- The next entry would start behind the slots of all those that there are. -/
theorem start_length (pool : Pool) : pool.start pool.length = 1 + pool.slotCount := by
  rw [start, List.take_length]

/-- All the entries of a pool start below what is behind them, and no earlier than at one. -/
theorem start_bounds (inside : k < pool.length) :
    1 ≤ pool.start k ∧ pool.start k < 1 + pool.slotCount := by
  have behind := start_add_slots_le (List.getElem?_eq_getElem inside) inside
  have positive := (pool[k]).kind.slots_pos
  rw [start_length] at behind
  exact ⟨Nat.le_add_right 1 _, by omega⟩

/-- An entry at the end starts behind the slots of all the others. -/
theorem start_append_length (pool more : Pool) :
    Pool.start (pool ++ more) pool.length = 1 + pool.slotCount := by
  rw [start, List.take_left]

/-- The entries of a pool are numbered in the same way if there are more behind them. -/
theorem start_append (more : Pool) (inside : k ≤ pool.length) :
    Pool.start (pool ++ more) k = pool.start k := by
  rw [start, List.take_append_of_le_length inside, start]

/-- The first entries of a pool are those that start below a bound if all of them do and the next
one does not. -/
theorem lt_length_iff {bound : Nat} (more : Pool) (below : ∀ k < pool.length, pool.start k < bound)
    (reached : bound ≤ 1 + pool.slotCount) (k : Nat) :
    k < pool.length ↔ Pool.start (pool ++ more) k < bound := by
  constructor
  · intro inside
    rw [start_append more (Nat.le_of_lt inside)]
    exact below k inside
  · intro starts
    apply Nat.lt_of_not_ge
    intro behind
    have later := start_le (pool ++ more) behind
    rw [start_append_length] at later
    omega

/-- Entries that fill a number of slots start in them, also if the last one needs a slot more. -/
theorem start_le_of_filled {left : Nat} (inside : k < pool.length)
    (filled : pool.slotCount = left ∨ pool.slotCount = left + 1 ∧
      ∃ before e, pool = before ++ [e] ∧ e.kind.slots = 2) : pool.start k ≤ left := by
  have bounds := start_bounds inside
  rcases filled with exactly | ⟨exceeded, before, e, rfl, two⟩
  · omega
  · rw [List.length_append, List.length_singleton] at inside
    have onward := start_le (before ++ [e]) (Nat.le_of_lt_succ inside)
    rw [start_append_length] at onward
    rw [slotCount_concat, two] at exceeded
    omega

/-- The entries of a pool are found by the index at which they start. -/
theorem entryAt?_eq_some_iff :
    pool.entryAt? index = some e ↔ ∃ k, pool[k]? = some e ∧ pool.start k = index := by
  induction pool generalizing index with
  | nil => simp [entryAt?]
  | cons first rest inductionHypothesis =>
    have positive := first.kind.slots_pos
    have later (k : Nat) : 1 ≤ Pool.start rest k := Nat.le_add_right 1 _
    have atFirst : Pool.start (first :: rest) 0 = 1 := rfl
    rw [entryAt?]
    by_cases front : index = 1
    · rw [if_pos front]
      constructor
      · intro same
        exact ⟨0, same, front.symm⟩
      · rintro ⟨_ | k, found, same⟩
        · exact found
        · rw [start_cons] at same
          have := later k
          omega
    · rw [if_neg front]
      by_cases own : index ≤ first.kind.slots
      · rw [if_pos own]
        constructor
        · intro same
          cases same
        · rintro ⟨_ | k, found, same⟩
          · omega
          · rw [start_cons] at same
            have := later k
            omega
      · rw [if_neg own, inductionHypothesis]
        constructor
        · rintro ⟨k, found, same⟩
          exact ⟨k + 1, found, by rw [start_cons]; omega⟩
        · rintro ⟨_ | k, found, same⟩
          · omega
          · rw [start_cons] at same
            exact ⟨k, found, by omega⟩

/-- No entry starts in the second slot of another one. -/
theorem entryAt?_second (found : pool[k]? = some e) (two : e.kind.slots = 2) :
    pool.entryAt? (pool.start k + 1) = none := by
  rw [Option.eq_none_iff_forall_ne_some]
  intro other starts
  obtain ⟨j, foundToo, same⟩ := entryAt?_eq_some_iff.mp starts
  rcases Nat.lt_trichotomy j k with before | rfl | after
  · have earlier := start_le pool (Nat.le_of_lt before)
    omega
  · omega
  · have behind := start_add_slots_le found after
    omega

end Pool

/-- Entries of eight bytes are those of two kinds. -/
theorem ConstantKind.slots_eq_two_iff (kind : ConstantKind) :
    kind.slots = 2 ↔ kind = .long ∨ kind = .double := by
  cases kind <;> simp [slots]

namespace Constant

variable {α : Type}

/-- A question about constants is answered by those of a kind, and by no others. -/
def AsksFor (kind : ConstantKind) (kept : Constant → Option α) : Prop :=
  ∀ e : PoolEntry, (kept e.constant).isSome ↔ e.kind = kind

/-- The questions that are asked in reading a class file. -/
theorem asksFor_each :
    AsksFor .text text? ∧ AsksFor .integer integer? ∧ AsksFor .long long? ∧
      AsksFor .float float? ∧ AsksFor .double double? ∧ AsksFor .classRef classRef? := by
  refine ⟨?_, ?_, ?_, ?_, ?_, ?_⟩ <;> intro e <;> cases e <;>
    simp [PoolEntry.constant, PoolEntry.kind, text?, integer?, long?, float?, double?, classRef?]

/-- The kind of a constant. -/
def kind : Constant → ConstantKind
  | text _ => .text | integer _ => .integer | float _ => .float | long _ => .long
  | double _ => .double | classRef _ => .classRef | string _ => .string
  | reference kind => kind

/-- The constant itself, if it is of a kind. -/
def ofKind? (kind : ConstantKind) (constant : Constant) : Option Constant :=
  if constant.kind = kind then some constant else none

/-- Every kind of constant can be asked for. -/
theorem asksFor_ofKind? (kind : ConstantKind) : AsksFor kind (ofKind? kind) := by
  intro e
  have same : e.constant.kind = e.kind := by cases e <;> rfl
  rw [ofKind?, same]
  split <;> simp [*]

end Constant

namespace ConstantPool

variable {pool : Pool} {index : Nat}

/-- A lookup succeeds exactly if an entry starts at the index that answers the question. -/
theorem pick_ofEntries {α : Type} {kind : ConstantKind} {kept : Constant → Option α} {value : α} :
    (ofEntries pool).pick kind kept index = .ok value ↔
      ∃ e, pool.entryAt? index = some e ∧ kept e.constant = some value := by
  constructor
  · exact exists_entry_of_pick
  · rintro ⟨e, found, held⟩
    have inside := entryAt?_bounds pool index e found
    rw [pick, if_neg (by omega), slot_ofEntries, found, Option.map_some, Option.bind_some, held]

/-- A table holds entries, each in the slot where it starts, and is empty in the first slot and in
the second ones. Lookups find the entries by where they start and by their kind, and an index that
is not one of the table is refused for itself. -/
structure Numbers (table : ConstantPool) (entries : Pool) : Prop where
  first : table.slots[0]? = some none
  started : ∀ k e, entries[k]? = some e → table.slots[entries.start k]? = some (some e.constant)
  second : ∀ k e, entries[k]? = some e → e.kind = .long ∨ e.kind = .double →
    table.slots[entries.start k + 1]? = some none
  found : ∀ {α : Type} (kind : ConstantKind) (kept : Constant → Option α),
    Constant.AsksFor kind kept → ∀ index value, table.pick kind kept index = .ok value ↔
      ∃ k e, entries[k]? = some e ∧ entries.start k = index ∧ e.kind = kind ∧
        kept e.constant = some value
  outside : ∀ {α : Type} (kind : ConstantKind) (kept : Constant → Option α) (index : Nat),
    index = 0 ∨ table.slots.size ≤ index →
      table.pick kind kept index = .error (.badConstantIndex index none)

/-- Entries are numbered by the table that is made of them. -/
theorem numbers_ofEntries (pool : Pool) : (ofEntries pool).Numbers pool where
  first := by simp [ofEntries]
  started k e found := by
    have held := slot_ofEntries pool (pool.start k)
    rw [Pool.entryAt?_eq_some_iff.mpr ⟨k, found, rfl⟩, Option.map_some] at held
    exact Option.join_eq_some_iff.mp held
  second k e found wide := by
    have two := (ConstantKind.slots_eq_two_iff e.kind).mpr wide
    have inside : pool.start k + 1 < (ofEntries pool).slots.size := by
      have behind := Pool.start_add_slots_le found (List.getElem?_eq_some_iff.mp found).1
      rw [Pool.start_length] at behind
      rw [size_ofEntries]
      omega
    have held := slot_ofEntries pool (pool.start k + 1)
    rw [Pool.entryAt?_second found two, Option.map_none, Array.getElem?_eq_getElem inside] at held
    rw [Array.getElem?_eq_getElem inside]
    exact congrArg some held
  found kind kept asks index value := by
    rw [pick_ofEntries]
    constructor
    · rintro ⟨e, starts, held⟩
      obtain ⟨k, found, same⟩ := Pool.entryAt?_eq_some_iff.mp starts
      exact ⟨k, e, found, same, (asks e).mp (by rw [held]; rfl), held⟩
    · rintro ⟨k, e, found, same, -, held⟩
      exact ⟨e, Pool.entryAt?_eq_some_iff.mpr ⟨k, found, same⟩, held⟩
  outside kind kept index beyond := by rw [pick, if_pos beyond]

/-- Filling goes on behind an entry if there are slots left for it, and fails behind it if not. -/
theorem walk_fill_entry {e : PoolEntry} (fits : e.Fits) (count left offset : Nat)
    (slots : Array (Option Constant)) (more : List UInt8) :
    (fill count (left + 1) slots).walk ⟨offset, e.bytes ++ more⟩ =
      (if e.kind.slots ≤ left + 1 then
        fill count (left + 1 - e.kind.slots) (slots ++ e.slots.toArray)
      else .fail (.poolOverrun count)).walk ⟨offset + e.bytes.length, more⟩ := by
  have tagged : Reading.u1.Reads offset (bytesOf 1 e.kind.tag) e.kind.tag := by
    have word : (UInt8.ofNat e.kind.tag).toNat = e.kind.tag :=
      UInt8.toNat_ofNat_of_lt' e.kind.tag_lt
    exact (reads_u1 _ _ _).mpr ⟨.ofNat e.kind.tag, by rw [word], word⟩
  rw [fill_succ, PoolEntry.bytes, List.append_assoc, walk_bind_of_ok _ (walk_of_reads tagged _),
    ConstantKind.ofTag?_tag, Option.elim,
    walk_bind_of_ok _ (walk_of_reads (reads_payload e fits _) _), List.length_append, Nat.add_assoc]
  rfl

/-- The last of the entries is one of eight bytes that starts in the last slot below a count. -/
def Overruns (entries : Pool) (count : Nat) : Prop :=
  ∃ before e, entries = before ++ [e] ∧ (e.kind = .long ∨ e.kind = .double) ∧
    entries.start before.length + 1 = count

/-- Entries overrun a count if they take up one slot more than there are below it, which is the
second one of the last entry. -/
theorem overruns_iff {entries : Pool} {count : Nat} :
    Overruns entries count ↔ entries.slotCount = count ∧
      ∃ before e, entries = before ++ [e] ∧ e.kind.slots = 2 := by
  have ending (before : Pool) (e : PoolEntry) (wide : e.kind.slots = 2) :
      (before ++ [e]).slotCount = Pool.start (before ++ [e]) before.length + 1 := by
    rw [Pool.start_append_length, Pool.slotCount_concat, wide]
    omega
  constructor
  · rintro ⟨before, e, rfl, wide, last⟩
    have two := (ConstantKind.slots_eq_two_iff e.kind).mpr wide
    exact ⟨(ending before e two).trans last, before, e, rfl, two⟩
  · rintro ⟨filled, before, e, rfl, two⟩
    exact ⟨before, e, rfl, (ConstantKind.slots_eq_two_iff e.kind).mp two,
      (ending before e two).symm.trans filled⟩

/-- Filling goes through a pool up to the entry that takes up the last of the slots that are left,
and ends behind it. Either that entry has room for all of its slots or it is one of eight bytes that
has room for a single one. -/
theorem walk_fill (pool : Pool) (allFit : ∀ e ∈ pool, e.Fits) (count left offset : Nat)
    (slots : Array (Option Constant)) (rest : List UInt8) (enough : left ≤ pool.slotCount) :
    ∃ (entries others : Pool) (outcome : Except Defect ConstantPool), pool = entries ++ others ∧
      (fill count left slots).walk ⟨offset, pool.flatMap PoolEntry.bytes ++ rest⟩ =
        (outcome, ⟨offset + (entries.flatMap PoolEntry.bytes).length,
          others.flatMap PoolEntry.bytes ++ rest⟩) ∧
      (entries.slotCount = left ∧
          outcome = .ok ⟨slots ++ (entries.flatMap PoolEntry.slots).toArray⟩ ∨
        entries.slotCount = left + 1 ∧ outcome = .error (.poolOverrun count) ∧
          ∃ before e, entries = before ++ [e] ∧ e.kind.slots = 2) := by
  induction pool generalizing left offset slots with
  | nil =>
    obtain rfl : left = 0 := Nat.le_zero.mp enough
    exact ⟨[], [], _, rfl, rfl, .inl ⟨rfl, by simp⟩⟩
  | cons e pool inductionHypothesis =>
    obtain ⟨fits, othersFit⟩ := List.forall_mem_cons.mp allFit
    cases left with
    | zero => exact ⟨[], e :: pool, _, rfl, rfl, .inl ⟨rfl, by simp⟩⟩
    | succ left =>
      rw [List.flatMap_cons, List.append_assoc, walk_fill_entry fits]
      by_cases room : e.kind.slots ≤ left + 1
      · rw [if_pos room]
        rw [Pool.slotCount_cons] at enough
        obtain ⟨entries, others, outcome, rfl, walked, ended⟩ :=
          inductionHypothesis othersFit (left + 1 - e.kind.slots) (offset + e.bytes.length)
            (slots ++ e.slots.toArray) (by omega)
        refine ⟨e :: entries, others, outcome, rfl, ?_, ?_⟩
        · rw [walked, List.flatMap_cons, List.length_append, Nat.add_assoc]
        · rw [Pool.slotCount_cons]
          rcases ended with ⟨filled, rfl⟩ | ⟨filled, rfl, before, last, rfl, wide⟩
          · exact .inl ⟨by omega, by simp⟩
          · exact .inr ⟨by omega, rfl, e :: before, last, rfl, wide⟩
      · -- Only an entry of two slots has no room, and one slot is left for it.
        rw [if_neg room]
        have wide : e.kind.slots = 2 ∧ left = 0 := by
          rcases e.kind.slots_cases with two | one <;> omega
        refine ⟨[e], pool, _, rfl, by simp [walk], .inr ⟨?_, rfl, [], e, rfl, wide.1⟩⟩
        rw [wide.2]
        exact wide.1

/-- A pool is read up to a declared count that its slots suffice for: what is used up is the
spelling of the entries that start below the count, whatever stands behind them. If the last of
these overruns the count, that is the defect. If not, the table has the declared number of slots and
at least one, and numbers the entries. -/
theorem walk_entries (pool : Pool) (allFit : ∀ e ∈ pool, e.Fits) (count : Nat)
    (declared : count < 65536) (covered : count ≤ pool.slotCount + 1) (offset : Nat)
    (rest : List UInt8) :
    ∃ (entries others : Pool) (outcome : Except Defect ConstantPool), pool = entries ++ others ∧
      (∀ k < pool.length, k < entries.length ↔ pool.start k < count) ∧
      ConstantPool.reading.walk
          ⟨offset, bytesOf 2 count ++ (pool.flatMap PoolEntry.bytes ++ rest)⟩ =
        (outcome, ⟨offset + 2 + (entries.flatMap PoolEntry.bytes).length,
          others.flatMap PoolEntry.bytes ++ rest⟩) ∧
      (outcome = .error (.poolOverrun count) ↔ Overruns entries count) ∧
      (¬ Overruns entries count → ∃ table, outcome = .ok table ∧
        table.slots.size = max count 1 ∧ table.Numbers entries) := by
  obtain ⟨entries, others, outcome, rfl, walked, ended⟩ :=
    walk_fill pool allFit count (count - 1) (offset + 2) #[none] rest (by omega)
  refine ⟨entries, others, outcome, rfl, ?_, ?_, ?_⟩
  · intro k _
    apply Pool.lt_length_iff others
    · intro j inside
      have bounds := Pool.start_bounds inside
      have within := Pool.start_le_of_filled inside
        (ended.imp And.left fun exceeded => ⟨exceeded.1, exceeded.2.2⟩)
      omega
    · omega
  · have counted := (reads_count offset (bytesOf 2 count) count).mpr ⟨declared, rfl⟩
    rw [ConstantPool.reading, bind_eq, walk_bind_of_ok _ (walk_of_reads counted _)]
    exact walked
  · rcases ended with ⟨filled, rfl⟩ | ⟨filled, rfl, before, e, rfl, wide⟩
    · have roomy : ¬ Overruns entries count := by
        rw [overruns_iff]
        rintro ⟨full, before, e, rfl, two⟩
        rw [Pool.slotCount_concat] at filled full
        omega
      refine ⟨by simp [roomy], fun _ => ⟨ofEntries entries, by simp [ofEntries], ?_,
        numbers_ofEntries entries⟩⟩
      rw [size_ofEntries, filled]
      omega
    · have full : Overruns (before ++ [e]) count := by
        refine overruns_iff.mpr ⟨?_, before, e, rfl, wide⟩
        rw [Pool.slotCount_concat] at filled ⊢
        omega
      exact ⟨by simp [full], fun roomy => absurd full roomy⟩

/-- Four entries take up the six slots below seven. The long one is found where it starts and not in
its second slot. Below six there is one slot too few for the last of them. -/
theorem fourEntries_walked :
    let pool : Pool := [.text [0x41], .long 5, .classRef 1, .double 0]
    let walked (count : Nat) := ConstantPool.reading.walk
      ⟨0, bytesOf 2 count ++ (pool.flatMap PoolEntry.bytes ++ [9])⟩
    (∀ e ∈ pool, e.Fits) ∧ pool.slotCount = 6 ∧
      (∃ table, walked 7 = (.ok table, ⟨27, [9]⟩) ∧ table.slots.size = 7 ∧
        table.pick .long Constant.long? 2 = .ok 5 ∧
        table.pick .long Constant.long? 3 ≠ .ok 5 ∧
        table.pick .classRef (Constant.ofKind? .classRef) 4 = .ok (.classRef 1)) ∧
      walked 6 = (.error (.poolOverrun 6), ⟨27, [9]⟩) := by
  intro pool walked
  have allFit : ∀ e ∈ pool, e.Fits := by simp [pool, PoolEntry.Fits]
  have whole {entries others : Pool} (split : pool = entries ++ others)
      (last : 3 < entries.length) : entries = pool ∧ others = [] := by
    have counted : entries.length + others.length = 4 := by
      rw [← List.length_append, ← split]
      rfl
    obtain rfl : others = [] := List.eq_nil_of_length_eq_zero (by omega)
    exact ⟨by rw [split, List.append_nil], rfl⟩
  refine ⟨allFit, by decide, ?_, ?_⟩
  · obtain ⟨entries, others, outcome, split, below, stopped, -, made⟩ :=
      walk_entries pool allFit 7 (by decide) (by decide) 0 [9]
    obtain ⟨rfl, rfl⟩ := whole split ((below 3 (by decide)).mpr (by decide))
    have roomy : ¬ Overruns pool 7 := by
      rw [overruns_iff]
      rintro ⟨full, -⟩
      exact absurd full (by decide)
    obtain ⟨table, rfl, sized, numbered⟩ := made roomy
    have asks := Constant.asksFor_each.2.2.1
    refine ⟨table, stopped, sized, ?_, ?_, ?_⟩
    · exact (numbered.found .long _ asks 2 5).mpr ⟨1, .long 5, rfl, rfl, rfl, rfl⟩
    · rw [Ne, numbered.found .long _ asks 3 5]
      rintro ⟨k, e, found, starts, -⟩
      have inside : k < 4 := (List.getElem?_eq_some_iff.mp found).1
      match k with
      | 0 | 1 | 2 | 3 => exact absurd starts (by decide)
    · have asksKind := Constant.asksFor_ofKind? .classRef
      exact (numbered.found .classRef _ asksKind 4 _).mpr ⟨2, .classRef 1, rfl, rfl, rfl, rfl⟩
  · obtain ⟨entries, others, outcome, split, below, stopped, overrun, -⟩ :=
      walk_entries pool allFit 6 (by decide) (by decide) 0 [9]
    obtain ⟨rfl, rfl⟩ := whole split ((below 3 (by decide)).mpr (by decide))
    have full : Overruns pool 6 := ⟨pool.take 3, .double 0, rfl, .inr rfl, by decide⟩
    rw [overrun.mpr full] at stopped
    exact stopped

end ConstantPool

end TagAudit.ClassFile
