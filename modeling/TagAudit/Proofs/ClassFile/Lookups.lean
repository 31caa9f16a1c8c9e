import TagAudit.Proofs.ClassFile.PoolFormat
import TagAudit.Proofs.Text.Utf8

/-!
# Lookups that fail

A lookup in the pool asks for a constant of a kind. It fails for an index outside of the pool, or
where no constant of the kind starts: at the second slot of an entry of eight bytes, or at an entry
of another kind. A text that is found there may still be no text.
-/

namespace TagAudit.ClassFile

namespace Pool

variable {pool : Pool} {index : Nat}

/-- An index belongs to the second slot of an entry of eight bytes. -/
def IsSecondSlot (pool : Pool) (index : Nat) : Prop :=
  ∃ e, pool.entryAt? (index - 1) = some e ∧ e.kind.slots = 2

/-- No constant of a kind starts at an index. -/
def Lacks (pool : Pool) (index : Nat) (kind : ConstantKind) : Prop :=
  pool.IsSecondSlot index ∨ ∃ e, pool.entryAt? index = some e ∧ e.kind ≠ kind

/-- Where no entry starts inside of the pool, there is the second slot of one. -/
theorem isSecondSlot_of_entryAt? (positive : 0 < index) (inside : index ≤ pool.slotCount)
    (absent : pool.entryAt? index = none) : pool.IsSecondSlot index := by
  induction pool generalizing index with
  | nil => exact absurd (Nat.lt_of_lt_of_le positive inside) (Nat.lt_irrefl 0)
  | cons e rest inductionHypothesis =>
    rw [slotCount_cons] at inside
    rw [entryAt?] at absent
    split at absent
    · simp at absent
    · rename_i notFirst
      split at absent
      · -- The index is the one behind that of the first entry.
        have slots := e.kind.slots_cases
        obtain rfl : index = 2 := by omega
        exact ⟨e, rfl, by omega⟩
      · rename_i further
        obtain ⟨other, found, two⟩ :=
          inductionHypothesis (by omega : 0 < index - e.kind.slots) (by omega) absent
        have behind := (ConstantPool.entryAt?_bounds rest _ other found).1
        have slots := e.kind.slots_pos
        refine ⟨other, ?_, two⟩
        rw [entryAt?, if_neg (by omega), if_neg (by omega), Nat.sub_right_comm]
        exact found

end Pool

namespace ConstantPool

variable {pool : Pool} {index : Nat} {defect : Defect}

/-- A pool has the slots of its entries, and the empty one in front. -/
theorem size_ofEntries (pool : Pool) : (ofEntries pool).slots.size = pool.slotCount + 1 := by
  have taken (e : PoolEntry) : e.slots.length = e.kind.slots := by
    have positive := e.kind.slots_pos
    rw [PoolEntry.slots, List.length_cons, List.length_replicate]
    omega
  rw [ofEntries, List.size_toArray, List.length_cons]
  congr 1
  induction pool with
  | nil => rfl
  | cons e rest inductionHypothesis =>
    rw [List.flatMap_cons, List.length_append, taken, inductionHypothesis, Pool.slotCount_cons]

/-- A lookup fails for the index, or for the kind of what is there. -/
theorem pick_eq_error {α : Type} {kind : ConstantKind} {kept : Constant → Option α}
    (keeps : ∀ e : PoolEntry, e.kind = kind → (kept e.constant).isSome)
    (failed : (ofEntries pool).pick kind kept index = .error defect) :
    ((index = 0 ∨ pool.slotCount < index) ∧ defect = .badConstantIndex index none) ∨
      (0 < index ∧ index ≤ pool.slotCount ∧ pool.Lacks index kind ∧
        defect = .badConstantIndex index (some kind)) := by
  rw [pick, size_ofEntries] at failed
  split at failed
  · rename_i outside
    obtain rfl := Except.error.inj failed
    exact .inl ⟨outside.imp_right Nat.lt_of_succ_le, rfl⟩
  · rename_i inside
    obtain ⟨positive, among⟩ : 0 < index ∧ index ≤ pool.slotCount := by omega
    rw [slot_ofEntries] at failed
    refine .inr ⟨positive, among, ?_⟩
    cases found : pool.entryAt? index with
    | none =>
      rw [found] at failed
      obtain rfl := Except.error.inj failed
      exact ⟨.inl (Pool.isSecondSlot_of_entryAt? positive among found), rfl⟩
    | some e =>
      rw [found, Option.map_some, Option.bind_some] at failed
      have otherKind : e.kind ≠ kind := by
        intro same
        obtain ⟨value, held⟩ := Option.isSome_iff_exists.mp (keeps e same)
        simp [held] at failed
      split at failed
      · simp at failed
      · obtain rfl := Except.error.inj failed
        exact ⟨.inr ⟨e, found, otherKind⟩, rfl⟩

/-- A lookup that succeeds has found an entry, and yields what is kept of it. -/
theorem exists_entry_of_pick {α : Type} {kind : ConstantKind} {kept : Constant → Option α}
    {value : α} (picked : (ofEntries pool).pick kind kept index = .ok value) :
    ∃ e, pool.entryAt? index = some e ∧ kept e.constant = some value := by
  rw [pick, slot_ofEntries] at picked
  split at picked
  · simp at picked
  · cases found : pool.entryAt? index with
    | none => simp [found] at picked
    | some e =>
      rw [found, Option.map_some, Option.bind_some] at picked
      cases held : kept e.constant with
      | none => simp [held] at picked
      | some other =>
        rw [held] at picked
        exact ⟨e, rfl, by rw [held, Except.ok.inj picked]⟩

/-- One result after another is a failure when the first is, or the second. -/
theorem bind_eq_error_iff {α β : Type} (first : Except Defect α) (next : α → Except Defect β)
    (defect : Defect) : first >>= next = .error defect ↔ first = .error defect ∨
      ∃ value, first = .ok value ∧ next value = .error defect := by
  cases first with
  | ok value => simp [Bind.bind, Except.bind]
  | error reported => simp [Bind.bind, Except.bind]

/-- Looking a text up fails as any lookup does, or because the bytes that are found are no text. -/
theorem text_eq_error (failed : (ofEntries pool).text index = .error defect) :
    (ofEntries pool).pick .text Constant.text? index = .error defect ∨
      ∃ raw, pool.entryAt? index = some (.text raw) ∧ (¬∃ units, Utf8.Denotes raw units) ∧
        defect = .undecodableText index := by
  rcases (bind_eq_error_iff _ _ _).mp failed with unpicked | ⟨raw, picked, undecoded⟩
  · exact .inl unpicked
  · obtain ⟨e, found, held⟩ := exists_entry_of_pick picked
    cases e with
    | text bytes =>
      obtain rfl := Option.some.inj held
      cases decoded : Utf8.decodeClassFile? bytes with
      | some t => simp [decoded] at undecoded
      | none =>
        simp only [decoded, Except.error.injEq] at undecoded
        refine .inr ⟨bytes, found, ?_, undecoded.symm⟩
        rintro ⟨units, denotes⟩
        obtain ⟨t, read, -⟩ := denotes.exists_text
        simp [decoded] at read
    | _ => simp [PoolEntry.constant, Constant.text?] at held

/-- Looking the name of a class up fails as a lookup of a class, or as one of the text that the
class is named by. -/
theorem className_eq_error (failed : (ofEntries pool).className index = .error defect) :
    (ofEntries pool).pick .classRef Constant.classRef? index = .error defect ∨
      ∃ name : UInt16, pool.entryAt? index = some (.classRef name) ∧
        (ofEntries pool).text name.toNat = .error defect := by
  rcases (bind_eq_error_iff _ _ _).mp failed with unpicked | ⟨named, picked, unread⟩
  · exact .inl unpicked
  · obtain ⟨e, found, held⟩ := exists_entry_of_pick picked
    cases e with
    | classRef name =>
      obtain rfl := Option.some.inj held
      exact .inr ⟨name, found, unread⟩
    | _ => simp [PoolEntry.constant, Constant.classRef?] at held

end ConstantPool

end TagAudit.ClassFile
