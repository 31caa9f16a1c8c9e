import Mathlib.Data.List.Nodup
import Mathlib.Data.List.Perm.Basic
import TagAudit.Proofs.Keyed
import TagAudit.Proofs.Text.Order

/-!
# Tables in the order of their keys

Two tables with distinct keys find the same under every key exactly if they hold the same pairs, in
whatever order these stand. Brought into the order of their keys they are then one and the same
list: what is found in a table and how it looks when sorted determine each other.
-/

namespace TagAudit.Keyed

variable {κ ν μ : Type}

/-- In a table with distinct keys a pair is known by its key. -/
theorem eq_of_mem_of_key {table : Keyed κ ν} (distinct : (keys table).Nodup) {entry other : κ × ν}
    (held : entry ∈ table) (heldToo : other ∈ table) (same : entry.1 = other.1) : entry = other :=
  List.inj_on_of_nodup_map distinct held heldToo same

/-- Distinct keys stay distinct in any order. -/
theorem nodup_keys_of_perm {left right : Keyed κ ν} (same : left.Perm right)
    (distinct : (keys left).Nodup) : (keys right).Nodup :=
  (same.map Prod.fst).nodup_iff.mp distinct

/-- The keys do not depend on the values. -/
@[simp] theorem keys_mapValues (f : ν → μ) (table : Keyed κ ν) :
    keys (mapValues f table) = keys table := by
  simp [keys, mapValues]

section Lookup

variable [BEq κ]

/-- Under a key the value is found that was there, changed. -/
@[simp] theorem get?_mapValues (f : ν → μ) (key : κ) (table : Keyed κ ν) :
    get? key (mapValues f table) = (get? key table).map f :=
  get?_map id f (fun _ _ => rfl) key table

/-- Where pairs have the same keys one by one, and their values are related, so are the values that
are found. -/
theorem get?_rel_of_forall₂ {related : ν → μ → Prop} {left : Keyed κ ν} {right : Keyed κ μ}
    (alike : List.Forall₂ (fun entry other => entry.1 = other.1 ∧ related entry.2 other.2)
      left right) (key : κ) : Option.Rel related (get? key left) (get? key right) := by
  induction alike with
  | nil => exact .none
  | @cons entry other left right first rest inductionHypothesis =>
    rw [get?, get?, first.1]
    split
    · exact .some first.2
    · exact inductionHypothesis

variable [LawfulBEq κ] {left right : Keyed κ ν}

/-- Tables with distinct keys hold the same pairs exactly if they find the same under every key. -/
theorem perm_iff_get?_eq (distinct : (keys left).Nodup) (distinctToo : (keys right).Nodup) :
    left.Perm right ↔ ∀ key, get? key left = get? key right := by
  rw [List.perm_ext_iff_of_nodup (distinct.of_map _) (distinctToo.of_map _)]
  constructor
  · intro same key
    apply Option.ext
    intro value
    rw [get?_eq_some_iff key value left distinct, get?_eq_some_iff key value right distinctToo]
    exact same (key, value)
  · intro same entry
    rw [← get?_eq_some_iff entry.1 entry.2 left distinct,
      ← get?_eq_some_iff entry.1 entry.2 right distinctToo, same]

end Lookup

/-- A comparison puts keys in order: it is an order of items, and no key comes before itself only
if it is another one. -/
structure SortsKeys (before : κ → κ → Bool) : Prop extends Text.OrdersItems before where
  refl : ∀ key, before key key = true

/-- Names are put in order by their code points. -/
theorem sortsKeys_precedes : SortsKeys Text.precedes where
  toOrdersItems := Text.ordersItems_precedes
  refl name := by
    obtain forth | back := Text.ordersItems_before.listPrecedes_total name name
    · exact forth
    · exact back

/-- Integers are put in order by their value. -/
theorem sortsKeys_le : SortsKeys fun first second : Int => decide (first ≤ second) where
  total a b different := by
    simp only [decide_eq_true_eq]
    omega
  antisymm a b forth back := by
    simp only [decide_eq_true_eq] at forth back
    omega
  trans a b c forth further := by
    simp only [decide_eq_true_eq] at forth further ⊢
    omega
  refl key := by simp

/-- A table in the order of its keys. -/
def inOrder (before : κ → κ → Bool) (table : Keyed κ ν) : Keyed κ ν :=
  table.mergeSort fun left right => before left.1 right.1

section Order

variable {before : κ → κ → Bool}

/-- A table in order holds what it held. -/
theorem inOrder_perm (before : κ → κ → Bool) (table : Keyed κ ν) :
    (inOrder before table).Perm table := List.mergeSort_perm table _

/-- A pair is held in order exactly if it is held. -/
@[simp] theorem mem_inOrder (entry : κ × ν) (table : Keyed κ ν) :
    entry ∈ inOrder before table ↔ entry ∈ table := List.mem_mergeSort

/-- Values may be changed before or after a table is put in order. -/
theorem inOrder_mapValues (f : ν → μ) (table : Keyed κ ν) :
    inOrder before (mapValues f table) = mapValues f (inOrder before table) := by
  symm
  apply List.map_mergeSort
  simp

/-- In a table in order the same is found, if the keys are distinct. -/
theorem get?_inOrder [BEq κ] [LawfulBEq κ] {table : Keyed κ ν} (distinct : (keys table).Nodup)
    (key : κ) : get? key (inOrder before table) = get? key table := by
  have same := inOrder_perm before table
  exact (perm_iff_get?_eq (nodup_keys_of_perm same.symm distinct) distinct).mp same key

variable (sorts : SortsKeys before)
include sorts

/-- Of the pairs of a table in order the key of each comes before those behind it. -/
theorem SortsKeys.pairwise_inOrder (table : Keyed κ ν) :
    (inOrder before table).Pairwise fun left right => before left.1 right.1 = true := by
  refine List.pairwise_mergeSort (fun a b c => sorts.trans a.1 b.1 c.1) (fun a b => ?_) table
  rw [Bool.or_eq_true]
  by_cases same : a.1 = b.1
  · rw [same]
    exact .inl (sorts.refl b.1)
  · exact sorts.total a.1 b.1 same

/-- If the keys are distinct, the key of each pair is another one than those behind it, too. -/
theorem SortsKeys.strict_inOrder {table : Keyed κ ν} (distinct : (keys table).Nodup) :
    (inOrder before table).Pairwise fun left right =>
      before left.1 right.1 = true ∧ left.1 ≠ right.1 := by
  have apart : (keys (inOrder before table)).Nodup :=
    nodup_keys_of_perm (inOrder_perm before table).symm distinct
  exact (sorts.pairwise_inOrder table).and (List.pairwise_map.mp apart)

/-- What is in order stays as it is. -/
theorem SortsKeys.inOrder_inOrder (table : Keyed κ ν) :
    inOrder before (inOrder before table) = inOrder before table :=
  List.mergeSort_of_pairwise (sorts.pairwise_inOrder table)

/-- Tables with distinct keys are the same in order exactly if they hold the same pairs. -/
theorem SortsKeys.inOrder_eq_iff_perm {left right : Keyed κ ν} (distinct : (keys left).Nodup) :
    inOrder before left = inOrder before right ↔ left.Perm right := by
  constructor
  · intro same
    have middle : (inOrder before left).Perm right := by
      rw [same]
      exact inOrder_perm before right
    exact (inOrder_perm before left).symm.trans middle
  · intro same
    refine List.Perm.eq_of_pairwise ?_ (sorts.pairwise_inOrder left) (sorts.pairwise_inOrder right)
      ((inOrder_perm before left).trans (same.trans (inOrder_perm before right).symm))
    intro entry other held heldToo forth back
    rw [mem_inOrder] at held heldToo
    exact eq_of_mem_of_key distinct held (same.mem_iff.mpr heldToo)
      (sorts.antisymm entry.1 other.1 forth back)

end Order

end TagAudit.Keyed
