import TagAudit.Data.Overlay
import TagAudit.Proofs.Data.Keys

/-!
# What data laid over other data holds

Where tables are combined, what stands under a key is told key by key: what only one of them holds
stands there as it is, and what both hold is combined in turn. Unless both are tables, data takes
the place of what it is laid over.
-/

namespace TagAudit

namespace Data

/-- Unless both are tables, data takes the place of what it is laid over. -/
theorem laidOver_of_single {upper lower : Data}
    (single : upper.table? = none ∨ lower.table? = none) : upper.laidOver lower = upper := by
  cases upper with
  | table entries =>
    have single : lower.table? = none := single.resolve_left nofun
    rw [laidOver, single]
  | knot number content =>
    have notBoth : ¬(content.table?.isSome && lower.table?.isSome) = true := by
      rw [table?] at single
      rcases single with single | single <;> simp [single]
    rw [laidOver, if_neg notBoth]
  | null | bool _ | int _ | real _ | text _ | bytes _ | moment _ _ | record _ _ | list _ | tuple _
  | set _ => rw [laidOver] <;> nofun

/-- A table laid over a table is their combination, also if one of them occurs within itself. -/
theorem table?_laidOver {upper lower : Data} {above below : Keyed Key Data}
    (upperTable : upper.table? = some above) (lowerTable : lower.table? = some below) :
    (upper.laidOver lower).table? = some (overEntries above below) := by
  fun_induction Data.table? upper with
  | case1 entries =>
    obtain rfl := Option.some.inj upperTable
    rw [laidOver, lowerTable, table?]
  | case2 number content inductionHypothesis =>
    have both : (content.table?.isSome && lower.table?.isSome) = true := by
      rw [upperTable, lowerTable, Option.isSome_some, Option.isSome_some, Bool.and_self]
    rw [laidOver, if_pos both]
    exact inductionHypothesis upperTable
  | case3 => cases upperTable

/-- Under every key stands what one of the tables holds there, or the combination of both. -/
theorem get?_overEntries (key : Key) (upper lower : Keyed Key Data)
    (distinct : upper.IsDistinct) :
    Keyed.get? key (overEntries upper lower) =
      Option.merge laidOver (upper.get? key) (lower.get? key) := by
  induction upper generalizing lower with
  | nil =>
    rw [overEntries, Keyed.get?]
    cases lower.get? key <;> rfl
  | cons entry rest inductionHypothesis =>
    obtain ⟨held, value⟩ := entry
    obtain ⟨apart, later⟩ := List.pairwise_cons.mp distinct
    rw [overEntries, inductionHypothesis _ later, Keyed.get?_put, Keyed.get?]
    by_cases same : (held == key) = true
    · have noMore : Keyed.get? key rest = none :=
        Keyed.get?_eq_none fun other among => by
          rw [← BEq.congr_right same, BEq.comm]
          exact apart other among
      rw [if_pos same, if_pos same, noMore, Keyed.get?_congr same]
      cases lower.get? key <;> rfl
    · rw [if_neg same, if_neg same]

/-- Combining tables makes no two keys the same. -/
theorem isDistinct_overEntries (upper : List (Key × Data)) (lower : Keyed Key Data)
    (distinct : lower.IsDistinct) : (overEntries upper lower).IsDistinct := by
  induction upper generalizing lower with
  | nil => exact distinct
  | cons entry rest inductionHypothesis => exact inductionHypothesis _ (distinct.put _ _)

/-- The keys of a combination are those of the lower table in their order, and behind them those of
the upper table that are new, in theirs. -/
theorem keys_overEntries (upper lower : Keyed Key Data) (distinct : upper.IsDistinct) :
    Keyed.keys (overEntries upper lower) =
      lower.keys ++ upper.keys.filter fun key => !lower.has key := by
  induction upper generalizing lower with
  | nil => exact (List.append_nil _).symm
  | cons entry rest inductionHypothesis =>
    obtain ⟨key, value⟩ := entry
    obtain ⟨apart, later⟩ := List.pairwise_cons.mp distinct
    -- Among the keys that follow, those that are new do not change when this one is put.
    have unchanged (value : Data) :
        (Keyed.keys rest).filter (fun other => !(lower.put key value).has other) =
          (Keyed.keys rest).filter fun other => !lower.has other := by
      refine List.filter_congr fun other among => ?_
      rw [Keyed.has_put, apart other among, Bool.false_or]
    rw [overEntries, inductionHypothesis _ later, unchanged, Keyed.keys_put]
    change _ = lower.keys ++ (key :: Keyed.keys rest).filter _
    cases there : lower.has key <;> simp [there]

/-- A combination holds a key exactly if one of the tables does. -/
theorem has_overEntries (key : Key) (upper lower : Keyed Key Data) (distinct : upper.IsDistinct) :
    Keyed.has key (overEntries upper lower) = (lower.has key || upper.has key) := by
  rw [Keyed.has_eq, Keyed.has_eq, Keyed.has_eq, get?_overEntries key upper lower distinct]
  cases upper.get? key <;> cases lower.get? key <;> rfl

/-- Where the lower table holds all keys of the upper one, a combination has the keys of the lower
one. -/
theorem keys_overEntries_of_held (upper lower : Keyed Key Data) (distinct : upper.IsDistinct)
    (held : ∀ key ∈ upper.keys, lower.has key = true) :
    Keyed.keys (overEntries upper lower) = lower.keys := by
  have noneNew : (upper.keys.filter fun key => !lower.has key) = [] :=
    List.filter_eq_nil_iff.mpr fun key among => by
      rw [held key among]
      exact Bool.false_ne_true
  rw [keys_overEntries upper lower distinct, noneNew, List.append_nil]

/-- A combination has no keys but those of the tables that are combined. -/
theorem mem_keys_of_mem_keys_overEntries {upper lower : Keyed Key Data} {key : Key}
    (among : key ∈ (overEntries upper lower).keys) : key ∈ upper.keys ∨ key ∈ lower.keys := by
  induction upper generalizing lower with
  | nil => exact .inr among
  | cons entry rest inductionHypothesis =>
    rcases inductionHypothesis among with later | below
    · exact .inl (List.mem_cons_of_mem _ later)
    · rcases Keyed.mem_keys_of_mem_keys_put below with rfl | before
      · exact .inl List.mem_cons_self
      · exact .inr before

/-- Neither a table nor a table that stands in it holds a key twice. -/
structure IsDistinctWithin (entries : Keyed Key Data) : Prop where
  outer : entries.IsDistinct
  inner {key : Key} {value : Data} {inner : Keyed Key Data} (found : entries.get? key = some value)
    (table : value.table? = some inner) : inner.IsDistinct

/-- A table without anything in it holds no key twice. -/
theorem isDistinctWithin_nil : IsDistinctWithin [] where
  outer := Keyed.isDistinct_nil
  inner := nofun

/-- Putting a table without a key twice into another makes no key stand twice. -/
theorem IsDistinctWithin.put {entries : Keyed Key Data} (distinct : IsDistinctWithin entries)
    {value : Data} (key : Key)
    (within : ∀ inner : Keyed Key Data, value.table? = some inner → inner.IsDistinct) :
    IsDistinctWithin (entries.put key value) where
  outer := distinct.outer.put key value
  inner {sought other inner} found table := by
    rw [Keyed.get?_put] at found
    split at found
    · obtain rfl := Option.some.inj found
      exact within inner table
    · exact distinct.inner found table

/-- Combining tables makes no key stand twice, in them or in the tables that stand in them. -/
theorem IsDistinctWithin.overEntries {upper lower : Keyed Key Data}
    (distinct : IsDistinctWithin upper) (distinct' : IsDistinctWithin lower) :
    IsDistinctWithin (overEntries upper lower) where
  outer := isDistinct_overEntries upper lower distinct'.outer
  inner {key value inner} found table := by
    rw [get?_overEntries key upper lower distinct.outer, Option.merge_eq_some_iff] at found
    rcases found with ⟨above, -⟩ | ⟨-, below⟩ | ⟨data, data', above, below, rfl⟩
    · exact distinct.inner above table
    · exact distinct'.inner below table
    · by_cases single : data.table? = none ∨ data'.table? = none
      · rw [laidOver_of_single single] at table
        exact distinct.inner above table
      · rw [not_or, ← ne_eq, ← ne_eq, Option.ne_none_iff_exists', Option.ne_none_iff_exists'] at single
        obtain ⟨⟨held, upperTable⟩, held', lowerTable⟩ := single
        obtain rfl := Option.some.inj ((table?_laidOver upperTable lowerTable).symm.trans table)
        exact isDistinct_overEntries held held' (distinct'.inner below lowerTable)

end Data

end TagAudit
