import Mathlib.Data.Finset.Card
import Mathlib.Data.Finset.Prod
import TagAudit.Yaml.Levels

/-!
# Documents that cannot be combined

Laying one document over another has no end exactly if there is a way without end through tables of
both, from key to key that they have in common. A search that is bounded by the number of pairs of
nodes finds it: a way with more steps passes some pair twice, and goes round from there for ever.
-/

namespace TagAudit.Yaml.Web

variable {upper lower : Web}

/-- Both nodes of a pair mean tables, and a key that these have in common leads to the nodes of
another pair. -/
def Leads (upper lower : Web) (pair next : Nat × Nat) : Prop :=
  ∃ entries others key, upper.table? pair.1 = some entries ∧ lower.table? pair.2 = some others ∧
    (key, next.1) ∈ entries ∧ others.get? key = some next.2

/-- Common keys lead on for a number of steps. -/
def Descends (upper lower : Web) (steps : Nat) (pair : Nat × Nat) : Prop :=
  ∃ way : Nat → Nat × Nat, way 0 = pair ∧ ∀ i < steps, Leads upper lower (way i) (way (i + 1))

/-- Common keys lead on and on from the roots of two webs. -/
def RunsOn (upper lower : Web) : Prop :=
  ∃ way : Nat → Nat × Nat, way 0 = (upper.root, lower.root) ∧
    ∀ i, Leads upper lower (way i) (way (i + 1))

/-- A node that means a table is one of the nodes. -/
theorem lt_size_of_table? {web : Web} {number : Nat} {entries : Keyed Key Nat}
    (isTable : web.table? number = some entries) : number < web.meanings.size := by
  by_contra outside
  rw [table?, Array.getElem?_eq_none (Nat.not_lt.mp outside)] at isTable
  cases isTable

/-- A first step before a way. -/
theorem descends_succ_iff {steps : Nat} {pair : Nat × Nat} :
    Descends upper lower (steps + 1) pair ↔
      ∃ next, Leads upper lower pair next ∧ Descends upper lower steps next := by
  constructor
  · rintro ⟨way, rfl, leads⟩
    exact ⟨way 1, leads 0 (Nat.succ_pos steps), fun i => way (i + 1), rfl,
      fun i inside => leads (i + 1) (Nat.succ_lt_succ inside)⟩
  · rintro ⟨next, leads, way, rfl, onward⟩
    refine ⟨fun i => i.casesOn pair way, rfl, fun i inside => ?_⟩
    cases i with
    | zero => exact leads
    | succ i => exact onward i (Nat.lt_of_succ_lt_succ inside)

/-- The levels below an entry and others are unknown if those below the entry are, or those below one
of the others. -/
theorem levelsBelow?_cons_eq_none_iff {levels : Nat → Nat → Option Nat} {others : Keyed Key Nat}
    {key : Key} {node : Nat} {rest : List (Key × Nat)} :
    levelsBelow? levels others ((key, node) :: rest) = none ↔
      (∃ other, others.get? key = some other ∧ levels node other = none) ∨
        levelsBelow? levels others rest = none := by
  rw [levelsBelow?]
  cases others.get? key with
  | none => simp
  | some other => cases deep : levels node other <;> simp [deep]

/-- The levels below common keys are unknown if those below one of them are. -/
theorem levelsBelow?_eq_none_iff {levels : Nat → Nat → Option Nat} {others : Keyed Key Nat}
    {entries : List (Key × Nat)} :
    levelsBelow? levels others entries = none ↔
      ∃ key node other, (key, node) ∈ entries ∧ others.get? key = some other ∧
        levels node other = none := by
  induction entries with
  | nil => simp [levelsBelow?]
  | cons entry rest inductionHypothesis =>
    obtain ⟨key, node⟩ := entry
    rw [levelsBelow?_cons_eq_none_iff, inductionHypothesis]
    constructor
    · rintro (⟨other, found, deep⟩ | ⟨key', node', other, among, deep⟩)
      · exact ⟨key, node, other, List.mem_cons_self, found, deep⟩
      · exact ⟨key', node', other, List.mem_cons_of_mem _ among, deep⟩
    · rintro ⟨key', node', other, among, found, deep⟩
      rcases List.mem_cons.mp among with same | among
      · cases same
        exact .inl ⟨other, found, deep⟩
      · exact .inr ⟨key', node', other, among, found, deep⟩

/-- The search gives up exactly where common keys lead on for as many steps as it may take. -/
theorem levelsWithin?_eq_none_iff {bound above below : Nat} :
    levelsWithin? upper lower bound above below = none ↔
      Descends upper lower bound (above, below) := by
  induction bound generalizing above below with
  | zero => exact iff_of_true rfl ⟨fun _ => (above, below), rfl, fun i inside => by cases inside⟩
  | succ bound inductionHypothesis =>
    rw [descends_succ_iff, levelsWithin?]
    cases upperTable : upper.table? above with
    | none => simp [Leads, upperTable]
    | some entries =>
      cases lowerTable : lower.table? below with
      | none => simp [Leads, lowerTable]
      | some others =>
        rw [Option.map_eq_none_iff, levelsBelow?_eq_none_iff]
        constructor
        · rintro ⟨key, node, other, among, found, deep⟩
          exact ⟨(node, other), ⟨entries, others, key, upperTable, lowerTable, among, found⟩,
            inductionHypothesis.mp deep⟩
        · rintro ⟨⟨node, other⟩, ⟨entries', others', key, same, same', among, found⟩, onward⟩
          cases upperTable.symm.trans same
          cases lowerTable.symm.trans same'
          exact ⟨key, node, other, among, found, inductionHypothesis.mpr onward⟩

/-- On a way with more steps than there are pairs of nodes, some pair is passed twice. -/
theorem exists_repeated {way : Nat → Nat × Nat}
    (leads : ∀ i < upper.meanings.size * lower.meanings.size + 1,
      Leads upper lower (way i) (way (i + 1))) :
    ∃ i j, i < j ∧ j < upper.meanings.size * lower.meanings.size + 1 ∧ way i = way j := by
  let pairs := Finset.range upper.meanings.size ×ˢ Finset.range lower.meanings.size
  let steps := Finset.range (upper.meanings.size * lower.meanings.size + 1)
  have fewer : pairs.card < steps.card := by simp [pairs, steps]
  have inside : ∀ i ∈ steps, way i ∈ pairs := by
    intro i among
    obtain ⟨entries, others, key, upperTable, lowerTable, -, -⟩ :=
      leads i (Finset.mem_range.mp among)
    exact Finset.mem_product.mpr ⟨Finset.mem_range.mpr (lt_size_of_table? upperTable),
      Finset.mem_range.mpr (lt_size_of_table? lowerTable)⟩
  obtain ⟨i, among, j, amongToo, different, same⟩ :=
    Finset.exists_ne_map_eq_of_card_lt_of_maps_to fewer inside
  rcases Nat.lt_or_gt_of_ne different with earlier | later
  · exact ⟨i, j, earlier, Finset.mem_range.mp amongToo, same⟩
  · exact ⟨j, i, later, Finset.mem_range.mp among, same.symm⟩

/-- The steps of a way that goes back to an earlier step whenever it has come to a later one. -/
def goingRound (back stop : Nat) : Nat → Nat
  | 0 => 0
  | n + 1 => if goingRound back stop n + 1 = stop then back else goingRound back stop n + 1

/-- A way that passes a pair twice can go round for ever. -/
theorem exists_endless {way : Nat → Nat × Nat} {i j : Nat} (earlier : i < j)
    (leads : ∀ k < j, Leads upper lower (way k) (way (k + 1))) (same : way i = way j) :
    ∃ endless : Nat → Nat × Nat, endless 0 = way 0 ∧
      ∀ n, Leads upper lower (endless n) (endless (n + 1)) := by
  have inside (n : Nat) : goingRound i j n < j := by
    induction n with
    | zero => exact Nat.zero_lt_of_lt earlier
    | succ n inductionHypothesis =>
      rw [goingRound]
      split <;> omega
  refine ⟨fun n => way (goingRound i j n), rfl, fun n => ?_⟩
  have onward := leads (goingRound i j n) (inside n)
  change Leads upper lower (way (goingRound i j n)) (way (goingRound i j (n + 1)))
  rw [goingRound]
  by_cases arrived : goingRound i j n + 1 = j
  · rw [if_pos arrived, same]
    rwa [arrived] at onward
  · rw [if_neg arrived]
    exact onward

/-- Whether laying a web over another has an end is found out. -/
theorem levelsOver?_eq_none_iff : upper.levelsOver? lower = none ↔ upper.RunsOn lower := by
  rw [levelsOver?, levelsWithin?_eq_none_iff]
  constructor
  · rintro ⟨way, start, leads⟩
    obtain ⟨i, j, earlier, inside, same⟩ := exists_repeated leads
    obtain ⟨endless, begins, onward⟩ :=
      exists_endless earlier (fun k before => leads k (Nat.lt_trans before inside)) same
    exact ⟨endless, begins.trans start, onward⟩
  · rintro ⟨way, start, leads⟩
    exact ⟨way, start, fun i _ => leads i⟩

end TagAudit.Yaml.Web
