import TagAudit.Proofs.Tags.Sorted

/-!
# The entries of a report in a row

The entries of a report can be put in one row: class by class in the order of their names, and tag
by tag in the order of their values. The row has every entry once and as many as the report counts.
A sound report is known by its row, for under a name and a tag it holds what the row says, and it
holds no class without an entry.
-/

namespace TagAudit

namespace Conflict

/-- A conflict stands before another: its class has the lesser name, or it is the same and the tag
is less. -/
def Before (first second : Conflict) : Prop :=
  first.className < second.className ∨
    first.className = second.className ∧ first.tag < second.tag

/-- No conflict stands before itself. -/
theorem Before.ne {first second : Conflict} (before : first.Before second) : first ≠ second := by
  rintro rfl
  rcases before with lesser | ⟨-, less⟩
  · exact List.lt_irrefl _ lesser
  · exact Int.lt_irrefl _ less

end Conflict

namespace Report

/-- The record under a name and a tag. -/
def record? (report : Report) (name : Text) (tag : Int) : Option Conflict :=
  (Keyed.get? name report).bind (Keyed.get? tag)

/-- The entries of a report in ascending order: the class and the tag under which each stands, and
the field that is recorded there. -/
def enumerated (report : Report) : List Conflict :=
  report.sorted.flatMap fun entry =>
    entry.2.map fun held => ⟨entry.1, held.2.fieldName, held.1⟩

section
variable {report : Report}

/-- There are as many entries as a report counts conflicts. -/
theorem length_enumerated (report : Report) : report.enumerated.length = report.total := by
  rw [← total_sorted, total, enumerated]
  simp only [List.length_flatMap, List.length_map]

/-- In ascending order the names of a table of tables are strictly ascending. -/
theorem IsTable.pairwise_sorted (table : report.IsTable) :
    report.sorted.Pairwise fun entry other => entry.1 < other.1 := by
  have distinct : (Keyed.keys (Keyed.mapValues sortedTags report)).Nodup := by
    simpa using table.names
  rw [sorted_eq]
  exact (Keyed.sortsKeys_precedes.strict_inOrder distinct).imp fun both =>
    Text.lt_of_precedes both.1 both.2

/-- Tags that are distinct are strictly ascending in order. -/
theorem pairwise_sortedTags {conflicts : Conflicts} (distinct : (Keyed.keys conflicts).Nodup) :
    (sortedTags conflicts).Pairwise fun held other => held.1 < other.1 := by
  rw [sortedTags_eq]
  refine (Keyed.sortsKeys_le.strict_inOrder distinct).imp fun both => ?_
  obtain ⟨atMost, apart⟩ := both
  rw [decide_eq_true_eq] at atMost
  omega

/-- Each entry stands before those behind it. -/
theorem IsTable.pairwise_enumerated (table : report.IsTable) :
    report.enumerated.Pairwise Conflict.Before := by
  rw [enumerated, List.pairwise_flatMap]
  constructor
  · rw [forall_mem_sorted]
    intro entry listed
    rw [List.pairwise_map]
    exact (pairwise_sortedTags (table.tags entry listed)).imp fun less => .inr ⟨rfl, less⟩
  · refine table.pairwise_sorted.imp fun lesser => ?_
    simp only [List.forall_mem_map]
    exact fun held among other amongToo => .inl lesser

/-- No entry stands in the row twice. -/
theorem IsTable.nodup_enumerated (table : report.IsTable) : report.enumerated.Nodup :=
  table.pairwise_enumerated.imp Conflict.Before.ne

/-- A table of tables has a record under a name and a tag if it holds that in an entry. -/
theorem IsTable.record?_eq_some_iff (table : report.IsTable) {name : Text} {tag : Int}
    {conflict : Conflict} : report.record? name tag = some conflict ↔
      ∃ entry ∈ report, entry.1 = name ∧ (tag, conflict) ∈ entry.2 := by
  rw [record?, Option.bind_eq_some_iff]
  constructor
  · rintro ⟨conflicts, found, held⟩
    exact ⟨_, Keyed.mem_of_get?_eq_some name conflicts report found, rfl,
      Keyed.mem_of_get?_eq_some tag conflict conflicts held⟩
  · rintro ⟨entry, listed, rfl, among⟩
    have found := (Keyed.get?_eq_some_iff entry.1 entry.2 report table.names).mpr listed
    exact ⟨entry.2, found,
      (Keyed.get?_eq_some_iff tag conflict entry.2 (table.tags entry listed)).mpr among⟩

variable (sound : report.Sound)
include sound

/-- A record of a sound report is told by where it stands and the field that it names. -/
theorem Sound.conflict_eq {entry : Text × Conflicts} {held : Int × Conflict}
    (listed : entry ∈ report) (among : held ∈ entry.2) :
    (⟨entry.1, held.2.fieldName, held.1⟩ : Conflict) = held.2 := by
  obtain ⟨className, tag⟩ := sound.named entry listed held among
  rw [← className, ← tag]

/-- The entries of a sound report are its records, each under its own name and tag. -/
theorem Sound.mem_enumerated_iff (conflict : Conflict) : conflict ∈ report.enumerated ↔
    report.record? conflict.className conflict.tag = some conflict := by
  rw [sound.toIsTable.record?_eq_some_iff, enumerated, List.mem_flatMap]
  constructor
  · rintro ⟨entry, listed, among⟩
    obtain ⟨whole, inReport, rfl⟩ := List.mem_map.mp ((sorted_perm report).mem_iff.mp listed)
    obtain ⟨held, inOrder, rfl⟩ := List.mem_map.mp among
    rw [mem_sortedTags] at inOrder
    have same := sound.conflict_eq inReport inOrder
    refine ⟨whole, inReport, rfl, ?_⟩
    rw [same, (sound.named whole inReport held inOrder).2]
    exact inOrder
  · rintro ⟨entry, listed, -, among⟩
    have same := sound.conflict_eq listed among
    refine ⟨(entry.1, sortedTags entry.2), ?_, ?_⟩
    · exact (sorted_perm report).mem_iff.mpr (List.mem_map_of_mem listed)
    · exact List.mem_map.mpr ⟨_, (mem_sortedTags _).mpr among, same⟩

/-- A record of a sound report stands under its own name and tag. -/
theorem Sound.keys_of_record? {name : Text} {tag : Int} {conflict : Conflict}
    (found : report.record? name tag = some conflict) :
    conflict.className = name ∧ conflict.tag = tag := by
  obtain ⟨entry, listed, rfl, among⟩ := sound.toIsTable.record?_eq_some_iff.mp found
  exact sound.named entry listed _ among

/-- Under every name in a sound report there is a record. -/
theorem Sound.exists_record? {name : Text} {conflicts : Conflicts}
    (found : Keyed.get? name report = some conflicts) :
    ∃ tag conflict, report.record? name tag = some conflict := by
  have listed := Keyed.mem_of_get?_eq_some name conflicts report found
  obtain ⟨held, among⟩ := List.exists_mem_of_ne_nil conflicts (sound.filled _ listed)
  exact ⟨held.1, held.2, sound.toIsTable.record?_eq_some_iff.mpr ⟨_, listed, rfl, among⟩⟩

end

section
variable {left right : Report} (sound : left.Sound) (soundToo : right.Sound)
include sound soundToo

/-- Sound reports are the same exactly if they have the same records. -/
theorem Sound.same_iff_record? : left.Same right ↔
    ∀ name tag, left.record? name tag = right.record? name tag := by
  constructor
  · intro same name tag
    have alike := same name
    rw [record?, record?]
    cases found : Keyed.get? name left with
    | none =>
      cases foundToo : Keyed.get? name right with
      | none => rfl
      | some others => simp [found, foundToo] at alike
    | some own =>
      cases foundToo : Keyed.get? name right with
      | none => simp [found, foundToo] at alike
      | some others =>
        simp only [found, foundToo, Option.rel_some_some] at alike
        exact alike tag
  · intro same name
    cases found : Keyed.get? name left with
    | none =>
      cases foundToo : Keyed.get? name right with
      | none => exact .none
      | some others =>
        obtain ⟨tag, conflict, record⟩ := soundToo.exists_record? foundToo
        rw [← same, record?, found] at record
        cases record
    | some own =>
      cases foundToo : Keyed.get? name right with
      | none =>
        obtain ⟨tag, conflict, record⟩ := sound.exists_record? found
        rw [same, record?, foundToo] at record
        cases record
      | some others =>
        refine .some fun tag => ?_
        simpa [record?, found, foundToo] using same name tag

/-- Sound reports are the same exactly if they have the same entries in a row. -/
theorem Sound.same_iff_enumerated : left.Same right ↔ left.enumerated = right.enumerated := by
  constructor
  · intro same
    rw [enumerated, (sound.toIsTable.sorted_eq_iff soundToo.toIsTable).mpr same, enumerated]
  · intro same
    rw [sound.same_iff_record? soundToo]
    intro name tag
    apply Option.ext
    intro conflict
    constructor
    · intro found
      obtain ⟨rfl, rfl⟩ := sound.keys_of_record? found
      rwa [← soundToo.mem_enumerated_iff, ← same, sound.mem_enumerated_iff]
    · intro found
      obtain ⟨rfl, rfl⟩ := soundToo.keys_of_record? found
      rwa [← sound.mem_enumerated_iff, same, soundToo.mem_enumerated_iff]

end

end Report

end TagAudit
