import TagAudit.Proofs.Keyed.Sorted
import TagAudit.Proofs.Tags.Soundness

/-!
# Reports in ascending order

A report is rendered with its classes in the order of their names and the tags of each in the order
of their values, so a rendering shows the report in ascending order and nothing of the order in
which it was put together. Two reports are the same in ascending order exactly if they are the same
tables of tables.

The order in which classes are examined is one thing that does not show. As long as no two of them
share a name, any order yields the same report up to the order of its entries.
-/

namespace TagAudit

open ClassFile

namespace Report

/-- A report with its classes and the tags of each in ascending order. -/
def sorted (report : Report) : Report := Keyed.mapValues sortedTags report.sortedClasses

/-- Two reports hold the same classes, and under each the same records by tag. -/
def Same (left right : Report) : Prop :=
  ∀ name, Option.Rel (fun own others => ∀ tag, Keyed.get? tag own = Keyed.get? tag others)
    (Keyed.get? name left) (Keyed.get? name right)

/-- A report holds the entries of another in some order, with the records of each in some order. -/
def Rearranged (left right : Report) : Prop :=
  ∃ middle : Report, left.Perm middle ∧
    List.Forall₂ (fun entry other => entry.1 = other.1 ∧ entry.2.Perm other.2) middle right

/-- The tags of a class are put in the order of their values. -/
theorem sortedTags_eq (conflicts : Conflicts) :
    sortedTags conflicts = Keyed.inOrder (fun first second => decide (first ≤ second)) conflicts :=
  rfl

/-- The classes of a report are put in the order of their names. -/
theorem sortedClasses_eq (report : Report) :
    report.sortedClasses = Keyed.inOrder Text.precedes report := rfl

/-- Tags in ascending order stay as they are. -/
@[simp] theorem sortedTags_sortedTags (conflicts : Conflicts) :
    sortedTags (sortedTags conflicts) = sortedTags conflicts :=
  Keyed.sortsKeys_le.inOrder_inOrder conflicts

/-- Under distinct tags the same is found in ascending order. -/
theorem get?_sortedTags {conflicts : Conflicts} (distinct : (Keyed.keys conflicts).Nodup)
    (tag : Int) : Keyed.get? tag (sortedTags conflicts) = Keyed.get? tag conflicts := by
  rw [sortedTags_eq, Keyed.get?_inOrder distinct]

/-- Under distinct names the same is found in ascending order. -/
theorem get?_sortedClasses {report : Report} (distinct : (Keyed.keys report).Nodup)
    (name : Text) : Keyed.get? name report.sortedClasses = Keyed.get? name report := by
  rw [sortedClasses_eq, Keyed.get?_inOrder distinct]

/-- The classes are put in the order of their names, before or after their tags are. -/
theorem sorted_eq (report : Report) :
    report.sorted = Keyed.inOrder Text.precedes (Keyed.mapValues sortedTags report) :=
  (Keyed.inOrder_mapValues sortedTags report).symm

section
variable (report : Report)

/-- The classes of a report in ascending order stay as they are. -/
@[simp] theorem sortedClasses_sorted : report.sorted.sortedClasses = report.sorted := by
  rw [sorted_eq]
  exact Keyed.sortsKeys_precedes.inOrder_inOrder _

/-- The entries in ascending order are those of the report with their tags in ascending order. -/
theorem sorted_perm : report.sorted.Perm (Keyed.mapValues sortedTags report) := by
  rw [sorted_eq]
  exact Keyed.inOrder_perm _ _

/-- What holds of the classes in ascending order holds of all classes. -/
theorem forall_mem_sorted {holds : Text × Conflicts → Prop} :
    (∀ entry ∈ report.sorted, holds entry) ↔
      ∀ entry ∈ report, holds (entry.1, sortedTags entry.2) := by
  simp only [(sorted_perm report).mem_iff, Keyed.mapValues, List.forall_mem_map]

/-- A report in ascending order is empty if the report is. -/
@[simp] theorem isEmpty_sorted : report.sorted.isEmpty = report.isEmpty := by
  rw [(sorted_perm report).isEmpty_eq, Keyed.mapValues, List.isEmpty_map]

/-- It counts as many conflicts. -/
@[simp] theorem total_sorted : report.sorted.total = report.total := by
  have same : (report.sorted.flatMap fun entry => entry.2).Perm
      (report.flatMap fun entry => entry.2) := by
    refine ((sorted_perm report).flatMap_right _).trans ?_
    rw [Keyed.mapValues, List.flatMap_map]
    exact List.Perm.flatMap_left report fun entry _ => List.mergeSort_perm entry.2 _
  exact same.length_eq

/-- Its tags can be displayed if those of the report can. -/
@[simp] theorem hasShortTags_sorted : report.sorted.hasShortTags = report.hasShortTags := by
  rw [Bool.eq_iff_iff]
  simp only [hasShortTags, List.all_eq_true, forall_mem_sorted, mem_sortedTags]

/-- So can those in its records. -/
@[simp] theorem recordsShortTags_sorted :
    report.sorted.recordsShortTags = report.recordsShortTags := by
  rw [Bool.eq_iff_iff]
  simp only [recordsShortTags, List.all_eq_true, forall_mem_sorted, mem_sortedTags]

/-- The lines show a report in ascending order. -/
theorem lines_sorted : report.sorted.lines = report.lines := by
  have shown (className : Text) (conflicts : Conflicts) :
      classLines className (sortedTags conflicts) = classLines className conflicts := by
    simp only [classLines, sortedTags_sortedTags]
  rw [lines, lines, isEmpty_sorted, sortedClasses_sorted, sorted, Keyed.mapValues,
    List.flatMap_map]
  simp only [shown]

/-- The data does, too. -/
theorem toData_sorted : report.sorted.toData = report.toData := by
  rw [toData, toData, sortedClasses_sorted, sorted, Keyed.mapValues, List.map_map]
  simp only [Function.comp_def, sortedTags_sortedTags]

/-- Whether there are lines, and which, is told by the report in ascending order. -/
theorem lines?_sorted : report.sorted.lines? = report.lines? := by
  simp only [lines?, hasShortTags_sorted, recordsShortTags_sorted, lines_sorted]

/-- Whether there is data, and which, is told by the report in ascending order. -/
theorem toData?_sorted : report.sorted.toData? = report.toData? := by
  simp only [toData?, hasShortTags_sorted, toData_sorted]

end

/-- The document of a result is told by the report in ascending order and the rest of the result. -/
theorem toData?_result_sorted (result : ScanResult) :
    ScanResult.toData? { result with report := result.report.sorted } = result.toData? := by
  simp only [ScanResult.toData?, ScanResult.toData, ScanResult.hasViolations, hasShortTags_sorted,
    isEmpty_sorted, total_sorted, toData_sorted]
  rfl

section
variable {left right : Report}

/-- Under a name a table of tables has records under distinct tags. -/
theorem IsTable.nodup_of_get? (table : left.IsTable) {name : Text} {conflicts : Conflicts}
    (found : Keyed.get? name left = some conflicts) : (Keyed.keys conflicts).Nodup :=
  table.tags (name, conflicts) (Keyed.mem_of_get?_eq_some name conflicts left found)

/-- Conflicts under distinct tags are the same in ascending order exactly if they find the same. -/
theorem sortedTags_eq_iff {own others : Conflicts} (distinct : (Keyed.keys own).Nodup)
    (distinctToo : (Keyed.keys others).Nodup) :
    sortedTags own = sortedTags others ↔ ∀ tag, Keyed.get? tag own = Keyed.get? tag others := by
  rw [sortedTags_eq, sortedTags_eq, Keyed.sortsKeys_le.inOrder_eq_iff_perm distinct,
    Keyed.perm_iff_get?_eq distinct distinctToo]

/-- Reports are the same in ascending order exactly if they are the same tables of tables. -/
theorem IsTable.sorted_eq_iff (table : left.IsTable) (tableToo : right.IsTable) :
    left.sorted = right.sorted ↔ left.Same right := by
  have names : (Keyed.keys (Keyed.mapValues sortedTags left)).Nodup := by simpa using table.names
  have namesToo : (Keyed.keys (Keyed.mapValues sortedTags right)).Nodup := by
    simpa using tableToo.names
  rw [sorted_eq, sorted_eq, Keyed.sortsKeys_precedes.inOrder_eq_iff_perm names,
    Keyed.perm_iff_get?_eq names namesToo]
  refine forall_congr' fun name => ?_
  rw [Keyed.get?_mapValues, Keyed.get?_mapValues]
  cases found : Keyed.get? name left with
  | none => cases Keyed.get? name right <;> simp
  | some own =>
    cases foundToo : Keyed.get? name right with
    | none => simp
    | some others =>
      have distinct := table.nodup_of_get? found
      have distinctToo := tableToo.nodup_of_get? foundToo
      simp [sortedTags_eq_iff distinct distinctToo]

/-- Where entries agree one by one, every entry has the records of another in some order. -/
theorem exists_of_mem_of_forall₂
    (alike : List.Forall₂ (fun entry other => entry.1 = other.1 ∧ entry.2.Perm other.2) left right)
    {other : Text × Conflicts} (listed : other ∈ right) :
    ∃ entry ∈ left, entry.2.Perm other.2 := by
  induction alike with
  | nil => cases listed
  | @cons entry first left right both rest inductionHypothesis =>
    rcases List.mem_cons.mp listed with rfl | later
    · exact ⟨entry, List.mem_cons_self, both.2⟩
    · obtain ⟨found, among, reordered⟩ := inductionHypothesis later
      exact ⟨found, List.mem_cons_of_mem _ among, reordered⟩

/-- With the tags of each class in another order a table of tables is one still, and the same. -/
theorem IsTable.of_forall₂ (table : left.IsTable)
    (alike : List.Forall₂ (fun entry other => entry.1 = other.1 ∧ entry.2.Perm other.2)
      left right) : right.IsTable ∧ left.Same right := by
  have sameNames : Keyed.keys left = Keyed.keys right := by
    rw [Keyed.keys, Keyed.keys, ← List.forall₂_eq_eq_eq, List.forall₂_map_left_iff,
      List.forall₂_map_right_iff]
    exact alike.imp fun _ _ both => both.1
  have tags : ∀ other ∈ right, (Keyed.keys other.2).Nodup := by
    intro other listed
    obtain ⟨entry, among, reordered⟩ := exists_of_mem_of_forall₂ alike listed
    exact Keyed.nodup_keys_of_perm reordered (table.tags entry among)
  refine ⟨⟨sameNames ▸ table.names, tags⟩, Keyed.get?_rel_of_forall₂ ?_⟩
  have distinct := (List.forall₂_and_left _ _).mpr ⟨table.tags, alike⟩
  refine distinct.imp fun entry other both => ?_
  obtain ⟨distinct, same, reordered⟩ := both
  have distinctToo := Keyed.nodup_keys_of_perm reordered distinct
  exact ⟨same, (Keyed.perm_iff_get?_eq distinct distinctToo).mp reordered⟩

/-- So is a rearranged one. -/
theorem IsTable.of_rearranged (table : left.IsTable) (rearranged : left.Rearranged right) :
    right.IsTable ∧ left.Same right := by
  obtain ⟨middle, same, alike⟩ := rearranged
  have tableToo : middle.IsTable := by
    refine ⟨Keyed.nodup_keys_of_perm same table.names, fun entry listed => ?_⟩
    exact table.tags entry (same.mem_iff.mpr listed)
  obtain ⟨isTable, sameToo⟩ := tableToo.of_forall₂ alike
  refine ⟨isTable, fun name => ?_⟩
  rw [(Keyed.perm_iff_get?_eq table.names tableToo.names).mp same name]
  exact sameToo name

end

/-- Where no two classes share a dotted name, the last class of a name in conflict is the one of
that name, if it is in conflict. -/
theorem lastInConflict?_eq_some_iff {tagType name : Text} {classes : List ClassDescriptor}
    (distinct : (classes.map ClassDescriptor.dottedName).Nodup) (c : ClassDescriptor) :
    lastInConflict? tagType name classes = some c ↔
      c ∈ classes ∧ c.dottedName = name ∧ Conflicts.ofClass tagType c ≠ [] := by
  have chosen (last : ClassDescriptor) (found : lastInConflict? tagType name classes = some last) :
      last ∈ classes ∧ last.dottedName = name ∧ Conflicts.ofClass tagType last ≠ [] := by
    simpa using List.mem_filter.mp (List.mem_of_getLast? found)
  constructor
  · exact chosen c
  · rintro ⟨member, rfl, some⟩
    obtain ⟨last, found⟩ := exists_lastInConflict tagType classes c member some
    obtain ⟨memberToo, named, -⟩ := chosen last found
    rw [found, List.inj_on_of_nodup_map distinct memberToo member named]

/-- Classes of which no two share a dotted name yield the same map in any order, up to the order of
its entries. -/
theorem get?_ofClasses_of_perm (tagType : Text) {classes others : List ClassDescriptor}
    (distinct : (classes.map ClassDescriptor.dottedName).Nodup) (same : classes.Perm others)
    (name : Text) :
    Keyed.get? name (ofClasses tagType classes) = Keyed.get? name (ofClasses tagType others) := by
  have distinctToo : (others.map ClassDescriptor.dottedName).Nodup :=
    (same.map ClassDescriptor.dottedName).nodup_iff.mp distinct
  rw [get?_ofClasses, get?_ofClasses]
  congr 1
  apply Option.ext
  intro c
  rw [lastInConflict?_eq_some_iff distinct, lastInConflict?_eq_some_iff distinctToo, same.mem_iff]

/-- The order in which anything was found has no effect on what is written. Classes of which no two
share a dotted name yield the same map in whatever order they are examined, and the same lines and
the same data. A report yields the same lines and the same document with its classes, and the tags
of each, in any other order. -/
theorem order_immaterial :
    (∀ (tagType : Text) (classes others : List ClassDescriptor),
      (classes.map ClassDescriptor.dottedName).Nodup → classes.Perm others →
      (∀ name, Keyed.get? name (ofClasses tagType classes) =
        Keyed.get? name (ofClasses tagType others)) ∧
      (ofClasses tagType classes).lines? = (ofClasses tagType others).lines? ∧
      (ofClasses tagType classes).toData? = (ofClasses tagType others).toData?) ∧
    ∀ report other : Report, report.IsTable → report.Rearranged other →
      report.lines? = other.lines? ∧
      ∀ result : ScanResult, ScanResult.toData? { result with report := report } =
        ScanResult.toData? { result with report := other } := by
  constructor
  · intro tagType classes others distinct same
    have found := get?_ofClasses_of_perm tagType distinct same
    have table := (sound_ofClasses tagType classes).toIsTable
    have tableToo := (sound_ofClasses tagType others).toIsTable
    have shown : (ofClasses tagType classes).sorted = (ofClasses tagType others).sorted := by
      rw [table.sorted_eq_iff tableToo]
      intro name
      rw [found name]
      cases Keyed.get? name (ofClasses tagType others) <;> simp
    refine ⟨found, ?_, ?_⟩
    · rw [← lines?_sorted, shown, lines?_sorted]
    · rw [← toData?_sorted, shown, toData?_sorted]
  · intro report other table rearranged
    obtain ⟨tableToo, same⟩ := table.of_rearranged rearranged
    have shown : report.sorted = other.sorted := (table.sorted_eq_iff tableToo).mpr same
    refine ⟨by rw [← lines?_sorted, shown, lines?_sorted], fun result => ?_⟩
    have document (r : Report) :=
      toData?_result_sorted { result with report := r }
    rw [← document report, ← document other, shown]

/-- Two classes with a conflict each. -/
def orders : List ClassDescriptor :=
  [⟨"acme/Order", 33, twice 1⟩, ⟨"acme/Item", 33, twice 2⟩]

/-- A report whose classes and tags stand in descending order. -/
def descending : Report :=
  [("b", [(2, ⟨"b", "y", 2⟩), (-1, ⟨"b", "x", -1⟩)]), ("a", [(7, ⟨"a", "z", 7⟩)])]

/-- The same report with its classes and tags in ascending order. -/
def ascending : Report :=
  [("a", [(7, ⟨"a", "z", 7⟩)]), ("b", [(-1, ⟨"b", "x", -1⟩), (2, ⟨"b", "y", 2⟩)])]

/-- The two classes are rendered alike in either order, and so is the report. -/
theorem descending_rendered :
    (ofClasses "LTag;" orders).lines? = (ofClasses "LTag;" orders.reverse).lines? ∧
      descending ≠ ascending ∧ descending.lines?.isSome ∧
      descending.lines? = ascending.lines? := by
  have distinct : (orders.map ClassDescriptor.dottedName).Nodup := by decide +kernel
  have reversed : orders.Perm orders.reverse := (List.reverse_perm orders).symm
  have table : descending.IsTable := by
    refine ⟨by decide +kernel, ?_⟩
    simp only [descending, List.forall_mem_cons, List.not_mem_nil, false_implies, implies_true]
    decide +kernel
  have rearranged : descending.Rearranged ascending := by
    refine ⟨descending.reverse, (List.reverse_perm descending).symm, ?_⟩
    refine .cons ⟨rfl, .refl _⟩ (.cons ⟨rfl, .swap _ _ _⟩ .nil)
  have short : (descending.hasShortTags && descending.recordsShortTags) = true := by
    decide +kernel
  obtain ⟨ofOrders, ofReports⟩ := order_immaterial
  exact ⟨(ofOrders "LTag;" orders orders.reverse distinct reversed).2.1, by decide +kernel,
    by simp [lines?, short], (ofReports descending ascending table rearranged).1⟩

end Report

end TagAudit
