import TagAudit.Proofs.Tags.Recorded
import TagAudit.Tags.ScanResult

/-!
# Sound reports

A report is a table of tables of records. It is sound when both levels have distinct keys, no class
stands in it without a tag, and every record repeats the keys under which it stands. A report on
classes is sound, and there is a class behind each of its records: one of that name in which two
instance fields have the tag and the last of them is the one recorded.

What soundness means for a reader of a scan result is that nothing has to be compared. The verdict,
the number of conflicts and the status say the same, and the keys in the document are those that the
records under them name.
-/

namespace TagAudit

open ClassFile

/-- The conflicts of a class tell of its fields. -/
theorem Conflicts.tells_ofClass (tagType : Text) (c : ClassDescriptor) :
    Tells tagType c.dottedName c.fields (ofClass tagType c) := by
  rw [ofClass_eq_ofFields]
  exact tells_ofFields tagType c.dottedName c.fields

namespace Report

/-- The names in a report are distinct, and so are the tags under each of them. -/
structure IsTable (report : Report) : Prop where
  names : (Keyed.keys report).Nodup
  tags : ∀ entry ∈ report, (Keyed.keys entry.2).Nodup

/-- A report is sound: no class stands in it without a tag, and every record repeats the name and
the tag under which it stands. -/
structure Sound (report : Report) : Prop extends IsTable report where
  filled : ∀ entry ∈ report, entry.2 ≠ []
  named : ∀ entry ∈ report, ∀ held ∈ entry.2,
    held.2.className = entry.1 ∧ held.2.tag = held.1

/-- What justifies a record under a name and a tag: a class of that name has two instance fields
with the tag, and the record tells of the last field that has it. -/
def Justifies (tagType : Text) (classes : List ClassDescriptor) (name : Text) (tag : Int)
    (conflict : Conflict) : Prop :=
  ∃ c ∈ classes, c.dottedName = name ∧ ∃ (first last : Nat) (f : Field), first < last ∧
    HoldsTag tagType c.fields first tag ∧ IsLastHolder tagType c.fields last tag ∧
    c.fields[last]? = some f ∧ conflict = ⟨name, f.name, tag⟩

section
variable {tagType : Text} {classes : List ClassDescriptor}

/-- What stands under a name in a report are the conflicts of a class of that name. -/
theorem exists_class_of_mem {entry : Text × Conflicts}
    (listed : entry ∈ ofClasses tagType classes) :
    ∃ c ∈ classes, c.dottedName = entry.1 ∧ entry.2 = Conflicts.ofClass tagType c := by
  have distinct := nodup_keys_ofClasses tagType classes
  have held := (Keyed.get?_eq_some_iff entry.1 entry.2 _ distinct).mpr listed
  exact exists_of_get?_ofClasses tagType entry.1 classes entry.2 held

/-- Every record of a report on classes is justified. -/
theorem justifies_of_mem {entry : Text × Conflicts} {held : Int × Conflict}
    (listed : entry ∈ ofClasses tagType classes) (among : held ∈ entry.2) :
    Justifies tagType classes entry.1 held.1 held.2 := by
  obtain ⟨c, member, named, conflicts⟩ := exists_class_of_mem listed
  have told := Conflicts.tells_ofClass tagType c
  have distinct := Conflicts.nodup_keys_ofClass tagType c
  rw [conflicts] at among
  have recorded : held.1 ∈ Keyed.keys (Conflicts.ofClass tagType c) :=
    List.mem_map_of_mem among
  obtain ⟨i, j, ordered, holds, holdsToo⟩ := (told.recorded held.1).mp recorded
  have found := (Keyed.get?_eq_some_iff held.1 held.2 _ distinct).mpr among
  obtain ⟨last, f, there, lastHolder, same⟩ := told.last held.1 held.2 found
  have later : i < last := Nat.lt_of_lt_of_le ordered (lastHolder.2 j holdsToo)
  exact ⟨c, member, named, i, last, f, later, holds, lastHolder, there, by rw [same, named]⟩

/-- A report on classes is sound. -/
theorem sound_ofClasses (tagType : Text) (classes : List ClassDescriptor) :
    (ofClasses tagType classes).Sound where
  names := nodup_keys_ofClasses tagType classes
  tags := by
    intro entry listed
    obtain ⟨c, -, -, conflicts⟩ := exists_class_of_mem listed
    rw [conflicts]
    exact Conflicts.nodup_keys_ofClass tagType c
  filled := conflicts_ne_nil tagType classes
  named := by
    intro entry listed held among
    obtain ⟨c, -, -, first, last, f, -, -, -, -, same⟩ := justifies_of_mem listed among
    simp [same]

end

section
variable {report : Report}

/-- The same classes are sorted. -/
@[simp] theorem mem_sortedClasses (entry : Text × Conflicts) :
    entry ∈ report.sortedClasses ↔ entry ∈ report := List.mem_mergeSort

/-- The same tags are sorted. -/
@[simp] theorem mem_sortedTags {conflicts : Conflicts} (held : Int × Conflict) :
    held ∈ sortedTags conflicts ↔ held ∈ conflicts := List.mem_mergeSort

end

end Report

/-- In violations as data the keys repeat what the records under them say. -/
def Data.KeysAgree (violations : Data) : Prop :=
  ∃ classes, violations.table? = some classes ∧ ∀ entry ∈ classes,
    ∃ (name : Text) (tags : Keyed Key Data), entry.1 = .text name ∧
      entry.2.table? = some tags ∧ ∀ held ∈ tags,
        ∃ tag : Int, held.1 = .text (Text.ofInt tag) ∧
          held.2.field? "class_name" = some (.text name) ∧
          held.2.field? "tag_value" = some (.int tag)

/-- The violations of a sound report have keys that agree with the records. -/
theorem Report.Sound.keysAgree {report : Report} (sound : report.Sound) :
    report.toData.KeysAgree := by
  refine ⟨_, rfl, ?_⟩
  simp only [List.forall_mem_map, mem_sortedClasses]
  intro entry listed
  refine ⟨entry.1, _, rfl, rfl, ?_⟩
  simp only [List.forall_mem_map, mem_sortedTags]
  intro held among
  obtain ⟨className, tag⟩ := sound.named entry listed held among
  refine ⟨held.1, rfl, ?_, ?_⟩
  · rw [← className]
    rfl
  · rw [← tag]
    rfl

namespace ScanResult

/-- What a document says of a result agrees with the result and with itself: the status is that of
the number of conflicts, and the keys of the violations are what the records say. -/
structure SaidBy (result : ScanResult) (data : Data) : Prop where
  status : data.field? "status" =
    some (.text (if 0 < result.report.total then "dirty" else "clean"))
  counted : data.field? "total_conflicts" = some (.int result.report.total)
  keys : ∃ violations, data.field? "violations" = some violations ∧ violations.KeysAgree

variable {result : ScanResult} (sound : result.report.Sound)
include sound

/-- A result with a sound report has violations exactly if it counts conflicts. -/
theorem hasViolations_iff_total : result.hasViolations = true ↔ 0 < result.report.total := by
  rw [Report.total_pos_iff_of_filled sound.filled]
  simp [hasViolations]

/-- The document of a result with a sound report agrees with the result. -/
theorem saidBy_of_toData? {data : Data} (shown : result.toData? = some data) :
    result.SaidBy data := by
  obtain ⟨-, same⟩ := Option.ite_none_right_eq_some.mp shown
  obtain rfl := Option.some.inj same
  have status : result.toData.field? "status" =
      some (.text (if result.hasViolations then "dirty" else "clean")) := rfl
  refine ⟨?_, rfl, result.report.toData, rfl, sound.keysAgree⟩
  rw [status]
  simp only [hasViolations_iff_total sound]

end ScanResult

end TagAudit
