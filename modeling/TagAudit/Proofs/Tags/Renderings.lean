import TagAudit.Proofs.Data.Keys
import TagAudit.Proofs.Tags.Enumeration
import TagAudit.Proofs.Text.Affixes
import TagAudit.Proofs.Text.Decimal

/-!
# What is told by lines and by data

A report is written in two ways, as lines and as data. Whoever goes through either of them from the
front, and looks at nothing else, comes upon the same entries in the same order: those of the report
in a row. So neither way of writing loses anything. Whatever names stand in two sound reports, they
are written alike exactly if they are the same.

The lines say what they are by how they begin. What a name holds cannot be mistaken for anything
else, because the class and the tag that stand around the name of a field are known from the lines
before. The data says the same by its keys, and no two keys are the same, because integers that are
written alike are the same.

There is one limit. An integer of more than 4300 digits is not written, and neither is a report with
a tag like that.
-/

namespace TagAudit

/-- The tag that a line is the heading of. -/
def tagOfLine? (line : Text) : Option Int :=
  (Text.between? "  Tag " " conflicting field:" line).bind (Text.signed? (Text.natural? 10))

/-- The field that a line under the headings of a class and a tag names. -/
def fieldOfLine? (className : Text) (tag : Int) (line : Text) : Option Text :=
  Text.between? ("    ▸ " ++ className ++ "#") (" (tag=" ++ Text.ofInt tag ++ ")") line

/-- The entries that lines tell of under the headings of a class and a tag, each line in turn. -/
def toldByLines (className : Text) (tag : Int) : List Text → List Conflict
  | [] => []
  | line :: rest =>
    match Text.after? "Class: " line, tagOfLine? line, fieldOfLine? className tag line with
    | some name, _, _ => toldByLines name tag rest
    | none, some headed, _ => toldByLines className headed rest
    | none, none, some field => ⟨className, field, tag⟩ :: toldByLines className tag rest
    | none, none, none => toldByLines className tag rest

/-- The entry that data under a class tells of under a key. -/
def toldByRecord? (className : Text) (held : Key × Data) : Option Conflict :=
  match held.1, held.2.field? "field_name" with
  | .text key, some (.text field) =>
    (Text.signed? (Text.natural? 10) key).map fun tag => ⟨className, field, tag⟩
  | _, _ => none

/-- The entries that data tells of under the key of a class. -/
def toldByClass (entry : Key × Data) : List Conflict :=
  match entry.1, entry.2.table? with
  | .text className, some records => records.filterMap (toldByRecord? className)
  | _, _ => []

/-- The entries that data tells of, each key in turn. -/
def toldByData (violations : Data) : List Conflict :=
  (violations.table?.getD []).flatMap toldByClass

section Lines

variable (className : Text) (tag : Int) (rest : List Text)

/-- A line that begins a class is its heading. -/
theorem toldByLines_class (name : Text) :
    toldByLines className tag (("Class: " ++ name) :: rest) = toldByLines name tag rest := by
  have heading : Text.after? "Class: " ("Class: " ++ name) = some name :=
    Text.after?_eq_some_iff.mpr rfl
  rw [toldByLines]
  simp only [heading]

/-- A line that begins a tag is its heading. -/
theorem toldByLines_tag (headed : Int) :
    toldByLines className tag (("  Tag " ++ Text.ofInt headed ++ " conflicting field:") :: rest) =
      toldByLines className headed rest := by
  have noClass : Text.after? "Class: " ("  Tag " ++ Text.ofInt headed ++ " conflicting field:") =
      none := rfl
  have heading : tagOfLine? ("  Tag " ++ Text.ofInt headed ++ " conflicting field:") =
      some headed := by
    have between : Text.between? "  Tag " " conflicting field:"
        ("  Tag " ++ Text.ofInt headed ++ " conflicting field:") = some (Text.ofInt headed) := by
      rw [Text.between?_eq_some_iff, List.append_assoc]
    rw [tagOfLine?, between, Option.bind_some, Text.signed?_ofInt]
  rw [toldByLines]
  simp only [noClass, heading]

/-- A conflict under the headings of its class and its tag is told of. -/
theorem toldByLines_conflict (conflict : Conflict) :
    toldByLines conflict.className conflict.tag (("    ▸ " ++ conflict.line) :: rest) =
      conflict :: toldByLines conflict.className conflict.tag rest := by
  have noClass : Text.after? "Class: " ("    ▸ " ++ conflict.line) = none := rfl
  have noTag : tagOfLine? ("    ▸ " ++ conflict.line) = none := rfl
  have named : fieldOfLine? conflict.className conflict.tag ("    ▸ " ++ conflict.line) =
      some conflict.fieldName := by
    rw [fieldOfLine?, Text.between?_eq_some_iff, Conflict.line]
    simp only [List.append_assoc]
  rw [toldByLines]
  simp only [noClass, noTag, named]

/-- A line that is neither a heading nor about a conflict tells of nothing. -/
theorem toldByLines_other {line : Text} (noClass : Text.after? "Class: " line = none)
    (noTag : tagOfLine? line = none) (noField : fieldOfLine? className tag line = none) :
    toldByLines className tag (line :: rest) = toldByLines className tag rest := by
  rw [toldByLines]
  simp only [noClass, noTag, noField]

/-- Such is the first line. -/
theorem toldByLines_header :
    toldByLines className tag (Report.header :: rest) = toldByLines className tag rest :=
  toldByLines_other className tag rest rfl rfl rfl

/-- Such is the line after each class, too. -/
theorem toldByLines_separator :
    toldByLines className tag (Report.separator :: rest) = toldByLines className tag rest :=
  toldByLines_other className tag rest rfl rfl rfl

end Lines

namespace Report

variable {report : Report}

/-- The entries of a report in a row, class by class. -/
theorem enumerated_eq (report : Report) : report.enumerated =
    report.sortedClasses.flatMap fun entry =>
      (sortedTags entry.2).map fun held => ⟨entry.1, held.2.fieldName, held.1⟩ := by
  rw [enumerated, sorted, Keyed.mapValues, List.flatMap_map]

/-- The lines about the tags of a class tell of its conflicts, and the lines behind them of what they
tell of under the heading of the class. -/
theorem toldByLines_tags (className : Text) (conflicts : Conflicts)
    (named : ∀ held ∈ conflicts, held.2.className = className ∧ held.2.tag = held.1)
    (rest : List Text) (later : List Conflict)
    (behind : ∀ tag, toldByLines className tag rest = later) (tag : Int) :
    toldByLines className tag ((conflicts.flatMap fun (tag, conflict) =>
      ["  Tag " ++ Text.ofInt tag ++ " conflicting field:", "    ▸ " ++ conflict.line]) ++ rest) =
      (conflicts.map fun held => ⟨className, held.2.fieldName, held.1⟩) ++ later := by
  induction conflicts generalizing tag with
  | nil => exact behind tag
  | cons held others inductionHypothesis =>
    obtain ⟨headed, conflict⟩ := held
    obtain ⟨⟨sameClass, sameTag⟩, others⟩ := List.forall_mem_cons.mp named
    dsimp only at sameClass sameTag
    subst sameClass sameTag
    simp only [List.flatMap_cons, List.cons_append, List.nil_append, List.map_cons,
      toldByLines_tag, toldByLines_conflict, inductionHypothesis others]

/-- The lines about classes tell of their conflicts, class by class and tag by tag. -/
theorem toldByLines_classes (entries : List (Text × Conflicts))
    (named : ∀ entry ∈ entries, ∀ held ∈ entry.2,
      held.2.className = entry.1 ∧ held.2.tag = held.1) (className : Text) (tag : Int) :
    toldByLines className tag (entries.flatMap fun (className, conflicts) =>
      classLines className conflicts) = entries.flatMap fun entry =>
        (sortedTags entry.2).map fun held => ⟨entry.1, held.2.fieldName, held.1⟩ := by
  induction entries generalizing className tag with
  | nil => rfl
  | cons entry others inductionHypothesis =>
    obtain ⟨own, rest⟩ := List.forall_mem_cons.mp named
    have ownInOrder : ∀ held ∈ sortedTags entry.2,
        held.2.className = entry.1 ∧ held.2.tag = held.1 := by simpa using own
    have behind (tag : Int) : toldByLines entry.1 tag (separator ::
        others.flatMap fun (className, conflicts) => classLines className conflicts) =
          others.flatMap fun entry =>
            (sortedTags entry.2).map fun held => ⟨entry.1, held.2.fieldName, held.1⟩ := by
      rw [toldByLines_separator, inductionHypothesis rest]
    simp only [List.flatMap_cons, classLines, List.cons_append, List.append_assoc,
      List.nil_append, toldByLines_class]
    exact toldByLines_tags entry.1 _ ownInOrder _ _ behind tag

/-- The lines of a sound report tell of its entries in a row. -/
theorem Sound.toldByLines_lines (sound : report.Sound) :
    toldByLines [] 0 report.lines = report.enumerated := by
  have named : ∀ entry ∈ report.sortedClasses, ∀ held ∈ entry.2,
      held.2.className = entry.1 ∧ held.2.tag = held.1 := by simpa using sound.named
  rw [enumerated_eq, lines]
  split
  · rename_i empty
    simp [List.isEmpty_iff.mp empty, sortedClasses, toldByLines]
  · rw [toldByLines_header, toldByLines_classes _ named]

/-- The conflicts of a class as data, tags in ascending order. -/
def tagsData (conflicts : Conflicts) : Data :=
  .ofFields ((sortedTags conflicts).map fun held => (Text.ofInt held.1, held.2.toData))

/-- A report as data has the conflicts of each class under its name. -/
theorem toData_eq (report : Report) :
    report.toData = .ofFields (Keyed.mapValues tagsData report.sortedClasses) := rfl

/-- The data of a class tells of its conflicts, tag by tag. -/
theorem toldByClass_tagsData (className : Text) (conflicts : Conflicts) :
    toldByClass (.text className, tagsData conflicts) =
      (sortedTags conflicts).map fun held => ⟨className, held.2.fieldName, held.1⟩ := by
  have told (held : Int × Conflict) :
      toldByRecord? className (.text (Text.ofInt held.1), held.2.toData) =
        some ⟨className, held.2.fieldName, held.1⟩ := by
    have field : held.2.toData.field? "field_name" = some (.text held.2.fieldName) := rfl
    simp only [toldByRecord?, field, Text.signed?_ofInt, Option.map_some]
  simp only [toldByClass, tagsData, Data.ofFields, Data.table?, List.map_map, List.filterMap_map]
  rw [← List.filterMap_eq_map]
  congr 1
  funext held
  exact told held

/-- The data of a report tells of its entries in a row. -/
theorem toldByData_toData (report : Report) : toldByData report.toData = report.enumerated := by
  simp only [enumerated_eq, toData_eq, toldByData, Data.ofFields, Data.table?, Option.getD_some,
    Keyed.mapValues, List.map_map, List.flatMap_map, Function.comp_def, toldByClass_tagsData]

end Report

namespace Data

/-- What stands in violations as data under the name of a class and the key of a tag. -/
def under? (violations : Data) (name key : Text) : Option Data :=
  (violations.field? name).bind (Data.field? key)

/-- No two keys of violations as data are the same, neither those of classes nor those of tags under
one of them. -/
def KeysDistinct (violations : Data) : Prop :=
  ∃ classes, violations.table? = some classes ∧ Keyed.IsDistinct classes ∧
    ∀ entry ∈ classes, ∃ tags, entry.2.table? = some tags ∧ Keyed.IsDistinct tags

end Data

/-- A conflict is known from its data. -/
theorem Conflict.toData_injective (first second : Conflict)
    (same : first.toData = second.toData) : first = second := by
  cases first
  cases second
  simpa [Conflict.toData, Data.ofFields] using same

namespace Report

/-- Every tag of a report has few enough digits to be written. -/
def TagsFit (report : Report) : Prop :=
  ∀ entry ∈ report, ∀ held ∈ entry.2, held.1.natAbs < Nat.pow 10 Text.digitLimit

section
variable {report : Report}

/-- No two tags of a table of tables become the same key, and neither do two classes. -/
theorem IsTable.keysDistinct (table : report.IsTable) : report.toData.KeysDistinct := by
  refine ⟨_, rfl, isDistinct_map_text ?_, ?_⟩
  · have distinct : (Keyed.keys report.sortedClasses).Nodup :=
      Keyed.nodup_keys_of_perm (List.mergeSort_perm report _).symm table.names
    simpa [Keyed.keys, Function.comp_def] using distinct
  · simp only [List.forall_mem_map, mem_sortedClasses]
    intro entry listed
    refine ⟨_, rfl, isDistinct_map_text ?_⟩
    have distinct : (Keyed.keys (sortedTags entry.2)).Nodup :=
      Keyed.nodup_keys_of_perm (List.mergeSort_perm entry.2 _).symm (table.tags entry listed)
    have written := distinct.map Text.ofInt_injective
    simpa [Keyed.keys, Function.comp_def] using written

/-- Under the keys of a class and a tag stands the record of the two. -/
theorem IsTable.under?_toData (table : report.IsTable) (name : Text) (tag : Int) :
    report.toData.under? name (Text.ofInt tag) =
      (report.record? name tag).map Conflict.toData := by
  have alike (a b : Int) : (Text.ofInt a == Text.ofInt b) = (a == b) := by
    rw [Bool.eq_iff_iff, beq_iff_eq, beq_iff_eq]
    exact ⟨Text.ofInt_injective a b, congrArg Text.ofInt⟩
  have ofTags (conflicts : Conflicts) (distinct : (Keyed.keys conflicts).Nodup) :
      (tagsData conflicts).field? (Text.ofInt tag) =
        (Keyed.get? tag conflicts).map Conflict.toData := by
    rw [tagsData, Data.field?_ofFields, ← get?_sortedTags distinct]
    exact Keyed.get?_map Text.ofInt Conflict.toData alike tag (sortedTags conflicts)
  rw [Data.under?, toData_eq, Data.field?_ofFields, Keyed.get?_mapValues,
    get?_sortedClasses table.names, record?]
  cases found : Keyed.get? name report with
  | none => rfl
  | some conflicts => exact ofTags conflicts (table.nodup_of_get? found)

/-- The tags of a report can be displayed if they have few enough digits. -/
theorem hasShortTags_iff : report.hasShortTags = true ↔ report.TagsFit := by
  simp only [hasShortTags, TagsFit, Data.isShort, List.all_eq_true, decide_eq_true_eq]

/-- So can those in the records of a sound report, which are the same. -/
theorem Sound.recordsShortTags_iff (sound : report.Sound) :
    report.recordsShortTags = true ↔ report.TagsFit := by
  rw [← hasShortTags_iff]
  simp only [recordsShortTags, hasShortTags, List.all_eq_true]
  refine forall₂_congr fun entry listed => forall₂_congr fun held among => ?_
  rw [(sound.named entry listed held among).2]

/-- A sound report whose tags fit has its lines. -/
theorem Sound.lines?_eq_some_iff (sound : report.Sound) (lines : List Text) :
    report.lines? = some lines ↔ report.TagsFit ∧ report.lines = lines := by
  rw [lines?, Option.ite_none_right_eq_some, Bool.and_eq_true, hasShortTags_iff,
    sound.recordsShortTags_iff, and_self, Option.some.injEq]

/-- A report whose tags fit can be had as data. -/
theorem toData?_eq_some_iff (violations : Data) :
    report.toData? = some violations ↔ report.TagsFit ∧ report.toData = violations := by
  rw [toData?, Option.ite_none_right_eq_some, hasShortTags_iff, Option.some.injEq]

/-- The violations in the document of a result are its report as data. -/
theorem violations_of_result (result : ScanResult) :
    result.toData?.bind (Data.field? "violations") = result.report.toData? := by
  rw [ScanResult.toData?, toData?]
  split <;> rfl

end

section
variable {left right : Report} (sound : left.Sound) (soundToo : right.Sound)
  (fit : left.TagsFit) (fitToo : right.TagsFit)
include sound soundToo

/-- Sound reports that are the same are the same in ascending order. -/
theorem Sound.sorted_eq_iff : left.sorted = right.sorted ↔ left.Same right :=
  sound.toIsTable.sorted_eq_iff soundToo.toIsTable

/-- Sound reports find the same under all keys of their data exactly if they are the same. -/
theorem Sound.under?_eq_iff :
    (∀ name key, left.toData.under? name key = right.toData.under? name key) ↔
      left.Same right := by
  constructor
  · intro alike
    rw [sound.same_iff_record? soundToo]
    intro name tag
    have found := alike name (Text.ofInt tag)
    rw [sound.toIsTable.under?_toData, soundToo.toIsTable.under?_toData] at found
    exact Option.map_injective Conflict.toData_injective found
  · intro same name key
    rw [← toData_sorted left, (sound.sorted_eq_iff soundToo).mpr same, toData_sorted]

include fit fitToo

/-- Sound reports whose tags fit have the same lines exactly if they are the same. -/
theorem Sound.lines?_eq_iff : left.lines? = right.lines? ↔ left.Same right := by
  constructor
  · intro alike
    have own := (sound.lines?_eq_some_iff left.lines).mpr ⟨fit, rfl⟩
    have others := (soundToo.lines?_eq_some_iff right.lines).mpr ⟨fitToo, rfl⟩
    have lines : left.lines = right.lines := Option.some.inj (own.symm.trans (alike.trans others))
    rw [sound.same_iff_enumerated soundToo, ← sound.toldByLines_lines, lines,
      soundToo.toldByLines_lines]
  · intro same
    rw [← lines?_sorted, (sound.sorted_eq_iff soundToo).mpr same, lines?_sorted]

/-- They have the same data exactly if they are the same. -/
theorem Sound.toData?_eq_iff : left.toData? = right.toData? ↔ left.Same right := by
  constructor
  · intro alike
    have own := (toData?_eq_some_iff left.toData).mpr ⟨fit, rfl⟩
    have others := (toData?_eq_some_iff right.toData).mpr ⟨fitToo, rfl⟩
    have data : left.toData = right.toData := Option.some.inj (own.symm.trans (alike.trans others))
    rw [sound.same_iff_enumerated soundToo, ← toldByData_toData, data, toldByData_toData]
  · intro same
    rw [← toData?_sorted, (sound.sorted_eq_iff soundToo).mpr same, toData?_sorted]

end

/-- Lines and data are faithful to a report and agree with each other. Both are written exactly if
the tags of the report fit, and the data is what the document of a result has for its violations.
Two sound reports whose tags fit are written alike, as lines or as data, exactly if they are the
same, and so it is if data is compared key by key. Whoever goes through the lines or through the data
comes upon the same entries in the same order: those that stand in the report under their class and
their tag, each once, as many as the report counts, by the names of the classes and then by the
values of the tags. No two keys in the data are the same. -/
theorem renderings_tell_alike :
    (∀ result : ScanResult,
      result.toData?.bind (Data.field? "violations") = result.report.toData?) ∧
    (∀ left right : Report, left.Sound → right.Sound → left.TagsFit → right.TagsFit →
      (left.lines? = right.lines? ↔ left.Same right) ∧
      (left.toData? = right.toData? ↔ left.Same right) ∧
      ∀ own others, left.toData? = some own → right.toData? = some others →
        ((∀ name key, own.under? name key = others.under? name key) ↔ left.Same right)) ∧
    ∀ report : Report, report.Sound →
      (report.lines?.isSome ↔ report.TagsFit) ∧ (report.toData?.isSome ↔ report.TagsFit) ∧
      ∀ lines violations, report.lines? = some lines → report.toData? = some violations →
        toldByLines [] 0 lines = toldByData violations ∧
        (toldByData violations).Nodup ∧ (toldByData violations).Pairwise Conflict.Before ∧
        (∀ conflict, conflict ∈ toldByData violations ↔
          report.record? conflict.className conflict.tag = some conflict) ∧
        (toldByData violations).length = report.total ∧ violations.KeysDistinct := by
  refine ⟨violations_of_result, ?_, ?_⟩
  · intro left right sound soundToo fit fitToo
    refine ⟨sound.lines?_eq_iff soundToo fit fitToo, sound.toData?_eq_iff soundToo fit fitToo, ?_⟩
    intro own others shown shownToo
    obtain ⟨-, rfl⟩ := (toData?_eq_some_iff own).mp shown
    obtain ⟨-, rfl⟩ := (toData?_eq_some_iff others).mp shownToo
    exact sound.under?_eq_iff soundToo
  · intro report sound
    have table := sound.toIsTable
    refine ⟨?_, ?_, ?_⟩
    · simp [Option.isSome_iff_exists, sound.lines?_eq_some_iff]
    · simp [Option.isSome_iff_exists, toData?_eq_some_iff]
    · intro lines violations shown shownToo
      obtain ⟨-, rfl⟩ := (sound.lines?_eq_some_iff lines).mp shown
      obtain ⟨-, rfl⟩ := (toData?_eq_some_iff violations).mp shownToo
      rw [sound.toldByLines_lines, toldByData_toData]
      exact ⟨rfl, table.nodup_enumerated, table.pairwise_enumerated, sound.mem_enumerated_iff,
        length_enumerated report, table.keysDistinct⟩

/-- The report of a single conflict. -/
def alone (conflict : Conflict) : Report := [(conflict.className, [(conflict.tag, conflict)])]

/-- The report of a single conflict is sound. -/
theorem sound_alone (conflict : Conflict) : (alone conflict).Sound where
  names := List.nodup_singleton _
  tags := by simp [alone, Keyed.keys]
  filled := by simp [alone]
  named := by simp [alone]

/-- A conflict in a class whose name is a beginning of another one. -/
def inShortName : Conflict := ⟨"A", "f (tag=1)#g", -2⟩

/-- A conflict of the same tag in that other class. -/
def inLongName : Conflict := ⟨"A#f (tag=1)", "g", -2⟩

/-- The two conflicts are the same on a line of their own, and yet their reports are told apart. -/
theorem lookalikes_told_apart :
    inShortName.line = inLongName.line ∧ (alone inShortName).lines?.isSome ∧
      (alone inShortName).lines? ≠ (alone inLongName).lines? ∧
      (alone inShortName).toData? ≠ (alone inLongName).toData? := by
  have fit : (alone inShortName).TagsFit := hasShortTags_iff.mp (by decide +kernel)
  have fitToo : (alone inLongName).TagsFit := hasShortTags_iff.mp (by decide +kernel)
  have different : ¬ (alone inShortName).Same (alone inLongName) := by
    rw [(sound_alone _).same_iff_record? (sound_alone _)]
    intro same
    exact absurd (same "A" (-2)) (by decide +kernel)
  obtain ⟨-, alike, told⟩ := renderings_tell_alike
  obtain ⟨lines, data, -⟩ := alike (alone inShortName) (alone inLongName) (sound_alone _)
    (sound_alone _) fit fitToo
  refine ⟨by decide +kernel, (told _ (sound_alone _)).1.mpr fit, ?_, ?_⟩
  · exact fun same => different (lines.mp same)
  · exact fun same => different (data.mp same)

/-- The conflict of a field with the least tag that has too many digits, or a greater one. -/
def overlong (more : Nat) : Conflict :=
  ⟨"A", "f", ((Nat.pow 10 Text.digitLimit + more : Nat) : Int)⟩

/-- Two different reports with such tags are both not written, and nothing tells of the conflict in
either of them. -/
theorem overlong_untold :
    (alone (overlong 0)).Sound ∧ (alone (overlong 1)).Sound ∧
      ¬ (alone (overlong 0)).Same (alone (overlong 1)) ∧
      (alone (overlong 0)).lines? = (alone (overlong 1)).lines? ∧
      (alone (overlong 0)).toData? = (alone (overlong 1)).toData? ∧
      (alone (overlong 0)).lines? = none ∧ (alone (overlong 0)).toData? = none ∧
      (alone (overlong 0)).total = 1 := by
  have long : (alone (overlong 0)).hasShortTags = false := by decide +kernel
  have longToo : (alone (overlong 1)).hasShortTags = false := by decide +kernel
  refine ⟨sound_alone _, sound_alone _, ?_, ?_, ?_, ?_, ?_, rfl⟩
  · rw [(sound_alone _).same_iff_record? (sound_alone _)]
    intro same
    exact absurd (same "A" (overlong 0).tag) (by decide +kernel)
  · simp [lines?, long, longToo]
  · simp [toData?, long, longToo]
  · simp [lines?, long]
  · simp [toData?, long]

end Report

end TagAudit
