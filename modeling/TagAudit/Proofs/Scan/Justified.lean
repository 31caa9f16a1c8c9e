import TagAudit.Proofs.ClassFile.ClassFormat
import TagAudit.Proofs.Scan.Verdict
import TagAudit.Proofs.Tags.Soundness

/-!
# What a scan reports

The classes of a scan are read from files, where an integer has at most eight bytes. So no tag of
theirs is too long to be displayed, and the result of a scan can always be had as data. That data is
consistent with the verdict and in itself, because the report in it is sound.
-/

namespace TagAudit

open ClassFile

namespace ClassFile

/-- An integer that an element value stands for has eight bytes at most. -/
theorem ElementInfo.natAbs_le {pool : Pool} {e : ElementInfo} {n : Int}
    (means : e.value pool = .int n) : n.natAbs ≤ 0x8000000000000000 := by
  cases e with
  | enum type name => simp [value] at means
  | classLiteral type => simp [value] at means
  | nested type pairs => simp [value] at means
  | array items => simp [value] at means
  | constant form index =>
    have given : form.value? pool index = some (.int n) := by
      rw [value] at means
      cases held : form.value? pool index with
      | none => simp [held] at means
      | some v => simpa [held] using means
    have word32 (w : Int32) : w.toInt.natAbs ≤ 0x8000000000000000 := by
      have low := w.le_toInt
      have high := w.toInt_lt
      omega
    have word64 (w : Int64) : w.toInt.natAbs ≤ 0x8000000000000000 := by
      have low := w.le_toInt
      have high := w.toInt_lt
      omega
    cases form <;> simp only [ConstantForm.value?, Option.map_eq_some_iff] at given
    case byte | int | short =>
      obtain ⟨w, -, same⟩ := given
      cases same
      exact word32 w
    case long =>
      obtain ⟨w, -, same⟩ := given
      cases same
      exact word64 w
    all_goals
      obtain ⟨v, -, same⟩ := given
      cases same

/-- What an attribute carries are annotations as they are written. -/
theorem AttributeInfo.exists_of_mem_annotations {pool : Pool} {x : AttributeInfo} {a : Annotation}
    (carried : a ∈ x.annotations pool) : ∃ info : AnnotationInfo, a = info.described pool := by
  rw [AttributeInfo.annotations] at carried
  split at carried
  · cases carried
  · obtain ⟨info, -, rfl⟩ := List.mem_map.mp carried
    exact ⟨info, rfl⟩

/-- An annotation gives the value of one of its pairs. -/
theorem Annotation.Gives.exists_pair {a : Annotation} {value : ElementValue}
    (given : a.Gives value) : ∃ pair ∈ a.pairs, pair.2 = value := by
  cases given with
  | named pair first =>
    obtain ⟨-, before, after, split, -⟩ := first
    exact ⟨pair, by simp [split], rfl⟩
  | only pair single unnamed => exact ⟨pair, by simp [single], rfl⟩

/-- A field that was read from a file has a tag of eight bytes at most. -/
theorem natAbs_le_of_parse {data : List UInt8} {c : ClassDescriptor} (parsed : parse data = .ok c)
    {f : Field} (member : f ∈ c.fields) {tagType : Text} {tag : Int}
    (tagged : f.HasTag tagType tag) : tag.natAbs ≤ 0x8000000000000000 := by
  obtain ⟨m, -, -, rfl⟩ := (parse_eq_ok_iff data c).mp parsed
  obtain ⟨written, -, rfl⟩ := List.mem_map.mp member
  obtain ⟨a, ⟨-, before, after, split, -⟩, given⟩ := tagged
  have listed : a ∈ (written.described m.pool).annotations := by simp [split]
  obtain ⟨x, -, carried⟩ := List.mem_flatMap.mp listed
  obtain ⟨info, rfl⟩ := AttributeInfo.exists_of_mem_annotations carried
  obtain ⟨pair, inside, value⟩ := given.exists_pair
  obtain ⟨indexed, -, rfl⟩ := List.mem_map.mp inside
  exact ElementInfo.natAbs_le value

end ClassFile

namespace Scan

open Report

/-- An integer of eight bytes is short enough to be displayed. -/
theorem isShort_of_natAbs_le {n : Int} (small : n.natAbs ≤ 0x8000000000000000) :
    Data.isShort n = true := by
  have wide : 0x8000000000000000 < Nat.pow 10 Text.digitLimit := by decide +kernel
  simp only [Data.isShort, decide_eq_true_eq]
  omega

section
variable {settings : ScanSettings} {context : Context} {tree : Node} {workingPlace : Place}
  {root : Path} {result : ScanResult}

/-- The report of a scan is one on classes that were read from files. -/
theorem exists_classes_of_run (finishes : context.FinishesAll)
    (completed : (run settings context tree workingPlace root).1 = .ok result) :
    ∃ classes, result.report = Report.ofClasses settings.tagType classes ∧
      ∀ c ∈ classes, ∃ data, parse data = .ok c := by
  obtain ⟨paths, -, report⟩ :=
    report_of_run settings context tree workingPlace root result finishes completed
  refine ⟨_, report, fun c member => ?_⟩
  obtain ⟨path, -, described⟩ := List.mem_filterMap.mp member
  rw [Node.readClass] at described
  cases found : tree.read workingPlace path with
  | error problem => simp [found, Except.toOption] at described
  | ok data =>
    cases parsed : parse data with
    | error defect => simp [found, parsed, Except.mapError, Except.toOption] at described
    | ok other =>
      simp only [found, parsed, Except.mapError, Except.toOption, Option.some.injEq] at described
      exact ⟨data, by rw [parsed, described]⟩

/-- The tags in the result of a scan are short enough to be displayed. -/
theorem hasShortTags_of_run (finishes : context.FinishesAll)
    (completed : (run settings context tree workingPlace root).1 = .ok result) :
    result.report.hasShortTags = true := by
  obtain ⟨classes, report, read⟩ := exists_classes_of_run finishes completed
  simp only [hasShortTags, List.all_eq_true]
  intro entry listed held among
  rw [report] at listed
  obtain ⟨c, member, -, first, last, f, -, -, lastHolder, there, -⟩ := justifies_of_mem listed among
  obtain ⟨data, parsed⟩ := read c member
  obtain ⟨g, thereToo, -, tagged⟩ := lastHolder.1
  exact isShort_of_natAbs_le (natAbs_le_of_parse parsed (List.mem_of_getElem? thereToo) tagged)

end

/-- Every entry of a report is justified, whatever the classes and however often their names are
repeated: a class in the report has tags, a record repeats the name and the tag under which it
stands, and some class of that name has two instance fields with the tag, the last of which is the
recorded one. So a result with such a report is dirty exactly if it counts conflicts, and its
document agrees with it. A scan that ends has such a result, and there is a document of it. -/
theorem entries_justified :
    (∀ (tagType : Text) (classes : List ClassDescriptor),
      (∀ entry ∈ Report.ofClasses tagType classes, entry.2 ≠ [] ∧
        ∀ held ∈ entry.2, held.2.className = entry.1 ∧ held.2.tag = held.1 ∧
          Justifies tagType classes entry.1 held.1 held.2) ∧
      ∀ result : ScanResult, result.report = Report.ofClasses tagType classes →
        (result.hasViolations = true ↔ 0 < result.report.total) ∧
        ∀ data, result.toData? = some data → result.SaidBy data) ∧
    ∀ (settings : ScanSettings) (context : Context) (tree : Node) (workingPlace : Place)
      (root : Path) (result : ScanResult), context.FinishesAll →
      (run settings context tree workingPlace root).1 = .ok result →
      (result.hasViolations = true ↔ 0 < result.report.total) ∧
        ∃ data, result.toData? = some data ∧ result.SaidBy data := by
  have sound {tagType : Text} {classes : List ClassDescriptor} {result : ScanResult}
      (report : result.report = Report.ofClasses tagType classes) : result.report.Sound := by
    rw [report]
    exact sound_ofClasses tagType classes
  constructor
  · intro tagType classes
    constructor
    · intro entry listed
      have own := sound_ofClasses tagType classes
      refine ⟨own.filled entry listed, fun held among => ?_⟩
      obtain ⟨className, tag⟩ := own.named entry listed held among
      exact ⟨className, tag, justifies_of_mem listed among⟩
    · intro result report
      exact ⟨ScanResult.hasViolations_iff_total (sound report),
        fun data shown => ScanResult.saidBy_of_toData? (sound report) shown⟩
  · intro settings context tree workingPlace root result finishes completed
    obtain ⟨classes, report, -⟩ := exists_classes_of_run finishes completed
    have shown : result.toData? = some result.toData :=
      if_pos (hasShortTags_of_run finishes completed)
    exact ⟨ScanResult.hasViolations_iff_total (sound report), result.toData, shown,
      ScanResult.saidBy_of_toData? (sound report) shown⟩

/-- The scan of a directory with a class in conflict counts that, and there is a document that says
so. -/
theorem sharingTree_justified :
    backwards.FinishesAll ∧ ∃ result data,
      (run lenientSettings backwards sharingTree [] ⟨1, ["out"]⟩).1 = .ok result ∧
        result.hasViolations = true ∧ 0 < result.report.total ∧
        result.toData? = some data ∧ data.field? "status" = some (.text "dirty") := by
  have finishes : backwards.FinishesAll := by
    intro count number inside
    simp [backwards, inside]
  obtain ⟨paths, searched⟩ : ∃ paths,
      (searchOf lenientSettings).run sharingTree [] ⟨1, ["out"]⟩ = .ok paths := ⟨_, rfl⟩
  obtain ⟨result, completed⟩ := run_of_skipInvalid lenientSettings backwards sharingTree []
    ⟨1, ["out"]⟩ paths finishes rfl searched
  obtain ⟨found, searchedToo, report⟩ := report_of_run lenientSettings backwards sharingTree []
    ⟨1, ["out"]⟩ result finishes completed
  obtain ⟨c, ⟨path, discovered, read⟩, shared⟩ := sharingTree_finds
  have listed : path ∈ found :=
    (Search.mem_run_iff _ sharingTree [] _ path found searchedToo).mpr discovered
  have dirty : result.hasViolations = true := by
    have some : result.report ≠ [] := by
      rw [report, Report.ofClasses_ne_nil_iff]
      exact ⟨c, List.mem_filterMap.mpr ⟨path, listed, by rw [read]; rfl⟩, shared⟩
    simpa [ScanResult.hasViolations] using some
  obtain ⟨verdict, data, shown, said⟩ := entries_justified.2 lenientSettings backwards sharingTree
    [] ⟨1, ["out"]⟩ result finishes completed
  have counted : 0 < result.report.total := verdict.mp dirty
  refine ⟨finishes, result, data, completed, dirty, counted, shown, ?_⟩
  rw [said.status, if_pos counted]

end Scan

end TagAudit
