import TagAudit.Scan
import TagAudit.Proofs.Discovery
import TagAudit.Proofs.Scan.Collected
import TagAudit.Proofs.Tags.Sharing

/-!
# The verdict of a scan

A scan that comes to a result is dirty exactly when some file under the root describes a class in
which two fields share a tag. Nothing else makes it dirty, and nothing can make it clean again:
not a file that could not be described, not a class of the same name, and not the order in which
readers finish.
-/

namespace TagAudit.Scan

open ClassFile Log

/-- Several readers finish every file at some time, in whatever order. -/
def Context.FinishesAll (context : Context) : Prop :=
  ∀ count number, number < count → number ∈ context.order count

/-- The search that settings ask for. -/
def searchOf (settings : ScanSettings) : Search := ⟨settings.extension, settings.excludeDirs⟩

/-- What reading files comes to, one outcome for each. -/
def outcomesOf (tree : Node) (workingPlace : Place) (paths : List Path) : List Outcome :=
  paths.map fun path => ⟨path.toText, tree.readClass workingPlace path⟩

/-- The logger of a scan, which says which scan it is and of what. -/
def loggerOf (context : Context) (root : Path) : Logger :=
  context.logger.bind [("scan_id", .text context.scanId), ("root", .text root.toText)]

/-- A scan of found files concludes what was collected from them, whoever has read them. -/
theorem runOn_outcome (settings : ScanSettings) (context : Context) (logger : Logger) (tree : Node)
    (workingPlace : Place) (root : Path) (paths : List Path) (finishes : context.FinishesAll) :
    (runOn settings context logger tree workingPlace root paths).1 =
      (judgeAll settings.skipInvalid logger (outcomesOf tree workingPlace paths)).1.map
        fun collected =>
          (conclude settings logger context.duration root collected.1 collected.2).1 := by
  have everyFile : ∀ number < (outcomesOf tree workingPlace paths).length,
      number ∈ context.order paths.length := by
    intro number inside
    rw [outcomesOf, List.length_map] at inside
    exact finishes paths.length number inside
  rw [← collect_eq_judgeAll settings.skipInvalid logger settings.maxWorkers _ _ everyFile, runOn,
    outcomesOf]
  dsimp only [Judged.unread]
  cases (collect settings.maxWorkers (context.order paths.length) settings.skipInvalid logger
    (paths.map fun path => ⟨path.toText, tree.readClass workingPlace path⟩)).1 <;> rfl

/-- A scan ends as its search does, or else concludes what was collected from the files found. -/
theorem run_outcome (settings : ScanSettings) (context : Context) (tree : Node)
    (workingPlace : Place) (root : Path) (finishes : context.FinishesAll) :
    (run settings context tree workingPlace root).1 =
      ((searchOf settings).run tree workingPlace root).bind fun paths =>
        ((judgeAll settings.skipInvalid (loggerOf context root)
          (outcomesOf tree workingPlace paths)).1.map fun collected =>
            (conclude settings (loggerOf context root) context.duration root
              collected.1 collected.2).1).mapError Search.Problem.failure := by
  rw [run, searchOf]
  cases Search.run ⟨settings.extension, settings.excludeDirs⟩ tree workingPlace root with
  | error problem => rfl
  | ok paths =>
    have concluded := runOn_outcome settings context (loggerOf context root) tree workingPlace root
      paths finishes
    exact congrArg (Except.mapError Search.Problem.failure) concluded

/-- A scan that leaves failing files out comes to a result wherever its search does. -/
theorem run_of_skipInvalid (settings : ScanSettings) (context : Context) (tree : Node)
    (workingPlace : Place) (root : Path) (paths : List Path) (finishes : context.FinishesAll)
    (lenient : settings.skipInvalid = true)
    (searched : (searchOf settings).run tree workingPlace root = .ok paths) :
    ∃ result, (run settings context tree workingPlace root).1 = .ok result := by
  rw [run_outcome settings context tree workingPlace root finishes, searched, lenient]
  exact ⟨_, by rw [Except.bind, judgeAll_lenient]; rfl⟩

/-- A result reports on the classes that the discovered files describe, in the order of the files,
whether one reader has read them or several. -/
theorem report_of_run (settings : ScanSettings) (context : Context) (tree : Node)
    (workingPlace : Place) (root : Path) (result : ScanResult) (finishes : context.FinishesAll)
    (completed : (run settings context tree workingPlace root).1 = .ok result) :
    ∃ paths, (searchOf settings).run tree workingPlace root = .ok paths ∧
      result.report = Report.ofClasses settings.tagType
        (paths.filterMap fun path => (tree.readClass workingPlace path).toOption) := by
  rw [run_outcome settings context tree workingPlace root finishes] at completed
  cases searched : (searchOf settings).run tree workingPlace root with
  | error problem => simp [searched, Except.bind] at completed
  | ok paths =>
    refine ⟨paths, rfl, ?_⟩
    rw [searched] at completed
    simp only [Except.bind] at completed
    cases collected : (judgeAll settings.skipInvalid (loggerOf context root)
        (outcomesOf tree workingPlace paths)).1 with
    | error failure =>
      rw [collected] at completed
      exact nomatch completed
    | ok both =>
      obtain ⟨classes, skipped⟩ := both
      have inOrder := classes_of_judgeAll _ _ _ classes skipped collected
      rw [collected] at completed
      obtain rfl := Except.ok.inj completed
      rw [outcomesOf, List.filterMap_map] at inOrder
      exact congrArg (Report.ofClasses settings.tagType) inOrder

/-- A class is found when a file under the root can be read and describes it. -/
def FindsClass (settings : ScanSettings) (tree : Node) (workingPlace : Place) (root : Path)
    (c : ClassDescriptor) : Prop :=
  ∃ path, (searchOf settings).Discovers tree workingPlace root path ∧
    tree.readClass workingPlace path = .ok c

/-- A scan is dirty exactly when a class is found in which two fields share a tag. -/
theorem hasViolations_iff (settings : ScanSettings) (context : Context) (tree : Node)
    (workingPlace : Place) (root : Path) (result : ScanResult) (finishes : context.FinishesAll)
    (completed : (run settings context tree workingPlace root).1 = .ok result) :
    result.hasViolations = true ↔
      ∃ c, FindsClass settings tree workingPlace root c ∧ c.SharesTag settings.tagType := by
  obtain ⟨paths, searched, report⟩ := report_of_run settings context tree workingPlace root result
    finishes completed
  have dirty : result.hasViolations = true ↔ result.report ≠ [] := by
    simp [ScanResult.hasViolations]
  have described (path : Path) (c : ClassDescriptor) :
      (tree.readClass workingPlace path).toOption = some c ↔
        tree.readClass workingPlace path = .ok c := by
    cases tree.readClass workingPlace path <;> simp [Except.toOption]
  rw [dirty, report, Report.ofClasses_ne_nil_iff]
  simp only [FindsClass, List.mem_filterMap, described,
    Search.mem_run_iff _ tree workingPlace root _ paths searched]

/-- The bytes of a class with two fields that carry the tag seven. -/
def sharingClass : List UInt8 :=
  [0xCA, 0xFE, 0xBA, 0xBE, 0, 0, 0, 52, 0, 8, 7, 0, 2, 1, 0, 1, 0x41, 1, 0, 1, 0x49,
    1, 0, 25, 0x52, 0x75, 0x6E, 0x74, 0x69, 0x6D, 0x65, 0x56, 0x69, 0x73, 0x69, 0x62, 0x6C, 0x65,
    0x41, 0x6E, 0x6E, 0x6F, 0x74, 0x61, 0x74, 0x69, 0x6F, 0x6E, 0x73,
    1, 0, 5, 0x4C, 0x54, 0x61, 0x67, 0x3B, 1, 0, 5, 0x76, 0x61, 0x6C, 0x75, 0x65, 3, 0, 0, 0, 7,
    0, 33, 0, 1, 0, 0, 0, 0, 0, 2,
    0, 2, 0, 2, 0, 3, 0, 1, 0, 4, 0, 0, 0, 11, 0, 1, 0, 5, 0, 1, 0, 6, 0x49, 0, 7,
    0, 2, 0, 3, 0, 3, 0, 1, 0, 4, 0, 0, 0, 11, 0, 1, 0, 5, 0, 1, 0, 6, 0x49, 0, 7,
    0, 0, 0, 0]

/-- A directory with that class, a file that is no class, and one that is not looked at. -/
def sharingTree : Node :=
  .directory [("out", .directory [("A.class", .file sharingClass), ("B.class", .file []),
    ("notes", .file [])])]

/-- Settings under which two readers leave failing files out. -/
def lenientSettings : ScanSettings := { tagType := "LTag;", skipInvalid := true, maxWorkers := 2 }

/-- Readers that finish the last file first. -/
def backwards : Context :=
  { logger := Logger.named "scan", scanId := "1", order := fun count => (List.range count).reverse }

/-- In that directory a class is found in which two fields share a tag. -/
theorem sharingTree_finds : ∃ c,
    FindsClass lenientSettings sharingTree [] ⟨1, ["out"]⟩ c ∧ c.SharesTag "LTag;" := by
  have discovered : (searchOf lenientSettings).Discovers sharingTree [] ⟨1, ["out"]⟩
      ⟨1, ["out", "A.class"]⟩ :=
    ⟨_, _, ["A.class"], rfl, .file "A.class" sharingClass List.mem_cons_self (by decide +kernel),
      rfl⟩
  have tagged : ((sharingTree.readClass [] ⟨1, ["out", "A.class"]⟩).toOption.map
      (ClassDescriptor.tags "LTag;")) = some [7, 7] := by decide +kernel
  obtain ⟨c, read, twice⟩ : ∃ c,
      sharingTree.readClass [] ⟨1, ["out", "A.class"]⟩ = .ok c ∧ c.tags "LTag;" = [7, 7] := by
    cases read : sharingTree.readClass [] ⟨1, ["out", "A.class"]⟩ with
    | error failure => simp [read, Except.toOption] at tagged
    | ok c => exact ⟨c, rfl, by simpa [read, Except.toOption] using tagged⟩
  have shared : c.SharesTag "LTag;" :=
    (ClassDescriptor.sharesTag_iff "LTag;" c).mpr (by rw [twice]; decide)
  exact ⟨c, ⟨_, discovered, read⟩, shared⟩

/-- The scan of that directory is dirty, though a file fails and the readers finish backwards. -/
theorem sharingTree_dirty :
    backwards.FinishesAll ∧ ∃ result,
      (run lenientSettings backwards sharingTree [] ⟨1, ["out"]⟩).1 = .ok result ∧
        result.hasViolations = true := by
  have finishes : backwards.FinishesAll := by
    intro count number inside
    simp [backwards, inside]
  obtain ⟨paths, searched⟩ : ∃ paths,
      (searchOf lenientSettings).run sharingTree [] ⟨1, ["out"]⟩ = .ok paths := ⟨_, rfl⟩
  obtain ⟨result, completed⟩ := run_of_skipInvalid lenientSettings backwards sharingTree []
    ⟨1, ["out"]⟩ paths finishes rfl searched
  have dirty := (hasViolations_iff lenientSettings backwards sharingTree [] ⟨1, ["out"]⟩ result
    finishes completed).mpr sharingTree_finds
  exact ⟨finishes, result, completed, dirty⟩

end TagAudit.Scan
