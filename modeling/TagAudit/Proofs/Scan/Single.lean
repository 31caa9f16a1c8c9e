import TagAudit.Proofs.Progress.Transparency
import TagAudit.Proofs.Scan.Policies

/-!
# The log of a single reader

A single reader takes up a file, and the log tells what became of it before the next one is taken
up. The fields of classes are gone through when all files have been read. So the log follows the
files: it is known entry by entry as soon as the files are.

A scan that leaves failing files out goes through all files, and so does one that finds none that
fails. Any other stops at the first that fails. There is no third way for a log to look.
-/

namespace TagAudit.Scan

open ClassFile Log

/-- The entry about progress through a number of files. -/
def progressEntry (files : Nat) (event : Text) : Entry :=
  Progress.noteEntry "Parsing" (some files) event

section
variable (logger : Logger) (tree : Node) (workingPlace : Place)

/-- The entry about a file that is taken up. -/
def takenUpEntry (path : Path) : Entry :=
  logger.entry .debug takenUpEvent [("path", .text path.toText)]

/-- The entry about a file that fails. -/
def failureEntry (level : Log.Level) (event : Text) (path : Path) (failure : Failure) : Entry :=
  logger.entry level event [("path", .text path.toText), ("error", .text failure.line)]

/-- The entries about a file that is taken up and, if it fails, left out. -/
def fileEntries (path : Path) : List Entry :=
  takenUpEntry logger path ::
    match tree.readClass workingPlace path with
    | .ok _ => []
    | .error failure => [failureEntry logger .warning "class_skipped" path failure]

/-- The entries about the fields of a class: one for each that is not static, with its tag or
null. -/
def fieldEntries (tagType : Text) (c : ClassDescriptor) : List Entry :=
  (c.fields.filter fun f => !f.isStatic).map fun f =>
    logger.entry .debug "process_field"
      [("class_name", .text c.dottedName), ("field", .text f.name),
        ("tag", ((f.tag? tagType).map Data.int).getD .null)]

/-- The entry that concludes a scan with a result. -/
def conclusionEntry (result : ScanResult) : Entry :=
  logger.entry .info "scan_done"
    [("classes", .int result.classesScanned), ("conflicts", .int result.report.total),
      ("skipped", .int result.skipped.length), ("elapsed_s", result.duration.toData)]

/-- The log of a scan that goes through all files and comes to a result. -/
def fullLog (settings : ScanSettings) (paths : List Path) (result : ScanResult) : List Entry :=
  [beginning settings logger paths, progressEntry paths.length "progress_start"] ++
    paths.flatMap (fileEntries logger tree workingPlace) ++
    [progressEntry paths.length "progress_done"] ++
    (classesOf tree workingPlace paths).flatMap (fieldEntries logger settings.tagType) ++
    [conclusionEntry logger result]

/-- The log of a scan that goes through the first of its files and stops at the next. -/
def stoppedLog (settings : ScanSettings) (paths before : List Path) (path : Path)
    (failure : Failure) : List Entry :=
  [beginning settings logger paths, progressEntry paths.length "progress_start"] ++
    (before ++ [path]).map (takenUpEntry logger) ++
    [failureEntry logger .error "scan_aborted" path failure]

/-- The events of a log that stops at a file. -/
theorem events_stoppedLog (settings : ScanSettings) (paths before : List Path) (path : Path)
    (failure : Failure) :
    (stoppedLog logger settings paths before path failure).map Entry.event =
      (["scan_start", "progress_start"] : List Text) ++
        List.replicate (before.length + 1) takenUpEvent ++ (["scan_aborted"] : List Text) := by
  rw [stoppedLog, List.map_append, List.map_append, List.map_map]
  have taken : (before ++ [path]).map (Entry.event ∘ takenUpEntry logger) =
      List.replicate (before ++ [path]).length takenUpEvent := List.map_const
  rw [taken, List.length_append]
  rfl

/-- A log that stops at a file takes up that file and those before it. -/
theorem count_takenUp_stoppedLog (settings : ScanSettings) (paths before : List Path) (path : Path)
    (failure : Failure) :
    ((stoppedLog logger settings paths before path failure).map Entry.event).count takenUpEvent =
      before.length + 1 := by
  have opening : (["scan_start", "progress_start"] : List Text).count takenUpEvent = 0 := by decide
  have ending : (["scan_aborted"] : List Text).count takenUpEvent = 0 := by decide
  rw [events_stoppedLog, List.count_append, List.count_append, List.count_replicate_self, opening,
    ending, Nat.zero_add, Nat.add_zero]

/-- Such a log tells nothing of what comes after the files. -/
theorem not_mem_events_stoppedLog (settings : ScanSettings) (paths before : List Path) (path : Path)
    (failure : Failure) :
    ∀ event ∈ (["progress_done", "process_field", "scan_done"] : List Text),
      event ∉ (stoppedLog logger settings paths before path failure).map Entry.event := by
  have others : ∀ event ∈ (["progress_done", "process_field", "scan_done"] : List Text),
      event ∉ (["scan_start", "progress_start"] : List Text) ∧ event ≠ takenUpEvent ∧
        event ∉ (["scan_aborted"] : List Text) := by decide
  intro event among
  obtain ⟨notOpening, notTakenUp, notEnding⟩ := others event among
  rw [events_stoppedLog]
  simp only [List.mem_append, List.mem_replicate, not_or, not_and]
  exact ⟨⟨notOpening, fun _ => notTakenUp⟩, notEnding⟩

/-- Files either stop no scan or stop a scan that leaves nothing out, at the first that fails. -/
theorem unstopped_or_firstFails (skipInvalid : Bool) (paths : List Path) :
    (skipInvalid = true ∨ ∀ path ∈ paths, ∃ c, tree.readClass workingPlace path = .ok c) ∨
      skipInvalid = false ∧ ∃ failure, FirstFails tree workingPlace paths failure := by
  cases skipInvalid with
  | true => exact .inl (.inl rfl)
  | false =>
    cases left : skippedOf tree workingPlace paths with
    | nil => exact .inl (.inr (exists_class_of_skippedOf_nil tree workingPlace left))
    | cons first rest =>
      obtain ⟨failure, -, fails⟩ := firstFails_of_skippedOf_cons tree workingPlace left
      exact .inr ⟨rfl, failure, fails⟩

/-- A single reader that no file stops makes the entries about each file in turn. -/
theorem oneByOne_unstopped (skipInvalid : Bool) (paths : List Path)
    (unstopped : skipInvalid = true ∨
      ∀ path ∈ paths, ∃ c, tree.readClass workingPlace path = .ok c) :
    oneByOne skipInvalid logger (outcomesOf tree workingPlace paths) =
      (.ok (classesOf tree workingPlace paths, skippedOf tree workingPlace paths),
        paths.flatMap (fileEntries logger tree workingPlace)) := by
  induction paths with
  | nil => rfl
  | cons path rest inductionHypothesis =>
    have later := inductionHypothesis (unstopped.imp_right fun fine path among =>
      fine path (List.mem_cons_of_mem _ among))
    rw [outcomesOf] at later ⊢
    rw [List.map_cons, oneByOne, Outcome.judge, List.flatMap_cons, fileEntries]
    cases read : tree.readClass workingPlace path with
    | ok c =>
      obtain ⟨described, skipped⟩ := cons_of_readClass_ok tree workingPlace read rest
      simp only [later, described, skipped]
      rfl
    | error failure =>
      obtain ⟨described, skipped⟩ := cons_of_readClass_error tree workingPlace read rest
      have lenient : skipInvalid = true := by
        refine unstopped.resolve_right fun fine => ?_
        obtain ⟨c, readToo⟩ := fine path List.mem_cons_self
        cases read.symm.trans readToo
      subst lenient
      simp only [later, described, skipped, if_true]
      rfl

/-- A single reader that leaves no file out stops at the first that fails. -/
theorem oneByOne_stopped (before after : List Path) (path : Path) (failure : Failure)
    (fine : ∀ earlier ∈ before, ∃ c, tree.readClass workingPlace earlier = .ok c)
    (read : tree.readClass workingPlace path = .error failure) :
    oneByOne false logger (outcomesOf tree workingPlace (before ++ path :: after)) =
      (.error failure, (before ++ [path]).map (takenUpEntry logger) ++
        [failureEntry logger .error "scan_aborted" path failure]) := by
  induction before with
  | nil =>
    rw [List.nil_append, outcomesOf, List.map_cons, oneByOne, Outcome.judge, read]
    rfl
  | cons earlier rest inductionHypothesis =>
    obtain ⟨c, described⟩ := fine earlier List.mem_cons_self
    have later := inductionHypothesis fun path among => fine path (List.mem_cons_of_mem _ among)
    rw [outcomesOf] at later ⊢
    rw [List.cons_append, List.map_cons, oneByOne, Outcome.judge, described]
    simp only [later]
    rfl

end

section
variable (context : Context) (root : Path)

/-- The field that tells which directory an entry is about. -/
def rootField : Text := "root"

/-- An entry says which scan it is about, and which directory. -/
def Identifies (e : Entry) : Prop :=
  e.fields.get? scanIdField = some (.text context.scanId) ∧
    e.fields.get? rootField = some (.text root.toText)

/-- An entry of a scan says so, unless its own fields hide that. -/
theorem identifies_entry (level : Log.Level) (event : Text) {fields : Keyed Text Data}
    (names : List Text) (named : fields.keys = names) (noScanId : scanIdField ∉ names)
    (noRoot : rootField ∉ names) :
    Identifies context root ((loggerOf context root).entry level event fields) := by
  have bound : (loggerOf context root).context =
      (context.logger.context.put scanIdField (.text context.scanId)).put rootField
        (.text root.toText) := rfl
  subst named
  refine ⟨(Keyed.get?_putAll_of_not_mem noScanId).trans ?_,
    (Keyed.get?_putAll_of_not_mem noRoot).trans ?_⟩
  · rw [bound, Keyed.get?_put_of_ne _ _ _ _ (by decide), Keyed.get?_put_self]
  · rw [bound, Keyed.get?_put_self]

/-- So do the entries about a file. -/
theorem identifies_of_mem_fileEntries (tree : Node) (workingPlace : Place) {path : Path} {e : Entry}
    (among : e ∈ fileEntries (loggerOf context root) tree workingPlace path) :
    Identifies context root e := by
  rw [fileEntries] at among
  rcases List.mem_cons.mp among with rfl | among
  · exact identifies_entry context root _ _ ["path"] rfl (by decide) (by decide)
  · split at among
    · cases among
    · obtain rfl := List.mem_singleton.mp among
      exact identifies_entry context root _ _ ["path", "error"] rfl (by decide) (by decide)

/-- So do the entries about fields. -/
theorem identifies_of_mem_fieldEntries {tagType : Text} {c : ClassDescriptor} {e : Entry}
    (among : e ∈ fieldEntries (loggerOf context root) tagType c) : Identifies context root e := by
  obtain ⟨f, -, rfl⟩ := List.mem_map.mp among
  exact identifies_entry context root _ _ ["class_name", "field", "tag"] rfl (by decide) (by decide)

/-- What an entry of a log is about: progress, or a scan that it identifies. -/
def IsTold (files : Nat) (e : Entry) : Prop :=
  e = progressEntry files "progress_start" ∨ e = progressEntry files "progress_done" ∨
    Identifies context root e

/-- The first two entries of a log. -/
theorem isTold_of_mem_opening (settings : ScanSettings) {paths : List Path} {e : Entry}
    (among : e ∈ [beginning settings (loggerOf context root) paths,
      progressEntry paths.length "progress_start"]) : IsTold context root paths.length e := by
  rcases List.mem_cons.mp among with rfl | among
  · exact .inr (.inr (identifies_entry context root _ _ ["files", "workers"] rfl (by decide)
      (by decide)))
  · exact .inl (List.mem_singleton.mp among)

/-- Every entry of a log through all files is about progress or identifies its scan. -/
theorem isTold_of_mem_fullLog (settings : ScanSettings) {tree : Node} {workingPlace : Place}
    {paths : List Path} {result : ScanResult} {e : Entry}
    (among : e ∈ fullLog (loggerOf context root) tree workingPlace settings paths result) :
    IsTold context root paths.length e := by
  simp only [fullLog, List.mem_append, List.mem_flatMap, List.mem_singleton] at among
  rcases among with (((opening | ⟨path, -, file⟩) | rfl) | ⟨c, -, field⟩) | rfl
  · exact isTold_of_mem_opening context root settings opening
  · exact .inr (.inr (identifies_of_mem_fileEntries context root tree workingPlace file))
  · exact .inr (.inl rfl)
  · exact .inr (.inr (identifies_of_mem_fieldEntries context root field))
  · exact .inr (.inr (identifies_entry context root _ _
      ["classes", "conflicts", "skipped", "elapsed_s"] rfl (by decide) (by decide)))

/-- So is every entry of a log that stops at a file. -/
theorem isTold_of_mem_stoppedLog (settings : ScanSettings) {paths before : List Path} {path : Path}
    {failure : Failure} {e : Entry}
    (among : e ∈ stoppedLog (loggerOf context root) settings paths before path failure) :
    IsTold context root paths.length e := by
  simp only [stoppedLog, List.mem_append, List.mem_map, List.mem_singleton] at among
  rcases among with (opening | ⟨earlier, -, rfl⟩) | rfl
  · exact isTold_of_mem_opening context root settings opening
  · exact .inr (.inr (identifies_entry context root _ _ ["path"] rfl (by decide) (by decide)))
  · exact .inr (.inr (identifies_entry context root _ _ ["path", "error"] rfl (by decide)
      (by decide)))

end

section
variable (settings : ScanSettings) (context : Context) (tree : Node) (workingPlace : Place)
  (root : Path) (paths : List Path)

/-- With one reader the files are read one by one. -/
theorem readingOf_single (logger : Logger) (single : settings.maxWorkers = 1) :
    readingOf settings context logger tree workingPlace paths =
      oneByOne settings.skipInvalid logger (outcomesOf tree workingPlace paths) := by
  rw [readingOf, single, collect, if_pos (Int.min_le_left _ _)]

/-- Without a terminal the beginning of progress is in the log, and its end will be unless it is
closed before. -/
theorem openedProgress_of_noTerminal (noTerminal : context.terminal = false) :
    (openedProgress context paths).2 = [.entry (progressEntry paths.length "progress_start")] ∧
      (openedProgress context paths).1.ending =
        [.entry (progressEntry paths.length "progress_done")] ∧
      (openedProgress context paths).1.close.2 = [] := by
  rw [openedProgress, noTerminal]
  exact ⟨rfl, rfl, rfl⟩

variable (single : settings.maxWorkers = 1) (noTerminal : context.terminal = false)
  (searched : (searchOf settings).run tree workingPlace root = .ok paths)
include single noTerminal searched

/-- A scan that no file stops goes through all files, then through the fields of all classes. -/
theorem run_unstopped
    (unstopped : settings.skipInvalid = true ∨
      ∀ path ∈ paths, ∃ c, tree.readClass workingPlace path = .ok c) :
    let logger := loggerOf context root
    let result := resultOf tree workingPlace settings.tagType context.duration root paths
    run settings context tree workingPlace root = (.ok result,
      (fullLog logger tree workingPlace settings paths result).map Event.entry) := by
  intro logger result
  obtain ⟨opening, ending, -⟩ := openedProgress_of_noTerminal context paths noTerminal
  have gone := oneByOne_unstopped logger tree workingPlace settings.skipInvalid paths unstopped
  rw [← readingOf_single settings context tree workingPlace paths logger single] at gone
  rw [run_of_found _ _ _ _ _ _ searched]
  dsimp only
  have concluded : conclude settings logger context.duration root
      (classesOf tree workingPlace paths) (skippedOf tree workingPlace paths) =
      (result, (classesOf tree workingPlace paths).flatMap (fieldEntries logger settings.tagType) ++
        [conclusionEntry logger result]) := rfl
  rw [runOn_of_ok _ _ _ _ _ _ _ _ _ (congrArg Prod.fst gone), gone, opening, ending, concluded]
  simp only [fullLog, List.map_append, List.append_assoc]
  rfl

/-- A scan that a file stops ends with the entry about its failure. -/
theorem run_stopped {before after : List Path} {path : Path} {failure : Failure}
    (strict : settings.skipInvalid = false) (found : paths = before ++ path :: after)
    (fine : ∀ earlier ∈ before, ∃ c, tree.readClass workingPlace earlier = .ok c)
    (read : tree.readClass workingPlace path = .error failure) :
    let logger := loggerOf context root
    run settings context tree workingPlace root = (.error (.failure failure),
      (stoppedLog logger settings paths before path failure).map Event.entry) := by
  intro logger
  obtain ⟨opening, -, closing⟩ := openedProgress_of_noTerminal context paths noTerminal
  have gone := oneByOne_stopped logger tree workingPlace before after path failure fine read
  rw [← found, ← strict, ← readingOf_single settings context tree workingPlace paths logger single]
    at gone
  rw [run_of_found _ _ _ _ _ _ searched]
  dsimp only
  rw [runOn_of_error _ _ _ _ _ _ _ _ (congrArg Prod.fst gone), gone, opening, closing]
  simp only [stoppedLog, List.map_append, List.append_assoc, List.append_nil]
  rfl

/-- Every entry of the log is about progress or identifies the scan. -/
theorem isTold_of_mem_run {e : Entry}
    (told : Event.entry e ∈ (run settings context tree workingPlace root).2) :
    IsTold context root paths.length e := by
  rcases unstopped_or_firstFails tree workingPlace settings.skipInvalid paths with
    fine | ⟨strict, failure, before, path, after, found, fine, read⟩
  · rw [run_unstopped settings context tree workingPlace root paths single noTerminal searched fine]
      at told
    obtain ⟨_, among, ⟨⟩⟩ := List.mem_map.mp told
    exact isTold_of_mem_fullLog context root settings among
  · rw [run_stopped settings context tree workingPlace root paths single noTerminal searched strict
      found fine read] at told
    obtain ⟨_, among, ⟨⟩⟩ := List.mem_map.mp told
    exact isTold_of_mem_stoppedLog context root settings among

end

/-- The log of a scan with one reader and without a terminal, given the files that are found. Unless
a file stops it, the log tells the beginning, each file as it is taken up and, if it is left out,
why, then each field that is not static with its tag, and at last the result, which counts every
file once. A scan that leaves nothing out stops at the first file that fails: the entry about its
failure is the last one, it and the files before it are all that was taken up, and nothing is told
of the end of progress, of fields or of a result. But for the two entries about progress every entry
says which scan it is about, and which directory. -/
theorem single_reader_log (settings : ScanSettings) (context : Context) (tree : Node)
    (workingPlace : Place) (root : Path) (paths : List Path) (single : settings.maxWorkers = 1)
    (noTerminal : context.terminal = false)
    (searched : (searchOf settings).run tree workingPlace root = .ok paths) :
    let logger := loggerOf context root
    let ended := run settings context tree workingPlace root
    ((settings.skipInvalid = true ∨ ∀ path ∈ paths, ∃ c, tree.readClass workingPlace path = .ok c) →
      ∃ result, ended.1 = .ok result ∧
        result.classesScanned + result.skipped.length = paths.length ∧
        ended.2 = (fullLog logger tree workingPlace settings paths result).map Event.entry) ∧
    (∀ before path after failure, settings.skipInvalid = false → paths = before ++ path :: after →
      (∀ earlier ∈ before, ∃ c, tree.readClass workingPlace earlier = .ok c) →
      tree.readClass workingPlace path = .error failure →
      let log := stoppedLog logger settings paths before path failure
      ended = (.error (.failure failure), log.map Event.entry) ∧
        log.getLast? = some (failureEntry logger .error "scan_aborted" path failure) ∧
        (log.map Entry.event).count takenUpEvent = before.length + 1 ∧
        ∀ event ∈ (["progress_done", "process_field", "scan_done"] : List Text),
          event ∉ log.map Entry.event) ∧
    ∀ e, Event.entry e ∈ ended.2 → IsTold context root paths.length e := by
  intro logger ended
  refine ⟨fun fine => ?_, fun before path after failure strict found fine read => ?_, fun e => ?_⟩
  · have gone := run_unstopped settings context tree workingPlace root paths single noTerminal
      searched fine
    refine ⟨_, congrArg Prod.fst gone, ?_, congrArg Prod.snd gone⟩
    exact congrArg Nat.cast (length_classesOf_add_skippedOf tree workingPlace paths)
  · exact ⟨run_stopped settings context tree workingPlace root paths single noTerminal searched
      strict found fine read, List.getLast?_concat,
      count_takenUp_stoppedLog logger settings paths before path failure,
      not_mem_events_stoppedLog logger settings paths before path failure⟩
  · exact isTold_of_mem_run settings context tree workingPlace root paths single noTerminal searched

/-- The class files of the directory whose second and third files are no classes. -/
def brokenPaths : List Path :=
  [⟨1, ["out", "A.class"]⟩, ⟨1, ["out", "B.class"]⟩, ⟨1, ["out", "C.class"]⟩]

/-- In that directory one reader takes up all three files if it leaves two out, and otherwise two,
since the second one stops it. -/
theorem brokenTree_logged :
    let root : Path := ⟨1, ["out"]⟩
    let failure : Failure := .truncated (.text "/out/B.class") (.int 0) (.int 4) (.int 1)
    let one : ScanSettings := { strictSettings with maxWorkers := 1 }
    let lenient : ScanSettings := { one with skipInvalid := true }
    let logger := loggerOf backwards root
    let stopped := stoppedLog logger one brokenPaths [⟨1, ["out", "A.class"]⟩]
      ⟨1, ["out", "B.class"]⟩ failure
    (one.maxWorkers = 1 ∧ lenient.maxWorkers = 1 ∧ backwards.terminal = false ∧
      (searchOf one).run brokenTree [] root = .ok brokenPaths ∧
      (searchOf lenient).run brokenTree [] root = .ok brokenPaths) ∧
    (∃ result, (run lenient backwards brokenTree [] root).1 = .ok result ∧
      result.classesScanned + result.skipped.length = 3 ∧
      (run lenient backwards brokenTree [] root).2 =
        (fullLog logger brokenTree [] lenient brokenPaths result).map Event.entry) ∧
    (brokenPaths.flatMap (fileEntries logger brokenTree [])).map Entry.event =
      (["analyze_class", "analyze_class", "class_skipped", "analyze_class", "class_skipped"] :
        List Text) ∧
    run one backwards brokenTree [] root =
      (.error (.failure failure), stopped.map Event.entry) ∧
    (stopped.map Entry.event).count takenUpEvent = 2 := by
  intro root failure one lenient logger stopped
  have searched : (searchOf strictSettings).run brokenTree [] root = .ok brokenPaths :=
    congrArg Except.ok (List.mergeSort_of_pairwise (by decide +kernel))
  have described : (brokenTree.readClass [] ⟨1, ["out", "A.class"]⟩).toOption.isSome := by
    decide +kernel
  have fine : ∀ earlier ∈ ([⟨1, ["out", "A.class"]⟩] : List Path),
      ∃ c, brokenTree.readClass [] earlier = .ok c := by
    intro earlier member
    obtain rfl := List.mem_singleton.mp member
    cases read : brokenTree.readClass [] ⟨1, ["out", "A.class"]⟩ with
    | ok c => exact ⟨c, rfl⟩
    | error other => simp [read, Except.toOption] at described
  obtain ⟨through, -, -⟩ := single_reader_log lenient backwards brokenTree [] root brokenPaths rfl
    rfl searched
  obtain ⟨-, halfway, -⟩ := single_reader_log one backwards brokenTree [] root brokenPaths rfl rfl
    searched
  obtain ⟨ended, -, twice, -⟩ := halfway _ _ [⟨1, ["out", "C.class"]⟩] failure rfl rfl fine rfl
  exact ⟨⟨rfl, rfl, rfl, searched, searched⟩, through (.inl rfl), by decide +kernel, ended, twice⟩

end TagAudit.Scan
