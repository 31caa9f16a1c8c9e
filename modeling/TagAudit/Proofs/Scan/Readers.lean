import TagAudit.Proofs.Scan.Trace

/-!
# One reader and several

However many readers there are, and in whatever order they finish, a scan comes to what it comes to
with a single reader: to the same failure, which is that of the first file that fails, or to a
result that differs at most in the time it took. The essentials of its log are the same too.

A single reader needs no order to finish in. Of several it is asked that they finish every file.
-/

namespace TagAudit.Scan

open ClassFile Log

/-- A single reader comes to what the outcomes come to in order. -/
theorem collect_single (order : List Nat) (skipInvalid : Bool) (logger : Logger)
    (outcomes : List Outcome) :
    Judged.unread (collect 1 order skipInvalid logger outcomes) =
      judgeAll skipInvalid logger outcomes := by
  rw [collect, if_pos (Int.min_le_left _ _)]
  exact oneByOne_eq_judgeAll skipInvalid logger outcomes

/-- The first entry of a scan. -/
def beginning (settings : ScanSettings) (logger : Logger) (paths : List Path) : Entry :=
  logger.entry .info "scan_start"
    [("files", .int paths.length), ("workers", .int settings.maxWorkers)]

/-- The progress through files when the first of them is asked for. -/
def openedProgress (context : Context) (paths : List Path) :
    Progress.Run Path × List Event :=
  Progress.Run.opened { total := some paths.length, left := paths } context.terminal

/-- What the readers of a scan come to. -/
def readingOf (settings : ScanSettings) (context : Context) (logger : Logger) (tree : Node)
    (workingPlace : Place) (paths : List Path) : Judged :=
  collect settings.maxWorkers (context.order paths.length) settings.skipInvalid logger
    (outcomesOf tree workingPlace paths)

section
variable (settings : ScanSettings) (context : Context) (logger : Logger) (tree : Node)
  (workingPlace : Place) (root : Path) (paths : List Path)

/-- A scan that a file has ended closes its progress, and concludes nothing. -/
theorem runOn_of_error (failure : Failure)
    (ended : (readingOf settings context logger tree workingPlace paths).1 = .error failure) :
    runOn settings context logger tree workingPlace root paths =
      (.error failure, [Event.entry (beginning settings logger paths)] ++
        (openedProgress context paths).2 ++
        (readingOf settings context logger tree workingPlace paths).2.map Event.entry ++
        (openedProgress context paths).1.close.2) := by
  have read : collect settings.maxWorkers (context.order paths.length) settings.skipInvalid logger
      (paths.map fun path => ⟨path.toText, tree.readClass workingPlace path⟩) =
      (.error failure, (readingOf settings context logger tree workingPlace paths).2) :=
    Prod.ext ended rfl
  rw [runOn, read]
  rfl

/-- A scan that has gone through all files ends its progress and concludes. -/
theorem runOn_of_ok (classes : List ClassDescriptor) (skipped : List Skipped)
    (collected : (readingOf settings context logger tree workingPlace paths).1 =
      .ok (classes, skipped)) :
    runOn settings context logger tree workingPlace root paths =
      (.ok (conclude settings logger context.duration root classes skipped).1,
        [Event.entry (beginning settings logger paths)] ++
          (openedProgress context paths).2 ++
          (readingOf settings context logger tree workingPlace paths).2.map Event.entry ++
          (openedProgress context paths).1.ending ++
          (conclude settings logger context.duration root classes skipped).2.map Event.entry) := by
  have read : collect settings.maxWorkers (context.order paths.length) settings.skipInvalid logger
      (paths.map fun path => ⟨path.toText, tree.readClass workingPlace path⟩) =
      (.ok (classes, skipped), (readingOf settings context logger tree workingPlace paths).2) :=
    Prod.ext collected rfl
  rw [runOn, read]
  rfl

end

/-- Scans of the same files whose readers come to the same end with the same result but for the
time, and with the same essentials of the log. -/
theorem runOn_agree (settings other : ScanSettings) (sameType : other.tagType = settings.tagType)
    (context otherContext : Context) (sameTerminal : otherContext.terminal = context.terminal)
    (logger otherLogger : Logger) (alike : Alike logger otherLogger) (tree : Node)
    (workingPlace : Place) (root : Path) (paths : List Path)
    (agree : Judged.Agree
      (readingOf settings context logger tree workingPlace paths).unread
      (readingOf other otherContext otherLogger tree workingPlace paths).unread) :
    (runOn other otherContext otherLogger tree workingPlace root paths).1 =
      (runOn settings context logger tree workingPlace root paths).1.map
        (fun result => { result with duration := otherContext.duration }) ∧
    essentials (runOn other otherContext otherLogger tree workingPlace root paths).2 =
      essentials (runOn settings context logger tree workingPlace root paths).2 := by
  have begun : essentials [.entry (beginning other otherLogger paths)] =
      essentials [.entry (beginning settings logger paths)] :=
    congrArg (fun e => [Event.entry e]) (essence_entry alike .info (Text.ofString "scan_start")
      [("files", .int paths.length), ("workers", .int settings.maxWorkers)]
      [("files", .int paths.length), ("workers", .int other.maxWorkers)] rfl).symm
  have opened : openedProgress otherContext paths = openedProgress context paths := by
    rw [openedProgress, openedProgress, sameTerminal]
  obtain ⟨sameEnd, sameEntries⟩ := agree
  have gone : essentials ((readingOf other otherContext otherLogger tree workingPlace
        paths).2.map Event.entry) =
      essentials ((readingOf settings context logger tree workingPlace paths).2.map
        Event.entry) := by
    rw [essentials_map_entry, essentials_map_entry]
    exact congrArg (List.map Event.entry) sameEntries.symm
  cases ended : (readingOf settings context logger tree workingPlace paths).1 with
  | error failure =>
    have endedToo : (readingOf other otherContext otherLogger tree workingPlace paths).1 =
        .error failure := sameEnd.symm.trans ended
    rw [runOn_of_error _ _ _ _ _ _ _ _ ended, runOn_of_error _ _ _ _ _ _ _ _ endedToo, opened]
    refine ⟨rfl, ?_⟩
    simp only [essentials_append, begun, gone]
  | ok both =>
    obtain ⟨classes, skipped⟩ := both
    have endedToo : (readingOf other otherContext otherLogger tree workingPlace paths).1 =
        .ok (classes, skipped) := sameEnd.symm.trans ended
    obtain ⟨sameResult, sameConclusion⟩ := conclude_alike alike settings other sameType
      context.duration otherContext.duration root classes skipped
    rw [runOn_of_ok _ _ _ _ _ _ _ _ _ ended, runOn_of_ok _ _ _ _ _ _ _ _ _ endedToo, opened]
    refine ⟨congrArg Except.ok sameResult, ?_⟩
    have concluded := essentials_congr _ _ sameConclusion
    simp only [essentials_append, begun, gone, concluded]

/-- Files that are found are read, and their failure is that of the scan. -/
theorem run_of_found (settings : ScanSettings) (context : Context) (tree : Node)
    (workingPlace : Place) (root : Path) (paths : List Path)
    (searched : (searchOf settings).run tree workingPlace root = .ok paths) :
    run settings context tree workingPlace root =
      let found := runOn settings context (loggerOf context root) tree workingPlace root paths
      (found.1.mapError .failure, found.2) := by
  rw [searchOf] at searched
  rw [run, searched]
  rfl

/-- Where nothing can be searched nothing is read. -/
theorem run_of_problem (settings : ScanSettings) (context : Context) (tree : Node)
    (workingPlace : Place) (root : Path) (problem : Search.Problem)
    (searched : (searchOf settings).run tree workingPlace root = .error problem) :
    run settings context tree workingPlace root = (.error problem, []) := by
  rw [searchOf] at searched
  rw [run, searched]

/-- Of files in order, the first that describes no class fails for a reason. -/
def FirstFails (tree : Node) (workingPlace : Place) (paths : List Path) (failure : Failure) :
    Prop :=
  ∃ before path after, paths = before ++ path :: after ∧
    (∀ earlier ∈ before, ∃ c, tree.readClass workingPlace earlier = .ok c) ∧
    tree.readClass workingPlace path = .error failure

/-- The first failure among outcomes is that of the first file that fails. -/
theorem findSome?_failure_eq_some_iff (tree : Node) (workingPlace : Place) (paths : List Path)
    (failure : Failure) :
    (outcomesOf tree workingPlace paths).findSome? Outcome.failure? = some failure ↔
      FirstFails tree workingPlace paths failure := by
  have fails (path : Path) : Outcome.failure? ⟨path.toText, tree.readClass workingPlace path⟩ =
      some failure ↔ tree.readClass workingPlace path = .error failure := by
    cases read : tree.readClass workingPlace path <;> simp [Outcome.failure?]
  have describes (path : Path) : Outcome.failure? ⟨path.toText, tree.readClass workingPlace path⟩ =
      none ↔ ∃ c, tree.readClass workingPlace path = .ok c := by
    cases read : tree.readClass workingPlace path <;> simp [Outcome.failure?]
  rw [outcomesOf, List.findSome?_map, List.findSome?_eq_some_iff, FirstFails]
  simp only [Function.comp_apply, fails, describes]
  constructor
  · rintro ⟨before, path, after, split, found, fine⟩
    exact ⟨before, path, after, split, fine, found⟩
  · rintro ⟨before, path, after, split, fine, found⟩
    exact ⟨before, path, after, split, found, fine⟩

/-- A scan that files have ended fails as the first file that fails. -/
theorem firstFails_of_run (settings : ScanSettings) (context : Context) (tree : Node)
    (workingPlace : Place) (root : Path) (paths : List Path) (failure : Failure)
    (finishes : context.FinishesAll)
    (searched : (searchOf settings).run tree workingPlace root = .ok paths)
    (ended : (run settings context tree workingPlace root).1 = .error (.failure failure)) :
    FirstFails tree workingPlace paths failure := by
  rw [← findSome?_failure_eq_some_iff]
  rw [run_outcome settings context tree workingPlace root finishes, searched, Except.bind] at ended
  cases lenient : settings.skipInvalid with
  | true =>
    rw [lenient, judgeAll_lenient] at ended
    cases ended
  | false =>
    rw [lenient, judgeAll_strict] at ended
    cases first : (outcomesOf tree workingPlace paths).findSome? Outcome.failure? with
    | none =>
      rw [first] at ended
      cases ended
    | some other =>
      rw [first] at ended
      cases ended
      rfl

/-- A first file that fails ends a scan that leaves no file out. -/
theorem run_of_firstFails (settings : ScanSettings) (context : Context) (tree : Node)
    (workingPlace : Place) (root : Path) (paths : List Path) (failure : Failure)
    (finishes : context.FinishesAll) (strict : settings.skipInvalid = false)
    (searched : (searchOf settings).run tree workingPlace root = .ok paths)
    (first : FirstFails tree workingPlace paths failure) :
    (run settings context tree workingPlace root).1 = .error (.failure failure) := by
  rw [run_outcome settings context tree workingPlace root finishes, searched, Except.bind, strict,
    judgeAll_strict, (findSome?_failure_eq_some_iff tree workingPlace paths failure).mpr first]
  rfl

/-- A scan with any number of readers, who finish every file in whatever order, ends as a scan with
a single one: it fails in the same way, with the failure of the first file that fails, or comes to a
result that differs at most in the time it took. The essentials of the two logs are the same. -/
theorem run_eq_run_single (settings : ScanSettings) (context : Context) (tree : Node)
    (workingPlace : Place) (root : Path) (finishes : context.FinishesAll) (scanId : Text)
    (duration : Duration) (order : Nat → List Nat) :
    let several := run settings context tree workingPlace root
    let single := run { settings with maxWorkers := 1 }
      { context with scanId := scanId, duration := duration, order := order }
      tree workingPlace root
    single.1 = several.1.map (fun result => { result with duration := duration }) ∧
    essentials single.2 = essentials several.2 ∧
    ∀ paths failure, (searchOf settings).run tree workingPlace root = .ok paths →
      several.1 = .error (.failure failure) → FirstFails tree workingPlace paths failure := by
  let one : ScanSettings := { settings with maxWorkers := 1 }
  let other : Context := { context with scanId := scanId, duration := duration, order := order }
  refine and_assoc.mp ⟨?_, fun paths failure searched ended =>
    firstFails_of_run settings context tree workingPlace root paths failure finishes searched ended⟩
  change (run one other tree workingPlace root).1 = _ ∧
    essentials (run one other tree workingPlace root).2 = _
  cases searched : (searchOf settings).run tree workingPlace root with
  | error problem =>
    rw [run_of_problem one other tree workingPlace root problem searched,
      run_of_problem settings context tree workingPlace root problem searched]
    exact ⟨rfl, rfl⟩
  | ok paths =>
    rw [run_of_found one other tree workingPlace root paths searched,
      run_of_found settings context tree workingPlace root paths searched]
    have alike : Alike (loggerOf context root) (loggerOf other root) :=
      alike_loggerOf context other root rfl
    have everyFile : ∀ number < (outcomesOf tree workingPlace paths).length,
        number ∈ context.order paths.length := by
      intro number inside
      rw [outcomesOf, List.length_map] at inside
      exact finishes paths.length number inside
    have agree : Judged.Agree
        (readingOf settings context (loggerOf context root) tree workingPlace paths).unread
        (readingOf one other (loggerOf other root) tree workingPlace paths).unread := by
      rw [readingOf, readingOf, collect_eq_judgeAll _ _ _ _ _ everyFile, collect_single]
      exact judgeAll_agree alike settings.skipInvalid (outcomesOf tree workingPlace paths)
    obtain ⟨sameEnd, sameLog⟩ := runOn_agree settings one rfl context other rfl _ _ alike tree
      workingPlace root paths agree
    refine ⟨?_, sameLog⟩
    dsimp only
    rw [sameEnd]
    cases (runOn settings context (loggerOf context root) tree workingPlace root paths).1 <;> rfl

/-- Readers that finish in reverse order finish every file. -/
theorem backwards_finishesAll : backwards.FinishesAll := by
  intro count number inside
  simp [backwards, inside]

/-- A directory where the second and the third of three class files are none. -/
def brokenTree : Node :=
  .directory [("out", .directory [("A.class", .file sharingClass), ("B.class", .file [0]),
    ("C.class", .file [])])]

/-- Settings under which three readers stop at a failing file. -/
def strictSettings : ScanSettings := { tagType := "LTag;", maxWorkers := 3 }

/-- On that directory three readers that finish the last file first fail as a single one does, with
the failure of the second file. -/
theorem brokenTree_agreed :
    let failure : Failure := .truncated (.text "/out/B.class") (.int 0) (.int 4) (.int 1)
    backwards.FinishesAll ∧
    (run strictSettings backwards brokenTree [] ⟨1, ["out"]⟩).1 = .error (.failure failure) ∧
    (run { strictSettings with maxWorkers := 1 } { backwards with scanId := "2" } brokenTree []
      ⟨1, ["out"]⟩).1 = .error (.failure failure) := by
  intro failure
  have finishes := backwards_finishesAll
  let paths : List Path :=
    [⟨1, ["out", "A.class"]⟩, ⟨1, ["out", "B.class"]⟩, ⟨1, ["out", "C.class"]⟩]
  have searched : (searchOf strictSettings).run brokenTree [] ⟨1, ["out"]⟩ = .ok paths :=
    congrArg Except.ok (List.mergeSort_of_pairwise (by decide +kernel))
  have first : FirstFails brokenTree [] paths failure := by
    refine ⟨[⟨1, ["out", "A.class"]⟩], ⟨1, ["out", "B.class"]⟩, [⟨1, ["out", "C.class"]⟩], rfl, ?_,
      rfl⟩
    intro earlier member
    obtain rfl := List.mem_singleton.mp member
    have described : (brokenTree.readClass [] ⟨1, ["out", "A.class"]⟩).toOption.isSome := by
      decide +kernel
    cases read : brokenTree.readClass [] ⟨1, ["out", "A.class"]⟩ with
    | ok c => exact ⟨c, rfl⟩
    | error other => simp [read, Except.toOption] at described
  have ended := run_of_firstFails strictSettings backwards brokenTree [] ⟨1, ["out"]⟩ paths
    failure finishes rfl searched first
  obtain ⟨same, -, -⟩ := run_eq_run_single strictSettings backwards brokenTree [] ⟨1, ["out"]⟩
    finishes "2" .zero backwards.order
  rw [ended] at same
  exact ⟨finishes, ended, same⟩

end TagAudit.Scan
