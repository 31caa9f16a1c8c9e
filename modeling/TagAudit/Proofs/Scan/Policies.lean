import TagAudit.Proofs.Scan.Readers

/-!
# Leaving failing files out and stopping at them

A scan may leave failing files out or stop at the first of them. Both ways go through the same
files: what is left out are exactly the files that fail, with their failures, and the first of these
is what stops a scan that leaves nothing out. Without any the two come to the same result.
-/

namespace TagAudit.Scan

open ClassFile

section
variable (tree : Node) (workingPlace : Place)

/-- Why a file describes no class, if it describes none. -/
def failureOf? (path : Path) : Option Failure :=
  match tree.readClass workingPlace path with
  | .ok _ => none
  | .error failure => some failure

/-- The classes that files describe, in the order of the files. -/
def classesOf (paths : List Path) : List ClassDescriptor :=
  paths.filterMap fun path => (tree.readClass workingPlace path).toOption

/-- The files that describe no class, in order and with their failures. -/
def skippedOf (paths : List Path) : List Skipped :=
  paths.filterMap fun path =>
    (failureOf? tree workingPlace path).map fun failure => ⟨path.toText, some failure⟩

/-- The result of a scan in which failing files are left out. -/
def resultOf (tagType : Text) (duration : Duration) (root : Path) (paths : List Path) :
    ScanResult where
  root := root.toText
  report := Report.ofClasses tagType (classesOf tree workingPlace paths)
  classesScanned := (classesOf tree workingPlace paths).length
  skipped := skippedOf tree workingPlace paths
  duration := duration

/-- A file that describes a class adds it to those described. -/
theorem cons_of_readClass_ok {path : Path} {c : ClassDescriptor}
    (read : tree.readClass workingPlace path = .ok c) (rest : List Path) :
    classesOf tree workingPlace (path :: rest) = c :: classesOf tree workingPlace rest ∧
      skippedOf tree workingPlace (path :: rest) = skippedOf tree workingPlace rest := by
  simp [classesOf, skippedOf, failureOf?, read, Except.toOption]

/-- A file that describes none is added to those left out. -/
theorem cons_of_readClass_error {path : Path} {failure : Failure}
    (read : tree.readClass workingPlace path = .error failure) (rest : List Path) :
    classesOf tree workingPlace (path :: rest) = classesOf tree workingPlace rest ∧
      skippedOf tree workingPlace (path :: rest) =
        ⟨path.toText, some failure⟩ :: skippedOf tree workingPlace rest := by
  simp [classesOf, skippedOf, failureOf?, read, Except.toOption]

/-- Each file describes a class or is left out. -/
theorem length_classesOf_add_skippedOf (paths : List Path) :
    (classesOf tree workingPlace paths).length + (skippedOf tree workingPlace paths).length =
      paths.length := by
  induction paths with
  | nil => rfl
  | cons path rest inductionHypothesis =>
    cases read : tree.readClass workingPlace path with
    | ok c =>
      obtain ⟨described, skipped⟩ := cons_of_readClass_ok tree workingPlace read rest
      rw [described, skipped, List.length_cons, List.length_cons]
      omega
    | error failure =>
      obtain ⟨described, skipped⟩ := cons_of_readClass_error tree workingPlace read rest
      rw [described, skipped, List.length_cons, List.length_cons]
      omega

/-- If nothing is left out every file describes a class. -/
theorem exists_class_of_skippedOf_nil {paths : List Path}
    (none : skippedOf tree workingPlace paths = []) :
    ∀ path ∈ paths, ∃ c, tree.readClass workingPlace path = .ok c := by
  intro path among
  have fine := List.filterMap_eq_nil_iff.mp none path among
  cases read : tree.readClass workingPlace path with
  | ok c => exact ⟨c, rfl⟩
  | error failure => simp [failureOf?, read] at fine

/-- What is left out first is the first file that fails, with its failure. -/
theorem firstFails_of_skippedOf_cons {paths : List Path} {first : Skipped} {rest : List Skipped}
    (held : skippedOf tree workingPlace paths = first :: rest) :
    ∃ failure, first.failure = some failure ∧ FirstFails tree workingPlace paths failure := by
  obtain ⟨before, path, after, rfl, fine, listed, -⟩ := List.filterMap_eq_cons_iff.mp held
  obtain ⟨failure, failed, rfl⟩ := Option.map_eq_some_iff.mp listed
  have earlierRead : ∀ earlier ∈ before, ∃ c, tree.readClass workingPlace earlier = .ok c :=
    exists_class_of_skippedOf_nil tree workingPlace (List.filterMap_eq_nil_iff.mpr fine)
  refine ⟨failure, rfl, before, path, after, rfl, earlierRead, ?_⟩
  cases read : tree.readClass workingPlace path with
  | ok c => simp [failureOf?, read] at failed
  | error other => rw [failureOf?, read] at failed; rw [Option.some.inj failed]

/-- Outcomes describe the classes that their files describe. -/
theorem described_outcomesOf (paths : List Path) :
    (outcomesOf tree workingPlace paths).filterMap Outcome.described? =
      classesOf tree workingPlace paths := by
  rw [outcomesOf, List.filterMap_map]
  rfl

/-- Outcomes fail as their files do. -/
theorem skipped_outcomesOf (paths : List Path) :
    (outcomesOf tree workingPlace paths).filterMap Outcome.skipped? =
      skippedOf tree workingPlace paths := by
  rw [outcomesOf, List.filterMap_map]
  rfl

end

section
variable (settings : ScanSettings) (context : Context) (tree : Node) (workingPlace : Place)
  (root : Path) (paths : List Path) (finishes : context.FinishesAll)
  (searched : (searchOf settings).run tree workingPlace root = .ok paths)
include finishes searched

/-- A scan that leaves failing files out comes to its result. -/
theorem run_lenient (lenient : settings.skipInvalid = true) :
    (run settings context tree workingPlace root).1 =
      .ok (resultOf tree workingPlace settings.tagType context.duration root paths) := by
  rw [run_outcome settings context tree workingPlace root finishes, searched, Except.bind, lenient,
    judgeAll_lenient, described_outcomesOf, skipped_outcomesOf]
  rfl

/-- So does a scan that leaves none out, if no file fails. -/
theorem run_of_skippedOf_nil (none : skippedOf tree workingPlace paths = []) :
    (run settings context tree workingPlace root).1 =
      .ok (resultOf tree workingPlace settings.tagType context.duration root paths) := by
  cases lenient : settings.skipInvalid with
  | true =>
    exact run_lenient settings context tree workingPlace root paths finishes searched lenient
  | false =>
    have fine : (outcomesOf tree workingPlace paths).findSome? Outcome.failure? = Option.none := by
      rw [outcomesOf, List.findSome?_map, List.findSome?_eq_none_iff]
      intro path among
      obtain ⟨c, read⟩ := exists_class_of_skippedOf_nil tree workingPlace none path among
      simp [Outcome.failure?, read]
    rw [run_outcome settings context tree workingPlace root finishes, searched, Except.bind,
      lenient, judgeAll_strict, fine, described_outcomesOf, resultOf, none]
    rfl

/-- Otherwise it ends with the failure of the first. -/
theorem run_strict_of_cons (strict : settings.skipInvalid = false) (first : Skipped)
    (rest : List Skipped) (held : skippedOf tree workingPlace paths = first :: rest) :
    ∃ failure, first.failure = some failure ∧
      (run settings context tree workingPlace root).1 = .error (.failure failure) := by
  obtain ⟨failure, same, fails⟩ := firstFails_of_skippedOf_cons tree workingPlace held
  exact ⟨failure, same, run_of_firstFails settings context tree workingPlace root paths failure
    finishes strict searched fails⟩

end

end TagAudit.Scan
