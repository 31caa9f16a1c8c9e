import TagAudit.Proofs.CommandLine.ExitCode
import TagAudit.Proofs.Data.Ascii
import TagAudit.Proofs.Log.Routing
import TagAudit.Proofs.Scan.Verdict
import TagAudit.Proofs.Tags.Replacement

/-!
# Output for machines

A run that is asked for output for machines leaves exactly one document on the output stream if its
scan ends, and nothing if it does not get that far. Log entries, the progress bar and whatever is
said about settings go elsewhere, as long as no output of the log is the output stream. The document
is JSON text, which is plain, so nothing is taken out of it on the way.

The exit code, the status in the document and its number of conflicts agree: a result with conflicts
is dirty, and a result that is dirty has some.
-/

namespace TagAudit

/-- Nothing is taken out of a plain text. -/
theorem Console.withoutEscapes_of_isPlain {t : Text} (plain : t.IsPlain) :
    withoutEscapes 0 t = t := by
  induction t with
  | nil => simp [withoutEscapes]
  | cons c rest inductionHypothesis =>
    obtain ⟨first, others⟩ := Text.isPlain_cons_iff.mp plain
    have noEscape : c.val ≠ 0x1B := by
      rcases first with lineFeed | printable <;> omega
    have kept := inductionHypothesis others
    cases rest with
    | nil => simp [withoutEscapes]
    | cons opening inside =>
      rw [withoutEscapes, if_neg (by simp [noEscape]), kept]

namespace ScanResult

/-- The status in the document of a result is dirty exactly if some class has a conflict. -/
theorem status_eq_dirty_iff (result : ScanResult) :
    result.toData.field? "status" = some (.text "dirty") ↔ result.hasViolations = true := by
  have status : result.toData.field? "status" =
      some (.text (if result.hasViolations then "dirty" else "clean")) := rfl
  have different : ¬(("clean" : Text) = "dirty") := by decide
  rw [status]
  cases result.hasViolations <;> simp [different]

/-- The document of a result counts the conflicts. -/
theorem counted_conflicts (result : ScanResult) :
    result.toData.field? "total_conflicts" = some (.int result.report.total) := rfl

end ScanResult

namespace CommandLine

/-- A single document is written as it is, with a line feed at its end. -/
theorem Utterance.writtenAll_document (console : Console) (record : Log.Entry → List Log.Written)
    (data : Data) : Utterance.writtenAll console record [.document data.jsonIndented] =
      ([(.stdout, data.jsonIndented ++ "\n")], none) := by
  have plain : data.jsonIndented.IsPlain := Data.isPlain_jsonIn (.indented 0) data
  simp [Utterance.writtenAll, Utterance.written, Console.withoutEscapes_of_isPlain plain]

namespace Surroundings

section
variable {s : Surroundings} {verbose : Bool} {request : CheckRequest} {settings : Settings}
  {root : Path} {finish : Except Search.Problem ScanResult}

/-- No output of the log writes to the output stream. With verbose output the log has an output of
its own, whatever the settings say. -/
def SparesOutput (verbose : Bool) (settings : LogSettings) : Prop :=
  verbose = false → ∀ output ∈ settings.outputs, output.destination ≠ .stdout

/-- Then none of the outputs that are opened does. -/
theorem SparesOutput.opened (spares : SparesOutput verbose settings.log) :
    ∀ output ∈ (s.opened verbose settings).outputs, output.destination ≠ .stdout := by
  intro output among
  have due : output ∈ (s.openLog verbose settings.log).1.outputs :=
    Node.subset_of_openOutputs among
  cases verbose with
  | false => exact spares rfl output due
  | true =>
    rw [List.mem_singleton.mp due]
    decide

/-- A scan writes its log and then what is said about its end. -/
theorem scan_written (s : Surroundings) (routing : Log.Routing) (settings : ScanSettings)
    (json : Bool) (root : Path) :
    ∃ record : Log.Entry → List Log.Written,
      (s.scan routing settings json root).2 =
        routing.deliverAll s.time false
            (Scan.run settings s.scanContext s.tree s.workingPlace root).2 ++
          (Utterance.writtenAll s.console record (speechAbout json settings.failOnError
            (Scan.run settings s.scanContext s.tree s.workingPlace root).1)).1 := by
  refine ⟨fun e => routing.deliver (Log.Event.mutedAfterAll false
    (Scan.run settings s.scanContext s.tree s.workingPlace root).2) ⟨e, s.time, false⟩, ?_⟩
  unfold scan
  rw [← scanContext]
  dsimp only
  rcases Scan.run settings s.scanContext s.tree s.workingPlace root with
    ⟨(failure | problem) | result, events⟩ <;> rfl

/-- What a run writes to the output stream after its log is set up is what it says about the end of
the scan. -/
theorem writtenTo_stdout_scan (s : Surroundings) (log : LogSettings)
    (spares : ∀ output ∈ log.outputs, output.destination ≠ .stdout) (scan : ScanSettings)
    (json : Bool) (root : Path) :
    ∃ record : Log.Entry → List Log.Written,
      Log.Routing.writtenTo .stdout (s.scan (.outputs log) scan json root).2 =
        Log.Routing.writtenTo .stdout (Utterance.writtenAll s.console record
          (speechAbout json scan.failOnError
            (Scan.run scan s.scanContext s.tree s.workingPlace root).1)).1 := by
  obtain ⟨record, written⟩ := s.scan_written (.outputs log) scan json root
  refine ⟨record, ?_⟩
  rw [written, Log.Routing.writtenTo_append,
    Log.Routing.writtenTo_stdout_deliverAll spares s.time false, List.nil_append]

/-- The output stream holds what is said about the end of the scan, if the log spares it. -/
theorem Scans.output_eq (scanned : s.Scans verbose request settings root finish)
    (spares : SparesOutput verbose settings.log) :
    ∃ record : Log.Entry → List Log.Written,
      (s.check verbose request).output = Log.Routing.writtenTo .stdout
        (Utterance.writtenAll s.console record
          (speechAbout request.json settings.scan.failOnError finish)).1 := by
  obtain rfl := scanned.ended
  obtain ⟨record, told⟩ := writtenTo_stdout_scan
    { s with tree := (s.opened verbose settings).tree }
    ⟨(s.openLog verbose settings.log).1.level, (s.opened verbose settings).outputs⟩
    spares.opened settings.scan request.json root
  refine ⟨record, Eq.trans ?_ told⟩
  rw [Course.output, scanned.check_eq.2]

/-- With output for machines the output stream holds one document if the end of the scan can be
told. -/
theorem Scans.output_forMachines (scanned : s.Scans verbose request settings root finish)
    (spares : SparesOutput verbose settings.log) (machines : request.json = true) :
    (∀ failure, finish = .error (.failure failure) →
      (s.check verbose request).output = Speech.failureDocument failure ++ "\n") ∧
    ∀ result, finish = .ok result →
      (s.check verbose request).output = result.json ++ "\n" := by
  obtain ⟨record, told⟩ := scanned.output_eq spares
  rw [told, machines]
  constructor
  · rintro failure rfl
    have said : speechAbout true settings.scan.failOnError (.error (.failure failure)) =
        [.document (Speech.failureDocument failure)] := rfl
    rw [said, Speech.failureDocument, Utterance.writtenAll_document]
    simp [Log.Routing.writtenTo]
  · rintro result rfl
    have said : speechAbout true settings.scan.failOnError (.ok result) =
        [.document result.json] := rfl
    rw [said, ScanResult.json, Utterance.writtenAll_document]
    simp [Log.Routing.writtenTo]

end

/-- What is told on the error stream alone leaves the output stream empty. -/
theorem output_toldOnly (terminal : Bool) (tree : Node) (ending : Ending) (told : Text) :
    (Course.toldOnly terminal tree ending told).output = [] := rfl

/-- The scan of a directory that is dirty has a report that counts conflicts. -/
theorem hasViolations_iff_total_pos {s : Surroundings} {verbose : Bool} {settings : Settings}
    {root : Path} {result : ScanResult} (completed : s.scanEnd verbose settings root = .ok result) :
    result.hasViolations = true ↔ 0 < result.report.total := by
  have finishes : s.scanContext.FinishesAll := fun count number inside => List.mem_range.mpr inside
  obtain ⟨paths, -, report⟩ := Scan.report_of_run settings.scan s.scanContext _ s.workingPlace root
    result finishes completed
  rw [report, Report.total_pos_iff, ← report]
  simp [ScanResult.hasViolations]

/-- A run that is asked for output for machines, on a project with a real path, keeps the output
stream for them. Settings that are refused and a directory of classes that is not found leave it
empty and end the run with two. The scan of a directory leaves exactly one document there, as
indented JSON text with a line feed behind it: one about its failure, and then the run ends with two,
or the result as data, and then the run ends with one if there are conflicts that fail it, and
otherwise with zero. The document of a result says that it is dirty exactly if it counts conflicts. -/
theorem run_forMachines (s : Surroundings) (arguments : List Text) {verbose : Bool}
    {request : CheckRequest} {project : Path}
    (asked : Request.ofArguments s.tree s.workingPlace arguments = .ok (.check verbose request))
    (machines : request.json = true)
    (real : s.tree.realPath s.workingPlace request.project = .ok project) :
    (∀ failure, s.loadSettings project request = .error (.failure failure) →
      (s.run arguments).output = [] ∧ (s.run arguments).ending.exitCode = 2) ∧
    ∀ settings, s.loadSettings project request = .ok settings →
      (s.opened verbose settings).problem = none → SparesOutput verbose settings.log →
      (∀ under, s.chosen verbose request project settings = .error (.noneFound under) →
        (s.run arguments).output = [] ∧ (s.run arguments).ending.exitCode = 2) ∧
      ∀ root, s.chosen verbose request project settings = .ok root →
        (∀ failure, s.scanEnd verbose settings root = .error (.failure failure) →
          (s.run arguments).output =
            (Data.ofFields [("status", .text "error"), ("error", failure.toData)]).jsonIndented
              ++ "\n" ∧
          (s.run arguments).ending.exitCode = 2) ∧
        ∀ result, s.scanEnd verbose settings root = .ok result →
          (s.run arguments).output = result.toData.jsonIndented ++ "\n" ∧
          (s.run arguments).ending.exitCode =
            (if result.hasViolations && settings.scan.failOnError then 1 else 0) ∧
          (result.hasViolations = true ↔ 0 < result.report.total) ∧
          (result.toData.field? "status" = some (.text "dirty") ↔ 0 < result.report.total) ∧
          result.toData.field? "total_conflicts" = some (.int result.report.total) := by
  have checked : s.run arguments = s.check verbose request := by
    rw [run, asked]
  rw [checked]
  constructor
  · intro failure refused
    simp only [check, real, refused]
    exact ⟨output_toldOnly _ _ _ _, rfl⟩
  intro settings loaded opened spares
  constructor
  · intro under missing
    rw [Surroundings.opened] at opened
    rw [chosen, Surroundings.opened] at missing
    simp only [check, real, loaded, checkWith, opened, missing]
    exact ⟨output_toldOnly _ _ _ _, rfl⟩
  intro root found
  have scans (finish : Except Search.Problem ScanResult)
      (ended : s.scanEnd verbose settings root = finish) :
      s.Scans verbose request settings root finish :=
    ⟨⟨project, ⟨real, loaded⟩, opened, found⟩, ended⟩
  have code (finish : Except Search.Problem ScanResult)
      (ended : s.scanEnd verbose settings root = finish)
      (askable : ∀ problem, finish ≠ .error (.unaskable problem)) :
      (s.check verbose request).ending.exitCode =
        codeFor (finish.toOption.map fun result => (result, settings.scan.failOnError)) := by
    rw [← (scans finish ended).completedScan?_eq]
    have forMachines : request.forMachines = request := by
      rw [CheckRequest.forMachines, ← machines]
    refine (scans finish ended).exitCode_of_said askable ?_
    rw [← forMachines]
    exact not_unsaid_forMachines
  constructor
  · intro failure failed
    refine ⟨((scans _ failed).output_forMachines spares machines).1 failure rfl, ?_⟩
    rw [code _ failed (by intro problem same; cases same)]
    rfl
  · intro result completed
    have dirty := hasViolations_iff_total_pos completed
    refine ⟨((scans _ completed).output_forMachines spares machines).2 result rfl, ?_, dirty,
      (ScanResult.status_eq_dirty_iff result).trans dirty, ScanResult.counted_conflicts result⟩
    rw [code _ completed (by intro problem same; cases same)]
    rfl

/-- A project with a directory of classes that is dirty. -/
def sharingProject : Surroundings :=
  { emptyProject with tree := Scan.sharingTree, workingPlace := [] }

/-- The arguments that ask for its document. -/
def sharingArguments : List Text :=
  ["check", "--annotation", "LTag;", "--skip-invalid", "--json", "--workers", "2", "out"]

/-- What they ask for. -/
def sharingRequest : CheckRequest :=
  { classesDir := some (.ofText "out"), skipInvalid := true, workers := some 2,
    tagType := some "LTag;", json := true }

/-- The document on that project is dirty, and the run ends with one. A file that is left out and
several readers make no difference. -/
theorem sharingProject_told :
    Request.ofArguments sharingProject.tree sharingProject.workingPlace sharingArguments =
      .ok (.check false sharingRequest) ∧
    sharingRequest.json = true ∧
    sharingProject.tree.realPath sharingProject.workingPlace sharingRequest.project =
      .ok (.ofText "/") ∧
    ∃ result : ScanResult,
      (sharingProject.run sharingArguments).output = result.toData.jsonIndented ++ "\n" ∧
      (sharingProject.run sharingArguments).ending.exitCode = 1 ∧
      result.toData.field? "status" = some (.text "dirty") := by
  have asked : Request.ofArguments sharingProject.tree sharingProject.workingPlace
      sharingArguments = .ok (.check false sharingRequest) := rfl
  have real : sharingProject.tree.realPath sharingProject.workingPlace sharingRequest.project =
      .ok (.ofText "/") := rfl
  have loaded : sharingProject.loadSettings (.ofText "/") sharingRequest =
      .ok { scan := Scan.lenientSettings } := rfl
  have chosen : sharingProject.chosen false sharingRequest (.ofText "/")
      { scan := Scan.lenientSettings } = .ok ⟨1, ["out"]⟩ := rfl
  have finishes : sharingProject.scanContext.FinishesAll :=
    fun count number inside => List.mem_range.mpr inside
  obtain ⟨paths, searched⟩ : ∃ paths, (Scan.searchOf Scan.lenientSettings).run Scan.sharingTree []
      ⟨1, ["out"]⟩ = .ok paths := ⟨_, rfl⟩
  obtain ⟨result, completed⟩ := Scan.run_of_skipInvalid Scan.lenientSettings
    sharingProject.scanContext Scan.sharingTree [] ⟨1, ["out"]⟩ paths finishes rfl searched
  have dirty := (Scan.hasViolations_iff Scan.lenientSettings sharingProject.scanContext
    Scan.sharingTree [] ⟨1, ["out"]⟩ result finishes completed).mpr Scan.sharingTree_finds
  have spares : SparesOutput false ({ scan := Scan.lenientSettings } : Settings).log := by
    intro _ output among
    rw [List.mem_singleton.mp among]
    decide
  obtain ⟨written, code, -, status, -⟩ := (((run_forMachines sharingProject sharingArguments asked
    rfl real).2 _ loaded rfl spares).2 _ chosen).2 result completed
  refine ⟨asked, rfl, real, result, written, ?_, ?_⟩
  · rw [code, dirty]
    rfl
  · exact (ScanResult.status_eq_dirty_iff result).mpr dirty

end Surroundings

end CommandLine

end TagAudit
