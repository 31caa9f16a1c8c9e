import Mathlib.Data.Option.Basic
import TagAudit.CommandLine.Run
import TagAudit.Proofs.CommandLine.Arguments

/-!
# What exit codes tell

A build tool is promised three codes: zero if a scan was completed and nothing fails the run, one if
it was completed with conflicts that do, and two whatever else happens. The promise is a function of
what surrounds a run and of its arguments.

It is kept except where a run meets an obstacle that it is not prepared for, or has to say something
that the style markup does not let it say. Then the code is one, which tells of conflicts where none
were found. What is said to machines passes through no markup, so asking for output for machines may
change the code.
-/

namespace TagAudit.CommandLine

namespace Surroundings

variable (s : Surroundings)

/-- What a completed scan and its settings promise of the exit code, or else that there is none. -/
def codeFor : Option (ScanResult × Bool) → Nat
  | some (result, failOnError) => if result.hasViolations && failOnError then 1 else 0
  | none => 2

/-- The circumstances of the scan of a run. -/
def scanContext : Scan.Context :=
  { logger := .named "analysis", scanId := s.scanId, terminal := s.terminal,
    duration := s.duration }

/-- What is said about the end of a scan. -/
def speechAbout (json failOnError : Bool) : Except Search.Problem ScanResult → List Utterance
  | .error (.unaskable _) => []
  | .error (.failure failure) => Speech.ofFailure json failure
  | .ok result => Speech.ofResult json failOnError result

/-- How a run ends after the end of its scan, as long as that can be said. -/
def endingOf (failOnError : Bool) : Except Search.Problem ScanResult → Ending
  | .error (.unaskable problem) => .brokeDown (.root problem)
  | .error (.failure failure) => .scanFailed failure
  | .ok result => .scanned result failOnError

section
variable (verbose : Bool) (request : CheckRequest)

/-- A project has a real path, and its settings are loaded. -/
structure Configures (project : Path) (settings : Settings) : Prop where
  real : s.tree.realPath s.workingPlace request.project = .ok project
  loaded : s.loadSettings project request = .ok settings

/-- The outputs of the log when they were opened. -/
def opened (settings : Settings) : OpenedOutputs := (s.openLog verbose settings.log).2

/-- The directory of classes that is chosen when the log is set up. -/
def chosen (project : Path) (settings : Settings) : Except ClassesDir.Problem Path :=
  ClassesDir.choose (s.opened verbose settings).tree s.workingPlace s.homes project
    request.classesDir settings.scan.classesDir

/-- How the scan of a directory ends when the log is set up. -/
def scanEnd (settings : Settings) (root : Path) : Except Search.Problem ScanResult :=
  (Scan.run settings.scan s.scanContext (s.opened verbose settings).tree s.workingPlace root).1

/-- The result of the scan that a request leads to and whether conflicts are to fail the run, if the
scan is completed. -/
def completedScan? : Option (ScanResult × Bool) := do
  let project ← (s.tree.realPath s.workingPlace request.project).toOption
  let settings ← (s.loadSettings project request).toOption
  guard (s.opened verbose settings).problem.isNone
  let root ← (s.chosen verbose request project settings).toOption
  let result ← (s.scanEnd verbose settings root).toOption
  return (result, settings.scan.failOnError)

/-- A request leads to the scan of a directory, which ends in some way. -/
structure Scans (settings : Settings) (root : Path) (finish : Except Search.Problem ScanResult) :
    Prop where
  prepared : ∃ project, s.Configures request project settings ∧
    (s.opened verbose settings).problem = none ∧
    s.chosen verbose request project settings = .ok root
  ended : s.scanEnd verbose settings root = finish

/-- What a run is not prepared for on the way to the end of its scan. -/
inductive Obstacle : Prop where
  /-- The way to the project leads in circles, or it is no path at all. -/
  | project (problem : PathProblem)
      (unreal : s.tree.realPath s.workingPlace request.project = .error problem)
  /-- A settings document is no text, the environment holds something unreadable, and the like. -/
  | settings (project : Path) (problem : SettingsProblem)
      (real : s.tree.realPath s.workingPlace request.project = .ok project)
      (unloaded : s.loadSettings project request = .error problem)
      (unreported : ∀ failure, problem ≠ .failure failure)
  /-- A log file cannot be opened. -/
  | log (project : Path) (settings : Settings) (problem : PathProblem)
      (configured : s.Configures request project settings)
      (unopened : (s.opened verbose settings).problem = some problem)
  /-- The directory of classes that is named cannot be had. -/
  | classesDir (project : Path) (settings : Settings) (problem : ClassesDir.Problem)
      (configured : s.Configures request project settings)
      (opened : (s.opened verbose settings).problem = none)
      (unchosen : s.chosen verbose request project settings = .error problem)
      (unreported : ∀ project, problem ≠ .noneFound project)
  /-- It cannot be asked whether the directory of classes is there. -/
  | root (settings : Settings) (root : Path) (problem : PathProblem)
      (scanned : s.Scans verbose request settings root (.error (.unaskable problem)))

/-- After its scan a run has to say something that the style markup does not let it say. -/
inductive Unsaid : Prop where
  | status (settings : Settings) (root : Path) (finish : Except Search.Problem ScanResult)
      (style message : Text) (problem : Markup.Problem)
      (scanned : s.Scans verbose request settings root finish)
      (due : .status style message ∈ speechAbout request.json settings.scan.failOnError finish)
      (unshown : Markup.shown message = .error problem)

end

/-- What is said can be written exactly if the style markup lets every status message be shown. -/
theorem writtenAll_problem_eq_none_iff (console : Console)
    (record : Log.Entry → List Log.Written)
    (speech : List Utterance) :
    (Utterance.writtenAll console record speech).2 = none ↔
      ∀ style message problem, .status style message ∈ speech →
        Markup.shown message ≠ .error problem := by
  induction speech with
  | nil => simp [Utterance.writtenAll]
  | cons utterance rest inductionHypothesis =>
    -- Whatever is no status message can be written, so only the others decide.
    have passed (written : List Log.Written)
        (said : utterance.written console record = .ok written) :
        (Utterance.writtenAll console record (utterance :: rest)).2 =
          (Utterance.writtenAll console record rest).2 := by
      rw [Utterance.writtenAll, said]
    cases utterance with
    | document t => simp [passed _ rfl, inductionHypothesis]
    | line t => simp [passed _ rfl, inductionHypothesis]
    | entry e => simp [passed _ rfl, inductionHypothesis]
    | status style message =>
      have plain : (Data.text message).plain = message := rfl
      cases shown : Markup.shown message with
      | ok t =>
        have said : ∃ written,
            (Utterance.status style message).written console record = .ok written := by
          rw [Utterance.written, Console.status, plain, shown]
          exact ⟨_, rfl⟩
        obtain ⟨written, said⟩ := said
        rw [passed written said, inductionHypothesis]
        constructor
        · intro others other text problem among
          rcases List.mem_cons.mp among with first | later
          · cases first
            simp [shown]
          · exact others other text problem later
        · intro all other text problem later
          exact all other text problem (List.mem_cons_of_mem _ later)
      | error problem =>
        have unsaid : (Utterance.status style message).written console record = .error problem := by
          rw [Utterance.written, Console.status, plain, shown]
          rfl
        rw [Utterance.writtenAll, unsaid]
        constructor
        · intro none
          cases none
        · intro all
          exact (all style message problem List.mem_cons_self shown).elim

/-- A scan ends as is told of it, as long as that can be said. -/
theorem scan_ending (routing : Log.Routing) (settings : ScanSettings) (json : Bool) (root : Path) :
    let finish := (Scan.run settings s.scanContext s.tree s.workingPlace root).1
    ∃ record, (s.scan routing settings json root).1 =
      ((Utterance.writtenAll s.console record (speechAbout json settings.failOnError finish)).2.map
        fun problem => .brokeDown (.markup problem)).getD
          (endingOf settings.failOnError finish) := by
  intro finish
  refine ⟨fun e => routing.deliver (Log.Event.mutedAfterAll false
    (Scan.run settings s.scanContext s.tree s.workingPlace root).2) ⟨e, s.time, false⟩, ?_⟩
  rw [scan]
  change ((Option.map _ (Utterance.writtenAll _ _ (match finish with
    | .error (.unaskable problem) => _ | .error (.failure failure) => _
    | .ok result => _ : Ending × List Utterance).2).2).getD (match finish with
    | .error (.unaskable problem) => _ | .error (.failure failure) => _
    | .ok result => _ : Ending × List Utterance).1) = _
  rcases finish with (failure | problem) | result <;> rfl

section
variable {s : Surroundings} {verbose : Bool} {request : CheckRequest} {settings : Settings}
  {root : Path} {finish : Except Search.Problem ScanResult}

/-- The result of a scan that a request leads to is the result that is completed. -/
theorem Scans.completedScan?_eq (scanned : s.Scans verbose request settings root finish) :
    s.completedScan? verbose request =
      finish.toOption.map fun result => (result, settings.scan.failOnError) := by
  obtain ⟨⟨project, ⟨real, loaded⟩, opened, chosen⟩, rfl⟩ := scanned
  simp only [completedScan?, real, loaded, opened, chosen, Except.toOption, Option.isNone_none,
    guard, if_true, bind, Option.bind, pure]
  cases s.scanEnd verbose settings root <;> rfl

/-- A run that gets to its scan ends as the scan does with the log set up, and writes what it does. -/
theorem Scans.check_eq (scanned : s.Scans verbose request settings root finish) :
    let told := { s with tree := (s.opened verbose settings).tree }.scan
      (.outputs ⟨(s.openLog verbose settings.log).1.level, (s.opened verbose settings).outputs⟩)
      settings.scan request.json root
    (s.check verbose request).ending = told.1 ∧ (s.check verbose request).written = told.2 := by
  obtain ⟨⟨project, ⟨real, loaded⟩, opened, chosen⟩, -⟩ := scanned
  rw [Surroundings.opened] at opened
  rw [Surroundings.chosen, Surroundings.opened] at chosen
  simp only [check, real, loaded, checkWith, opened, chosen]
  exact ⟨rfl, rfl⟩

/-- A run that gets to the end of its scan ends as that is told, as long as it can be said. -/
theorem Scans.ending_eq (scanned : s.Scans verbose request settings root finish) :
    ∃ record, (s.check verbose request).ending =
      ((Utterance.writtenAll s.console record
        (speechAbout request.json settings.scan.failOnError finish)).2.map
          fun problem => .brokeDown (.markup problem)).getD
        (endingOf settings.scan.failOnError finish) := by
  obtain rfl := scanned.ended
  obtain ⟨record, told⟩ := scan_ending { s with tree := (s.opened verbose settings).tree }
    (.outputs ⟨(s.openLog verbose settings.log).1.level, (s.opened verbose settings).outputs⟩)
    settings.scan request.json root
  exact ⟨record, scanned.check_eq.1.trans told⟩

/-- A scan that is told without trouble ends the run with the code that it promises. -/
theorem Scans.exitCode_of_said (scanned : s.Scans verbose request settings root finish)
    (askable : ∀ problem, finish ≠ .error (.unaskable problem))
    (said : ¬ s.Unsaid verbose request) :
    (s.check verbose request).ending.exitCode = codeFor (s.completedScan? verbose request) := by
  obtain ⟨record, ending⟩ := scanned.ending_eq
  have written : (Utterance.writtenAll s.console record
      (speechAbout request.json settings.scan.failOnError finish)).2 = none := by
    rw [writtenAll_problem_eq_none_iff]
    intro style message problem due unshown
    exact said ⟨settings, root, finish, style, message, problem, scanned, due, unshown⟩
  rw [ending, written, scanned.completedScan?_eq]
  rcases finish with (failure | problem) | result
  · rfl
  · exact (askable problem rfl).elim
  · rfl

end

section
variable {s : Surroundings} {verbose : Bool} {request : CheckRequest}

/-- What a run is not prepared for ends it with the code of conflicts. -/
theorem Obstacle.exitCode_eq (met : s.Obstacle verbose request) :
    (s.check verbose request).ending.exitCode = 1 := by
  cases met with
  | project problem unreal =>
    rw [check, unreal]
    cases problem <;> rfl
  | settings project problem real unloaded unreported =>
    simp only [check, real, unloaded]
    cases problem with
    | failure failure => exact (unreported failure rfl).elim
    | _ => rfl
  | log project settings problem configured unopened =>
    rw [opened] at unopened
    simp only [check, configured.real, configured.loaded, checkWith, unopened]
    rfl
  | classesDir project settings problem configured opened unchosen unreported =>
    rw [Surroundings.opened] at opened
    rw [Surroundings.chosen, Surroundings.opened] at unchosen
    simp only [check, configured.real, configured.loaded, checkWith, opened, unchosen]
    cases problem with
    | noneFound project => exact (unreported project rfl).elim
    | _ => rfl
  | root settings root problem scanned =>
    obtain ⟨record, ending⟩ := scanned.ending_eq
    rw [ending]
    rfl

/-- So does what cannot be said. -/
theorem Unsaid.exitCode_eq (unsaid : s.Unsaid verbose request) :
    (s.check verbose request).ending.exitCode = 1 := by
  obtain ⟨settings, root, finish, style, message, problem, scanned, due, unshown⟩ := unsaid
  obtain ⟨record, ending⟩ := scanned.ending_eq
  rw [ending]
  cases written : (Utterance.writtenAll s.console record
      (speechAbout request.json settings.scan.failOnError finish)).2 with
  | none =>
    have shown := (writtenAll_problem_eq_none_iff s.console record _).mp written
    exact (shown style message problem due unshown).elim
  | some problem => rfl

/-- Without either a run ends with the code that is promised. -/
theorem exitCode_of_clear (clear : ¬ s.Obstacle verbose request)
    (said : ¬ s.Unsaid verbose request) :
    (s.check verbose request).ending.exitCode = codeFor (s.completedScan? verbose request) := by
  cases real : s.tree.realPath s.workingPlace request.project with
  | error problem => exact (clear (.project problem real)).elim
  | ok project =>
    cases loaded : s.loadSettings project request with
    | error problem =>
      cases problem with
      | failure failure =>
        have none : s.completedScan? verbose request = none := by
          simp only [completedScan?, real, loaded, Except.toOption, bind, Option.bind]
        rw [none, check, real]
        simp only [loaded]
        rfl
      | _ => exact (clear (.settings project _ real loaded (by intro _ same; cases same))).elim
    | ok settings =>
      have configured : s.Configures request project settings := ⟨real, loaded⟩
      cases opened : (s.opened verbose settings).problem with
      | some problem => exact (clear (.log project settings problem configured opened)).elim
      | none =>
        cases chosen : s.chosen verbose request project settings with
        | error problem =>
          cases problem with
          | noneFound under =>
            have none : s.completedScan? verbose request = none := by
              simp only [completedScan?, real, loaded, opened, chosen, Except.toOption,
                Option.isNone_none, guard, if_true, bind, Option.bind, pure]
            rw [Surroundings.opened] at opened
            rw [Surroundings.chosen, Surroundings.opened] at chosen
            rw [none]
            simp only [check, real, loaded, checkWith, opened, chosen]
            rfl
          | _ =>
            exact (clear (.classesDir project settings _ configured opened chosen
              (by intro _ same; cases same))).elim
        | ok root =>
          have scanned : s.Scans verbose request settings root (s.scanEnd verbose settings root) :=
            ⟨⟨project, configured, opened, chosen⟩, rfl⟩
          refine scanned.exitCode_of_said (fun problem unaskable => ?_) said
          rw [unaskable] at scanned
          exact clear (.root settings root problem scanned)

/-- A scan that a request leads to, and that could be asked for, has met no obstacle. -/
theorem Scans.not_obstacle {settings : Settings} {root : Path}
    {finish : Except Search.Problem ScanResult}
    (scanned : s.Scans verbose request settings root finish)
    (askable : ∀ problem, finish ≠ .error (.unaskable problem)) :
    ¬ s.Obstacle verbose request := by
  obtain ⟨⟨project, ⟨real, loaded⟩, opened, chosen⟩, ended⟩ := scanned
  -- A request has one project, and the project one way of being configured.
  have onlyProject (other : Path)
      (otherReal : s.tree.realPath s.workingPlace request.project = .ok other) :
      other = project := Except.ok.inj (otherReal.symm.trans real)
  have only (other : Path) (others : Settings) (configured : s.Configures request other others) :
      other = project ∧ others = settings := by
    obtain rfl := onlyProject other configured.real
    exact ⟨rfl, Except.ok.inj (configured.loaded.symm.trans loaded)⟩
  intro met
  cases met with
  | project problem unreal => cases unreal.symm.trans real
  | settings other problem otherReal unloaded unreported =>
    obtain rfl := onlyProject other otherReal
    cases unloaded.symm.trans loaded
  | log other others problem configured unopened =>
    obtain ⟨rfl, rfl⟩ := only other others configured
    cases unopened.symm.trans opened
  | classesDir other others problem configured otherOpened unchosen unreported =>
    obtain ⟨rfl, rfl⟩ := only other others configured
    cases unchosen.symm.trans chosen
  | root others otherRoot problem otherScanned =>
    obtain ⟨⟨other, configured, otherOpened, otherChosen⟩, otherEnded⟩ := otherScanned
    obtain ⟨rfl, rfl⟩ := only other others configured
    obtain rfl := Except.ok.inj (otherChosen.symm.trans chosen)
    exact askable problem (ended.symm.trans otherEnded)

/-- Whoever has nothing left to say but what cannot be shown has met no obstacle. -/
theorem Unsaid.not_obstacle (unsaid : s.Unsaid verbose request) :
    ¬ s.Obstacle verbose request := by
  obtain ⟨settings, root, finish, style, message, problem, scanned, due, unshown⟩ := unsaid
  refine scanned.not_obstacle fun problem unaskable => ?_
  rw [unaskable] at due
  cases due

/-- Output for machines passes through no markup. -/
theorem not_unsaid_forMachines : ¬ s.Unsaid verbose request.forMachines := by
  rintro ⟨settings, root, finish, style, message, problem, scanned, due, unshown⟩
  rcases finish with (failure | problem) | result
  · simp [speechAbout, Speech.ofFailure, CheckRequest.forMachines] at due
  · cases due
  · simp [speechAbout, Speech.ofResult, CheckRequest.forMachines] at due

/-- What a run is not prepared for is met whomever the output is for. -/
theorem Obstacle.withJson (met : s.Obstacle verbose request) (json : Bool) :
    s.Obstacle verbose { request with json := json } := by
  cases met with
  | project problem unreal => exact .project problem unreal
  | settings project problem real unloaded unreported =>
    exact .settings project problem real unloaded unreported
  | log project settings problem configured unopened =>
    exact .log project settings problem ⟨configured.real, configured.loaded⟩ unopened
  | classesDir project settings problem configured opened unchosen unreported =>
    exact .classesDir project settings problem ⟨configured.real, configured.loaded⟩ opened unchosen
      unreported
  | root settings root problem scanned =>
    obtain ⟨⟨project, configured, prepared⟩, ended⟩ := scanned
    exact .root settings root problem
      ⟨⟨project, ⟨configured.real, configured.loaded⟩, prepared⟩, ended⟩

/-- With output for machines a run ends with the promised code unless it meets what it is not
prepared for. -/
theorem exitCode_forMachines :
    (s.Obstacle verbose request → (s.check verbose request.forMachines).ending.exitCode = 1) ∧
    (¬ s.Obstacle verbose request → (s.check verbose request.forMachines).ending.exitCode =
      codeFor (s.completedScan? verbose request)) := by
  constructor
  · intro met
    exact (met.withJson true).exitCode_eq
  · intro clear
    exact exitCode_of_clear (fun met => clear (met.withJson request.json)) not_unsaid_forMachines

end

section
variable (arguments : List Text)

/-- The result of the scan that arguments lead to and whether conflicts are to fail the run, if the
arguments ask for a check and its scan is completed. -/
def completedBy? : Option (ScanResult × Bool) :=
  match Request.ofArguments s.tree s.workingPlace arguments with
  | .ok (.check verbose request) => s.completedScan? verbose request
  | _ => none

/-- The exit code that is promised of a run of the command. -/
def promisedCode : Nat := codeFor (s.completedBy? arguments)

/-- A run meets what it is not prepared for: a typed path that can be none, or something later. -/
inductive Obstructed : Prop where
  | typed (problem : PathProblem)
      (refused : Request.ofArguments s.tree s.workingPlace arguments = .error (.noPath problem))
  | later (verbose : Bool) (request : CheckRequest)
      (asked : Request.ofArguments s.tree s.workingPlace arguments = .ok (.check verbose request))
      (met : s.Obstacle verbose request)

/-- A run gets as far as a status message that cannot be shown. -/
inductive Silenced : Prop where
  | check (verbose : Bool) (request : CheckRequest)
      (asked : Request.ofArguments s.tree s.workingPlace arguments = .ok (.check verbose request))
      (unsaid : s.Unsaid verbose request)

end

section
variable (arguments : List Text) {verbose : Bool} {request : CheckRequest}
  (asked : Request.ofArguments s.tree s.workingPlace arguments = .ok (.check verbose request))
include asked

/-- Arguments that ask for a check are obstructed if the check is. -/
theorem obstructed_iff : s.Obstructed arguments ↔ s.Obstacle verbose request := by
  constructor
  · rintro (⟨problem, refused⟩ | ⟨verbose, request, check, met⟩)
    · cases asked.symm.trans refused
    · cases asked.symm.trans check
      exact met
  · exact fun met => .later verbose request asked met

/-- Arguments that ask for a check are silenced if the check is. -/
theorem silenced_iff : s.Silenced arguments ↔ s.Unsaid verbose request := by
  constructor
  · rintro ⟨verbose, request, check, unsaid⟩
    cases asked.symm.trans check
    exact unsaid
  · exact fun unsaid => ⟨verbose, request, asked, unsaid⟩

/-- A check for people or for machines ends with the promised code unless something is in the way,
and the two end with the same code unless something cannot be said. -/
theorem exitCode_run_of_asked (machines : List Text)
    (askedToo : Request.ofArguments s.tree s.workingPlace machines =
      .ok (.check verbose request.forMachines)) :
    ((s.run arguments).ending.exitCode = s.promisedCode arguments ↔
      (s.Obstructed arguments ∨ s.Silenced arguments → s.promisedCode arguments = 1)) ∧
    ((s.run machines).ending.exitCode = (s.run arguments).ending.exitCode ↔
      (s.Silenced arguments → s.promisedCode arguments = 1)) := by
  have promised : s.promisedCode arguments = codeFor (s.completedScan? verbose request) := by
    rw [promisedCode, completedBy?, asked]
  have forPeople : s.run arguments = s.check verbose request := by
    rw [run, asked]
  have forMachines : s.run machines = s.check verbose request.forMachines := by
    rw [run, askedToo]
  rw [obstructed_iff s arguments asked, silenced_iff s arguments asked, promised, forPeople,
    forMachines]
  obtain ⟨machinesStuck, machinesClear⟩ := @exitCode_forMachines s verbose request
  by_cases met : s.Obstacle verbose request
  · have talks : ¬ s.Unsaid verbose request := fun unsaid => unsaid.not_obstacle met
    simp [met.exitCode_eq, machinesStuck met, met, talks, eq_comm]
  · by_cases unsaid : s.Unsaid verbose request
    · simp [unsaid.exitCode_eq, machinesClear met, unsaid, eq_comm]
    · simp [exitCode_of_clear met unsaid, machinesClear met, met, unsaid]

end

/-- Arguments that are refused end a run with the code that is promised then, unless a path that was
typed can be none. Nothing is left unsaid. -/
theorem exitCode_run_of_refused (arguments : List Text) {refused : Refused}
    (asked : Request.ofArguments s.tree s.workingPlace arguments = .error refused) :
    s.promisedCode arguments = 2 ∧ ¬ s.Silenced arguments ∧
      ((s.run arguments).ending.exitCode = 2 ↔ ¬ s.Obstructed arguments) := by
  have promised : s.promisedCode arguments = 2 := by
    rw [promisedCode, completedBy?, asked]
    rfl
  refine ⟨promised, ?_, ?_⟩
  · rintro ⟨verbose, request, check, unsaid⟩
    cases asked.symm.trans check
  cases refused with
  | misused level misuse =>
    have code : (s.run arguments).ending.exitCode = 2 := by
      rw [run, asked]
      rfl
    have clear : ¬ s.Obstructed arguments := by
      rintro (⟨problem, refused⟩ | ⟨verbose, request, check, met⟩)
      · cases asked.symm.trans refused
      · cases asked.symm.trans check
    simp [code, clear]
  | noPath problem =>
    have code : (s.run arguments).ending.exitCode = 1 := by
      rw [run, asked]
      rfl
    simp [code, Obstructed.typed problem asked]

/-- A project with nothing in it. -/
def emptyProject : Surroundings where
  tree := .directory [("w", .directory [])]
  workingPlace := ["w"]
  homes := .ofList (some "/home") []
  userDocument := (⟨1, ["home"]⟩ : Path).join Settings.userDocument
  environment := []
  time := []
  scanId := "1"

end Surroundings

end TagAudit.CommandLine
