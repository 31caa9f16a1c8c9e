import TagAudit.CommandLine.Request
import TagAudit.CommandLine.Speech
import TagAudit.Scan

/-!
# Running the program

A run is a function of what surrounds it: the file tree, the environment, the time and the
arguments. It yields how the run ends, all that is written in order, and the tree with the log files
that were written.

The command loads the settings of the project, sets up the log as they say, chooses the directory of
classes, scans it and says how that went. With verbose output the log goes to the error stream from
the least level on, whatever the settings say about it. What goes wrong on the way ends the run.
-/

namespace TagAudit.CommandLine

/-- What surrounds a run. -/
structure Surroundings where
  tree : Node
  workingPlace : Place
  homes : Homes
  /-- The settings document of the user. -/
  userDocument : Path
  environment : Environment
  /-- The time at which log entries are made. -/
  time : Text
  scanId : Text
  /-- Whether the error stream is a terminal. -/
  terminal : Bool := false
  /-- The console on the error stream. -/
  console : Console := .ofWidth 80 false
  /-- How long the scan takes. -/
  duration : Duration := .zero

/-- The course of a run. -/
structure Course where
  ending : Ending
  /-- What is written, in order. -/
  written : List Log.Written
  /-- The file tree after the run. -/
  tree : Node

namespace Course

/-- What a run writes to the output stream. -/
def output (course : Course) : Text := Log.Routing.writtenTo .stdout course.written

/-- What a run writes to the error stream, which shows surrogates by their numbers. -/
def errorOutput (course : Course) : Text :=
  Console.withoutSurrogates (Log.Routing.writtenTo .stderr course.written)

/-- A run that ends after a text on the error stream. Only a terminal gets escape sequences. -/
def toldOnly (terminal : Bool) (tree : Node) (ending : Ending) (told : Text) : Course :=
  ⟨ending, [(.stderr, if terminal then told else Console.withoutEscapes 0 told)], tree⟩

/-- A run that breaks down without a word. -/
def broken (tree : Node) (cause : Breakdown) : Course := ⟨.brokeDown cause, [], tree⟩

end Course

/-- The settings that the options of the command stand for. -/
def CheckRequest.overrides (request : CheckRequest) : Keyed Key Data :=
  let given : List (Option (Text × Data)) :=
    [request.failOnError.map fun on => ("fail_on_error", .bool on),
      if request.skipInvalid then some ("skip_invalid", .bool true) else none,
      request.workers.map fun n => ("max_workers", .int n),
      request.tagType.map fun t => ("tag_annotation", .text t)]
  match given.filterMap id with
  | [] => []
  | settings => [(.text "scan", .ofFields settings)]

/-- What the options stand for has an end. -/
theorem CheckRequest.holdsEndless_overrides (request : CheckRequest) :
    Data.holdsEndless request.overrides = false := by
  rcases request with ⟨classesDir, project, failOnError, skipInvalid, workers, tagType, json⟩
  cases failOnError <;> cases skipInvalid <;> cases workers <;> cases tagType <;> rfl

namespace Surroundings

/-- Loads the settings for a request on a project. -/
def loadSettings (s : Surroundings) (project : Path) (request : CheckRequest) :
    Except SettingsProblem Settings :=
  Settings.load {
    tree := s.tree
    workingPlace := s.workingPlace
    user := s.userDocument
    project := project
    homes := s.homes
    environment := s.environment
    overrides := request.overrides
    ends := request.holdsEndless_overrides }

/-- Sets up the log. -/
def openLog (s : Surroundings) (verbose : Bool) (settings : LogSettings) :
    LogSettings × OpenedOutputs :=
  let settings := if verbose then .simple .debug .console else settings
  (settings, s.tree.openOutputs s.workingPlace settings.outputs)

/-- Scans a directory and says how that went, with the log set up. -/
def scan (s : Surroundings) (routing : Log.Routing) (settings : ScanSettings) (json : Bool)
    (root : Path) : Ending × List Log.Written :=
  let context : Scan.Context :=
    { logger := .named "analysis", scanId := s.scanId, terminal := s.terminal,
      duration := s.duration }
  let (outcome, events) := Scan.run settings context s.tree s.workingPlace root
  let muted := Log.Event.mutedAfterAll false events
  let (ending, speech) : Ending × List Utterance := match outcome with
    | .error (.unaskable problem) => (.brokeDown (.root problem), [])
    | .error (.failure failure) => (.scanFailed failure, Speech.ofFailure json failure)
    | .ok result =>
      (.scanned result settings.failOnError, Speech.ofResult json settings.failOnError result)
  let (said, problem?) := Utterance.writtenAll s.console
    (fun e => routing.deliver muted ⟨e, s.time, false⟩) speech
  ((problem?.map fun problem => Ending.brokeDown (.markup problem)).getD ending,
    routing.deliverAll s.time false events ++ said)

/-- Goes on after the settings are loaded. -/
def checkWith (s : Surroundings) (verbose : Bool) (request : CheckRequest) (project : Path)
    (settings : Settings) : Course :=
  let (log, opened) := s.openLog verbose settings.log
  match opened.problem with
  | some problem => .broken opened.tree (.path problem)
  | none =>
    let s := { s with tree := opened.tree }
    match ClassesDir.choose s.tree s.workingPlace s.homes project request.classesDir
        settings.scan.classesDir with
    | .error (.noneFound project) =>
      .toldOnly s.terminal s.tree (.noClasses project)
        ("Error: " ++ ClassesDir.noneFoundMessage project ++ "\n")
    | .error .circular => .broken s.tree .circular
    | .error (.unusable problem) => .broken s.tree (.path problem)
    | .error .unknownHome => .broken s.tree .unknownHome
    | .ok root =>
      let (ending, written) := s.scan (.outputs ⟨log.level, opened.outputs⟩) settings.scan
        request.json root
      ⟨ending, written, s.tree.append s.workingPlace written⟩

/-- Checks a project. -/
def check (s : Surroundings) (verbose : Bool) (request : CheckRequest) : Course :=
  match s.tree.realPath s.workingPlace request.project with
  | .error .tooManyLinks => .broken s.tree .circular
  | .error problem => .broken s.tree (.path problem)
  | .ok project =>
    match s.loadSettings project request with
    | .error (.failure failure) =>
      .toldOnly s.terminal s.tree (.settingsRefused failure) (failure.line ++ "\n")
    | .error problem => .broken s.tree (.settings problem)
    | .ok settings => s.checkWith verbose request project settings

/-- The line about the version. -/
def versionLine : Text := "tagcheck, version 0.1.0\n"

/-- Runs the program. -/
def run (s : Surroundings) (arguments : List Text) : Course :=
  match Request.ofArguments s.tree s.workingPlace arguments with
  | .error (.noPath problem) => .broken s.tree (.path problem)
  | .error (.misused level misuse) =>
    .toldOnly s.terminal s.tree (.misused level misuse) (misuse.report level)
  | .ok .version => ⟨.shown, [(.stdout, versionLine)], s.tree⟩
  | .ok (.help level) => ⟨.shown, [(.stdout, level.help)], s.tree⟩
  | .ok (.check verbose request) => s.check verbose request

end Surroundings

end TagAudit.CommandLine
