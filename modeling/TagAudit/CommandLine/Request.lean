import TagAudit.CommandLine.Words
import TagAudit.Data
import TagAudit.FileTree
import TagAudit.Text.Integer

/-!
# What the arguments ask for

The program shows its version or its help, or runs its one command on a project. Help and version
come before everything else that the arguments say, once the arguments can be read at all.

The values of options are judged in the order in which the options were first given, after them the
directory of classes, and at last whether there are too many words.
-/

namespace TagAudit.CommandLine

/-- The options of the program. -/
inductive ProgramOption where
  | verbose | version | help
deriving DecidableEq

/-- The options of the command. -/
inductive CheckOption where
  | project | failOnError | skipInvalid | workers | tagType | json | help
deriving DecidableEq

/-- How the options of the program are spelled. -/
def programGrammar : Grammar ProgramOption where
  long := [("--version", .version, some true), ("--verbose", .verbose, some true),
    ("--help", .help, some true)]
  short := [('v', .verbose)]
  interspersed := false

/-- How the options of the command are spelled. -/
def checkGrammar : Grammar CheckOption where
  long := [("--project", .project, none), ("--fail-on-error", .failOnError, some true),
    ("--no-fail-on-error", .failOnError, some false), ("--skip-invalid", .skipInvalid, some true),
    ("--workers", .workers, none), ("--annotation", .tagType, none), ("--json", .json, some true),
    ("--help", .help, some true)]
  short := []
  interspersed := true

/-- What the command is asked to do. What is not said is left to the settings. -/
structure CheckRequest where
  classesDir : Option Path := none
  project : Path := .ofText "."
  failOnError : Option Bool := none
  skipInvalid : Bool := false
  workers : Option Int := none
  tagType : Option Text := none
  /-- Whether the result is written for machines. -/
  json : Bool := false
deriving DecidableEq

/-- What the arguments ask for. -/
inductive Request where
  | version
  | help (level : Level)
  | check (verbose : Bool) (request : CheckRequest)

/-- Why arguments do not get as far as a request. -/
inductive Refused where
  | misused (level : Level) (misuse : Misuse)
  /-- Something that was typed can be no path. -/
  | noPath (problem : PathProblem)

/-- What stands at a path as it was typed. A path that ends in a slash or a dot leads to nothing but
    directories. Of what can be no path it cannot even be asked. -/
def typedNode? (tree : Node) (workingPlace : Place) (typed : Text) :
    Except Refused (Option Node) :=
  let found := ((tree.find workingPlace (.ofText typed)).toOption).map Prod.snd
  let last := (Text.parts '/' typed).getLast?.getD []
  match typed.pathProblem? with
  | some .nameTooLong => .ok none
  | some problem => .error (.noPath problem)
  | none =>
    if typed.isEmpty then .ok none
    else if last.isEmpty || last = Text.ofString "." then .ok (found.filter Node.isDirectory)
    else .ok found

/-- The integer that a value spells. -/
def integer? (t : Text) : Option Int :=
  let spelled := t.trimmed CodePoint.isBlank
  if Text.digitLimit < (spelled.filter fun c => (Text.decimalValue? c).isSome).length then none
  else Text.signed? (Text.unsigned? Text.decimalValue?) spelled

namespace CheckRequest

/-- The refusal of arguments for a misuse of the command. -/
def misuse {α : Type} (misuse : Misuse) : Except Refused α := .error (.misused .command misuse)

/-- The request with what was said about one option. -/
def withSetting (tree : Node) (workingPlace : Place) (request : CheckRequest) :
    CheckOption × Setting → Except Refused CheckRequest
  | (.project, .value t) => do
    match ← typedNode? tree workingPlace t with
    | none => misuse (.projectMissing t)
    | some (.file _) => misuse (.projectIsFile t)
    | some _ => return { request with project := .ofText t }
  | (.workers, .value t) =>
    match integer? t with
    | none => misuse (.notInteger t)
    | some n => if n < 1 then misuse (.belowOne n) else .ok { request with workers := some n }
  | (.tagType, .value t) => .ok { request with tagType := some t }
  | (.failOnError, .switch on) => .ok { request with failOnError := some on }
  | (.skipInvalid, .switch on) => .ok { request with skipInvalid := on }
  | (.json, .switch on) => .ok { request with json := on }
  | _ => .ok request

/-- The request with the words that are no options. -/
def withOthers (tree : Node) (workingPlace : Place) (request : CheckRequest) :
    List Text → Except Refused CheckRequest
  | [] => .ok request
  | typed :: extra => do
    match ← typedNode? tree workingPlace typed, extra with
    | some (.file _), _ => misuse (.classesDirIsFile typed)
    | _, [] => return { request with classesDir := some (.ofText typed) }
    | _, first :: others => misuse (.extraArguments first others)

end CheckRequest

namespace Request

/-- What the arguments of the command ask for. -/
def ofCheckArguments (tree : Node) (workingPlace : Place) (verbose : Bool) (arguments : List Text) :
    Except Refused Request := do
  let words ← (checkGrammar.read arguments).mapError (.misused .command)
  if words.options.any fun given => given.1 = .help then return .help .command
  let request ← words.settled.foldlM (CheckRequest.withSetting tree workingPlace) {}
  return .check verbose (← request.withOthers tree workingPlace words.others)

/-- What the options of the program ask for by themselves, if anything. -/
def early? (words : Words ProgramOption) : Option Request :=
  words.options.findSome? fun given =>
    match given.1 with
    | .version => some .version
    | .help => some (.help .program)
    | .verbose => none

/-- The command's name. -/
def commandName : Text := "check"

/-- What the arguments ask for, or why they do not get that far. A name that is no
    command is looked at once more as an option, because it may stand after the end of options. -/
def ofArguments (tree : Node) (workingPlace : Place) (arguments : List Text) :
    Except Refused Request := do
  let program := Refused.misused .program
  if arguments.isEmpty then throw (program .noArguments)
  let words ← (programGrammar.read arguments).mapError program
  match early? words, words.others with
  | some request, _ => return request
  | none, [] => throw (program .missingCommand)
  | none, name :: rest =>
    if name = commandName then
      ofCheckArguments tree workingPlace (words.options.any fun given => given.1 = .verbose) rest
    else
      match early? (← (programGrammar.read (name :: rest)).mapError program) with
      | some request => return request
      | none => throw (program (.noCommand name (Text.alikeTo name [commandName])))

end Request

end TagAudit.CommandLine
