import TagAudit.CommandLine.Run
import Std.Time

/-!
# The program

A run is a function of what surrounds it. The program looks at those parts of the file system that
a run of its arguments can look at, runs on what it has seen, and writes what the run has written.

What is seen is put into a tree: first the paths among the arguments, then the settings documents,
and at last the directories that may hold the classes, with all that is in them. A link that leads
somewhere is seen as a link to the real path of that.
-/

namespace TagAudit.Program

open CommandLine

/-- The tree with a node at a place, unless a directory that has something in it is there. -/
def seen (place : Place) (node : Node) (tree : Node) : Node :=
  match tree.at? place, node with
  | some (.directory (_ :: _)), .directory [] => tree
  | _, _ => tree.putAt place node

/-- The names that lead from the root to a path as it is written. -/
def placeOf (path : String) : Place := Node.collapse (Path.ofText (.ofString path)).parts

/-- Where a path leads. -/
inductive Lead where
  | realPath (path : String)
  | nowhere
  | inCircles

/-- Finds out where a path leads. Why a path has no real path is known from trying to open it. -/
def leadOf (path : String) : IO Lead := do
  try return .realPath (← IO.FS.realPath path).toString
  catch _ =>
    try
      let _ ← IO.FS.Handle.mk path .read
      return .nowhere
    catch
      | .noFileOrDirectory .. => return .nowhere
      | _ => return .inCircles

/-- The text of a link that leads nowhere: no file has this name. -/
def namelessTarget : Text := [CodePoint.ofNat 0]

/-- Looks at a path that leads somewhere, and with the flag set into files and directories. -/
partial def look (inside : Bool) (path : String) (tree : Node) : IO Node := do
  let .realPath real ← leadOf path | return tree
  let place := placeOf real
  let link : Node := .link (.ofString real)
  let tree := if place = placeOf path then tree else seen (placeOf path) link tree
  let metadata ← (← IO.FS.realPath real).metadata
  match metadata.type, inside with
  | .dir, false => return seen place .empty tree
  | .dir, true =>
    let mut tree := seen place .empty tree
    for entry in ← (← IO.FS.realPath real).readDir do
      let below := entry.path.toString
      let isLink := (← entry.path.symlinkMetadata).type matches .symlink
      match ← leadOf below with
      | .nowhere => tree := seen (placeOf below) (.link namelessTarget) tree
      | .inCircles => tree := seen (placeOf below) (.link (.ofString entry.fileName)) tree
      | .realPath target =>
        let entersDirectory := (← entry.path.metadata).type matches .dir
        if isLink then tree := seen (placeOf below) (.link (.ofString target)) tree
        tree ← look (!(isLink && entersDirectory)) target tree
    return tree
  | _, false => return seen place (.file []) tree
  | _, true => return seen place (.file (← IO.FS.readBinFile real).toList) tree

/-- The environment, as far as the system shows it. -/
def environment : IO Environment := do
  let raw ← try IO.FS.readBinFile "/proc/self/environ" catch _ => pure .empty
  let text := (Utf8.decode? raw.toList).getD []
  return (Text.parts (CodePoint.ofNat 0) text).filterMap fun entry =>
    let name := entry.takeWhile fun c : CodePoint => c ≠ '='
    if name.length < entry.length then some (name, entry.drop (name.length + 1)) else none

/-- The names, the numbers and the homes of the users that the system lists. -/
def accounts : IO (List (Text × Text × Text)) := do
  let raw ← try IO.FS.readBinFile "/etc/passwd" catch _ => pure .empty
  return (Text.parts '\n' ((Utf8.decode? raw.toList).getD [])).filterMap fun line =>
    match Text.parts ':' line with
    | name :: _ :: number :: _ :: _ :: home :: _ => some (name, number, home)
    | _ => none

/-- The number of the user who runs the program, as far as the system shows it. -/
def ownNumber : IO (Option Text) := do
  let raw ← try IO.FS.readBinFile "/proc/self/status" catch _ => pure .empty
  return (Text.parts '\n' ((Utf8.decode? raw.toList).getD [])).findSome? fun line =>
    match Text.words line with
    | label :: number :: _ => if label = Text.ofString "Uid:" then some number else none
    | _ => none

/-- The homes of users: one's own as the environment or else the system tells it. -/
def homes (environment : Environment) : IO Homes := do
  let accounts ← accounts
  let number ← ownNumber
  let listed := (accounts.find? fun account => some account.2.1 = number).map fun account =>
    account.2.2
  return .ofList ((Keyed.get? (Text.ofString "HOME") environment).or listed)
    (accounts.map fun account => (account.1, account.2.2))

/-- The console on the error stream. It is as wide as the environment says, or else as usual, and has
    colours on a terminal unless the environment is against them. -/
def console (environment : Environment) (terminal : Bool) : Console :=
  let said (name : String) : Text := (Keyed.get? (Text.ofString name) environment).getD []
  let columns := said "COLUMNS"
  let width := if columns ≠ [] ∧ columns.all CodePoint.isDigit then
    columns.foldl (fun n c => 10 * n + (c.val - 0x30)) 0 else 80
  let plain := [Text.ofString "dumb", Text.ofString "unknown"].contains (said "TERM")
  .ofWidth width (terminal && !plain && said "NO_COLOR" = [])

/-- The present time. -/
def now : IO Text := do
  let moment := Std.Time.DateTime.ofTimestamp (← Std.Time.Timestamp.now) .UTC
  return .ofString (moment.format "uuuu-MM-dd HH:mm:ss")

/-- The text of a path that is looked at. -/
def spelled (path : Path) : String := (path.toText.toString?).getD ""

/-- The paths that may hold the classes for a request, given the settings. -/
def classPaths (s : Surroundings) (project : Path) (request : CheckRequest) (settings : Settings) :
    List Path :=
  let configured := settings.scan.classesDir.bind fun t =>
    ((Path.ofText t).expandHome s.homes).toOption
  request.classesDir.toList ++ (configured.map project.join).toList
    ++ ClassesDir.usualPlaces.map fun place => project.join (.ofText place)

/-- The paths of the log files and of the directories that they are in. -/
def logPaths (settings : Settings) : List Path :=
  (settings.log.outputs.filterMap fun output => output.destination.filePath?).flatMap fun path =>
    [path.parent, path]

/-- Looks at all that a run may look at. -/
def lookAround (s : Surroundings) (here : Path) (arguments : List String) : IO Surroundings := do
  let lookAll (inside : Bool) (paths : List Path) (s : Surroundings) : IO Surroundings := do
    let tree ← paths.foldlM (fun tree path => look inside (spelled path) tree) s.tree
    return { s with tree := tree }
  let typed := arguments.flatMap fun word => word :: (word.splitOn "=").drop 1
  let s ← lookAll false (here :: typed.map fun word => here.join (.ofText (.ofString word))) s
  match Request.ofArguments s.tree s.workingPlace (arguments.map Text.ofString) with
  | .ok (.check _ request) =>
    let project := here.join request.project
    let s ← lookAll true [s.userDocument, project.child Settings.documentName] s
    match s.loadSettings project request with
    | .ok settings =>
      lookAll true ((classPaths s project request settings).map here.join)
        (← lookAll false (logPaths settings) s)
    | .error _ => return s
  | _ => return s

/-- Writes what a run has written. -/
def write (here : Path) (course : Course) : IO Unit := do
  for (destination, text) in course.written do
    match destination.filePath? with
    | some path =>
      let path := spelled (here.join path)
      IO.FS.createDirAll (spelled (Path.ofText (.ofString path)).parent)
      let file ← IO.FS.Handle.mk path .append
      file.write ⟨(Utf8.encode text).toArray⟩
    | none =>
      let stream ← if destination = .stdout then IO.getStdout else IO.getStderr
      stream.write ⟨(Utf8.encode (Console.withoutSurrogates text)).toArray⟩
      stream.flush

end TagAudit.Program

open TagAudit Program in
/-- Runs the program on arguments and gives its exit code. -/
def main (arguments : List String) : IO UInt32 := do
  let started ← IO.monoMsNow
  let here := Path.ofText (.ofString (← IO.currentDir).toString)
  let environment ← environment
  let homes ← homes environment
  let terminal ← (← IO.getStderr).isTty
  let .ok home := homes.find [] | do
    IO.eprintln "No home is known."
    return 1
  let s ← lookAround {
    tree := .empty
    workingPlace := here.parts
    homes := homes
    userDocument := home.join Settings.userDocument
    environment := environment
    time := ← now
    scanId := Text.lowerHex 12 (← IO.rand 0 0xFFFFFFFFFFFF)
    terminal := terminal
    console := console environment terminal } here arguments
  let elapsed := (← IO.monoMsNow) - started
  let course := CommandLine.Surroundings.run
    { s with duration := .measured (.ofDecimal false elapsed (-3)) } (arguments.map Text.ofString)
  write here course
  if course.ending.isBreakdown then IO.eprintln "The run broke down."
  return course.ending.exitCode.toUInt32
