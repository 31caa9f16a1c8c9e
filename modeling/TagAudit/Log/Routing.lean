import TagAudit.FileTree.Edit
import TagAudit.FileTree.RealPath
import TagAudit.Text.Utf8
import TagAudit.Log.Event
import TagAudit.Log.Line
import TagAudit.Settings

/-!
# Where log records go

A record is written to each output whose level it reaches, if it reaches the level of all outputs;
the streams that share the terminal write nothing while the console is muted. Where there is no
output at all, warnings and worse still go to the error stream, muted or not. Where an output cannot
write a record, because its format has no form for it or UTF-8 has none for its line, the error
stream is told so instead.

The console is muted for all that is recorded while a bar is drawn. Where it is only muted for the
thread that draws the bar, what other threads record at that time, at the level of single classes,
still reaches the streams; that is left out.

Setting up the outputs makes the files that they write to, and the directories above those. An
output that cannot be set up leaves those before it in place.
-/

namespace TagAudit

/-- Whether an output writes a record, given the level of all outputs. -/
def LogOutput.accepts (output : LogOutput) (level : Log.Level) (muted : Bool) (r : Log.Record) :
    Bool :=
  r.entry.level.reaches level && r.entry.level.reaches (output.level.getD level)
    && !(muted && output.destination.isStream)

/-- The names under which outputs keep track of records, which they do not write. -/
def LogOutput.trackingNames : List Text := ["_record", "_from_structlog"]

/-- The line that an output writes for a record. -/
def LogOutput.line (output : LogOutput) (r : Log.Record) : Text :=
  let r := r.without trackingNames
  match output.format with
  | .json => r.jsonLine
  | .console => r.consoleLine {}

/-- Whether a destination takes a text. The error stream takes every text and shows surrogates by
    their numbers. To all others texts are written in UTF-8, which has no surrogates. -/
def LogDestination.takes : LogDestination → Text → Bool
  | .stderr, _ => true
  | .stdout, t | .file _, t => !t.any CodePoint.isSurrogate

/-- Whether an output can write its line for a record. -/
def LogOutput.canWrite (output : LogOutput) (r : Log.Record) : Bool :=
  let kept := r.without trackingNames
  (match output.format with
    | .json => kept.fitsJson
    | .console => kept.fitsPeople) && output.destination.takes (output.line r)

/-- The settings that write everything from a level on to the error stream. -/
def LogSettings.simple (level : Log.Level) (format : LogFormat) : LogSettings :=
  ⟨level, [{ format := format }]⟩

namespace Log

/-- A text written to a destination. -/
abbrev Written := LogDestination × Text

/-- How records are routed. -/
inductive Routing where
  /-- Nothing was set up: own records are printed, and foreign ones only if they are severe. -/
  | untouched
  | outputs (settings : LogSettings)

namespace Routing

/-- The column widths while nothing was set up. -/
def untouchedColumns : Record.Columns := ⟨9, 30⟩

/-- The name of a field that asks for a trace of calls, which is made only while nothing was set
    up. -/
def traceRequest : Text := "stack_info"

/-- Whether entries of a level are made at all. -/
def admits (level : Level) : Routing → Bool
  | untouched => true
  | outputs settings => level.reaches settings.level

/-- What is said about a record that cannot be written: the first line of a report, which goes on
    with the places in the code from where the record came. -/
def trouble : Text := "--- Logging error ---\n"

/-- What is written for a record where no output wants it. -/
def lastResort (r : Record) : List Written :=
  if r.entry.level.reaches .warning then
    [(.stderr, if r.fitsBare then r.bareLine ++ "\n" else trouble)]
  else []

/-- What an output writes for a record, or what is said if it cannot. -/
def writtenBy (r : Record) (output : LogOutput) : Written :=
  if output.canWrite r then (output.destination, output.line r ++ "\n") else (.stderr, trouble)

/-- What is written for a record. -/
def deliver (muted : Bool) (r : Record) : Routing → List Written
  | untouched =>
    if r.isForeign then lastResort r
    else [(.stdout, (r.without [traceRequest]).consoleLine untouchedColumns ++ "\n")]
  | outputs settings =>
    if settings.outputs.isEmpty then
      if r.entry.level.reaches settings.level then lastResort r else []
    else
      (settings.outputs.filter fun output => output.accepts settings.level muted r).map (writtenBy r)

/-- What is written in the course of events, from a state of the console on. -/
def deliverAll (routing : Routing) (time : Text) : (muted : Bool) → List Event → List Written
  | _, [] => []
  | muted, event :: rest =>
    let written : List Written := match event.entry? with
      | some e => routing.deliver muted ⟨e, time, false⟩
      | none => []
    written ++ deliverAll routing time (event.mutedAfter muted) rest

/-- What was written to one destination. -/
def writtenTo (destination : LogDestination) (written : List Written) : Text :=
  (written.filter fun entry => decide (entry.1 = destination)).flatMap Prod.snd

end Routing

end Log

/-- The file that a file output writes to. Two dots in its path are taken literally. -/
def LogDestination.filePath? : LogDestination → Option Path
  | .file path => some ⟨path.slashes, Node.collapse path.parts⟩
  | .stderr | .stdout => none

/-- What came of opening outputs: those that were opened, the tree with what was made for them,
    and the problem with the next one, if there is one. -/
structure OpenedOutputs where
  outputs : List LogOutput
  tree : Node
  problem : Option PathProblem

/-- Makes the file that an output writes to, if it writes to one. -/
def LogOutput.prepare (output : LogOutput) (workingPlace : Place) (tree : Node) :
    Except PathProblem Node :=
  match output.destination, output.destination.filePath? with
  | .file path, some filePath => do
    let tree ← tree.makeDirectories workingPlace path.parent
    tree.write workingPlace filePath id
  | _, _ => .ok tree

/-- Opens outputs in order, up to the first that cannot be opened. -/
def Node.openOutputs (workingPlace : Place) : List LogOutput → Node → OpenedOutputs
  | [], tree => ⟨[], tree, none⟩
  | output :: rest, tree =>
    match output.prepare workingPlace tree with
    | .error problem => ⟨[], tree, some problem⟩
    | .ok tree =>
      let others := openOutputs workingPlace rest tree
      { others with outputs := output :: others.outputs }

/-- Appends what was written to the files that it was written to. -/
def Node.append (workingPlace : Place) (written : List Log.Written) (tree : Node) : Node :=
  written.foldl (fun tree (destination, text) =>
    match destination.filePath? with
    | some path =>
      match tree.write workingPlace path (fun before => before ++ Utf8.encode text) with
      | .ok tree => tree
      | .error _ => tree
    | none => tree) tree

end TagAudit
