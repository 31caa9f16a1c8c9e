import TagAudit.ClassFile.Layout
import TagAudit.FileTree
import TagAudit.Log.Entry
import TagAudit.Tags.ScanResult

/-!
# Outcomes of reading files

Reading a class file yields what the file describes, or the failure that it could not be read or
described. Outcomes are gone through in the order of their files: a failing file is left out and
listed, or else ends everything with its failure.
-/

namespace TagAudit

/-- A problem with a path as it is reported. -/
def PathProblem.message (problem : PathProblem) (path : Text) : Text :=
  "[Errno " ++ Text.ofNat problem.number ++ "] " ++ problem.words ++ ": " ++ path.quoted

/-- Reads and describes one class file. -/
def Node.readClass (tree : Node) (workingPlace : Place) (path : Path) :
    Except Failure ClassFile.ClassDescriptor :=
  match tree.read workingPlace path with
  | .error problem =>
    .error (.readFailed (.text path.toText) (.text (problem.message path.toText)))
  | .ok data => (ClassFile.parse data).mapError (.ofDefect (some path.toText))

namespace Scan

open ClassFile Log

/-- What reading one file came to. -/
structure Outcome where
  path : Text
  result : Except Failure ClassDescriptor

/-- The entry that is made when a file is taken up. -/
def Outcome.takenUp (logger : Logger) (outcome : Outcome) : Entry :=
  logger.entry .debug "analyze_class" [("path", .text outcome.path)]

/-- What became of some of the files of a scan: the classes that were described and the files that
    were left out, each in order, or the failure that ended the scan. -/
abbrev Collected := Except Failure (List ClassDescriptor × List Skipped)

/-- What became of some files and then of others. -/
def Collected.followedBy (first : List ClassDescriptor × List Skipped) (others : Collected) :
    Collected :=
  others.map fun (classes, skipped) => (first.1 ++ classes, first.2 ++ skipped)

/-- Goes through one outcome, and gives the entries made. -/
def Outcome.judge (skipInvalid : Bool) (logger : Logger) (outcome : Outcome) :
    Collected × List Entry :=
  match outcome.result with
  | .ok described => (.ok ([described], []), [])
  | .error failure =>
    let about : Keyed Text Data :=
      [("path", .text outcome.path), ("error", .text failure.line)]
    if skipInvalid then
      (.ok ([], [⟨outcome.path, some failure⟩]), [logger.entry .warning "class_skipped" about])
    else (.error failure, [logger.entry .error "scan_aborted" about])

/-- Goes through outcomes in order, up to one that ends everything. -/
def judgeAll (skipInvalid : Bool) (logger : Logger) : List Outcome → Collected × List Entry
  | [] => (.ok ([], []), [])
  | outcome :: rest =>
    match outcome.judge skipInvalid logger with
    | (.error failure, entries) => (.error failure, entries)
    | (.ok first, entries) =>
      let (others, later) := judgeAll skipInvalid logger rest
      (.followedBy first others, entries ++ later)

end Scan

end TagAudit
