import TagAudit.Discovery
import TagAudit.Progress
import TagAudit.Scan.Readers
import TagAudit.Settings

/-!
# Scanning a directory of classes

A scan finds the class files under a root, reads them in the order of their paths, and reports the
conflicts among the tags of each. A file that cannot be read or described either ends the scan
with its failure or is left out and listed, as the settings say.

A scan has no effect on anything. It yields its outcome and what happens to the log on the way.
-/

namespace TagAudit.Scan

open ClassFile Log

/-- The circumstances of a scan. -/
structure Context where
  logger : Logger
  scanId : Text
  /-- Whether there is a terminal to draw a progress bar on. -/
  terminal : Bool := false
  duration : Duration := .zero
  /-- The order in which several readers finish a number of files. -/
  order : Nat → List Nat := List.range

/-- The result of a scan that was not ended by a failure, and the entries that conclude it. -/
def conclude (settings : ScanSettings) (logger : Logger) (duration : Duration) (root : Path)
    (classes : List ClassDescriptor) (skipped : List Skipped) : ScanResult × List Entry :=
  let result : ScanResult := {
    root := root.toText
    report := Report.ofClasses settings.tagType classes
    classesScanned := classes.length
    skipped := skipped
    duration := duration }
  (result, Report.trace settings.tagType logger classes ++
    [logger.entry .info "scan_done"
      [("classes", .int classes.length), ("conflicts", .int result.report.total),
        ("skipped", .int skipped.length), ("elapsed_s", result.duration.toData)]])

/-- Scans files that were found. -/
def runOn (settings : ScanSettings) (context : Context) (logger : Logger) (tree : Node)
    (workingPlace : Place) (root : Path) (paths : List Path) :
    Except Failure ScanResult × List Event :=
  let begun := logger.entry .info "scan_start"
    [("files", .int paths.length), ("workers", .int settings.maxWorkers)]
  let progress : Progress.Run Path := { total := some paths.length, left := paths }
  let (progress, opening) := progress.opened context.terminal
  let (collected, entries) :=
    collect settings.maxWorkers (context.order paths.length) settings.skipInvalid logger
      (paths.map fun path => ⟨path.toText, tree.readClass workingPlace path⟩)
  let middle := Event.entry begun :: opening ++ entries.map Event.entry
  match collected with
  | .error failure => (.error failure, middle ++ progress.close.2)
  | .ok (classes, skipped) =>
    let (result, conclusion) := conclude settings logger context.duration root classes skipped
    (.ok result, middle ++ progress.ending ++ conclusion.map Event.entry)

/-- Scans a directory. -/
def run (settings : ScanSettings) (context : Context) (tree : Node) (workingPlace : Place)
    (root : Path) : Except Search.Problem ScanResult × List Event :=
  let logger := context.logger.bind
    [("scan_id", .text context.scanId), ("root", .text root.toText)]
  match Search.run ⟨settings.extension, settings.excludeDirs⟩ tree workingPlace root with
  | .error problem => (.error problem, [])
  | .ok paths =>
    let (outcome, events) := runOn settings context logger tree workingPlace root paths
    (outcome.mapError .failure, events)

end TagAudit.Scan
