import TagAudit.Duration
import TagAudit.Failure
import TagAudit.Tags.Report
import TagAudit.Data.Json

/-!
# Scan results

What a completed scan says: which directory was scanned, the report on it, how many classes were
read, which files were left out and why, and how long it took. The verdict is dirty exactly when
the report is not empty.
-/

namespace TagAudit

/-- A file that was left out, and why, if that is known. -/
structure Skipped where
  path : Text
  failure : Option Failure

/-- The result of a completed scan. -/
structure ScanResult where
  root : Text
  report : Report
  classesScanned : Int
  skipped : List Skipped
  duration : Duration

namespace ScanResult

/-- Whether some class has a conflict. -/
def hasViolations (r : ScanResult) : Bool := !r.report.isEmpty

/-- The result as data. -/
def toData (r : ScanResult) : Data :=
  .ofFields [("root", .text r.root),
    ("status", .text (if r.hasViolations then "dirty" else "clean")),
    ("classes_scanned", .int r.classesScanned), ("total_conflicts", .int r.report.total),
    ("violations", r.report.toData),
    ("skipped", .list (r.skipped.map fun file =>
      .ofFields [("path", .text file.path),
        ("error", (file.failure.map Failure.toData).getD .null)])),
    ("duration_seconds", r.duration.toData)]

/-- The result as data, if the report in it can be had as data. -/
def toData? (r : ScanResult) : Option Data :=
  if r.report.hasShortTags then some r.toData else none

/-- The result as indented JSON text. -/
def json (r : ScanResult) : Text := r.toData.jsonIndented

end ScanResult

end TagAudit
