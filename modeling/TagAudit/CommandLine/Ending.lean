import TagAudit.ClassesDir
import TagAudit.CommandLine.Misuse
import TagAudit.Settings.Sources
import TagAudit.Tags.ScanResult
import TagAudit.Text.Markup

/-!
# How runs end

A run ends with the result of a scan, with something that its user is told about, or by breaking
down over something that it is not prepared for. How it ended decides its exit code: zero for
success, one for a scan that found conflicts and whose settings make them count, and two for all
that is reported instead of a result. A breakdown ends with one as well.
-/

namespace TagAudit.CommandLine

/-- What a run is not prepared for. -/
inductive Breakdown where
  /-- The settings cannot be had, for a reason that is not reported. -/
  | settings (problem : SettingsProblem)
  /-- A log output cannot be opened, or it cannot be asked where a path leads. -/
  | path (problem : PathProblem)
  /-- It cannot be asked whether the directory of classes is there. -/
  | root (problem : PathProblem)
  /-- The way to a directory leads in circles. -/
  | circular
  /-- The directory of classes begins with the home of a user whose home is not known. -/
  | unknownHome
  /-- A status message has markup that does not let it be shown. -/
  | markup (problem : Markup.Problem)

/-- How a run ends. -/
inductive Ending where
  /-- The version or the help was shown. -/
  | shown
  | misused (level : Level) (misuse : Misuse)
  | settingsRefused (failure : Failure)
  /-- There is no directory of classes under a project. -/
  | noClasses (project : Path)
  | scanFailed (failure : Failure)
  /-- The scan was completed. -/
  | scanned (result : ScanResult) (failOnError : Bool)
  | brokeDown (cause : Breakdown)

namespace Ending

/-- The exit code of a run. -/
def exitCode : Ending → Nat
  | shown => 0
  | misused .. | settingsRefused _ | noClasses _ | scanFailed _ => 2
  | scanned result failOnError => if result.hasViolations && failOnError then 1 else 0
  | brokeDown _ => 1

/-- Whether a run got as far as its scan. -/
def isAfterScan : Ending → Bool
  | scanFailed _ | scanned .. | brokeDown (.markup _) | brokeDown (.root _) => true
  | _ => false

/-- Whether a run broke down. -/
def isBreakdown : Ending → Bool
  | brokeDown _ => true
  | _ => false

end Ending

end TagAudit.CommandLine
