import TagAudit.CommandLine.Ending
import TagAudit.Console
import TagAudit.Log.Routing

/-!
# What a run says about its scan

After a scan the run says how it went: to machines in one JSON document on the output stream, to
people in lines on the error stream. Most of what is said to people goes into the log as well.
Status messages are printed through the style markup, and one that cannot be printed breaks the run
down; what was said before it stays said.
-/

namespace TagAudit.CommandLine

/-- Something that is said. -/
inductive Utterance where
  /-- A text for the output stream. -/
  | document (t : Text)
  /-- A line of a report. -/
  | line (t : Text)
  | status (style message : Text)
  | entry (e : Log.Entry)

namespace Utterance

/-- What is written when something is said, given how entries are written. -/
def written (console : Console) (record : Log.Entry → List Log.Written) :
    Utterance → Except Markup.Problem (List Log.Written)
  | document t => .ok [(.stdout, Console.withoutEscapes 0 t ++ "\n")]
  | line t => .ok [(.stderr, console.line t)]
  | status style message =>
    (console.status (.text style) (.text message)).map fun printed =>
      (.stderr, printed) :: record (Console.statusEntry (.text style) (.text message))
  | entry e => .ok (record e)

/-- What is written when several things are said, and what is wrong with the first of them that
    cannot be. -/
def writtenAll (console : Console) (record : Log.Entry → List Log.Written) :
    List Utterance → List Log.Written × Option Markup.Problem
  | [] => ([], none)
  | utterance :: rest =>
    match utterance.written console record with
    | .error problem => ([], some problem)
    | .ok written =>
      let (others, problem) := writtenAll console record rest
      (written ++ others, problem)

end Utterance

namespace Speech

/-- The sentence about conflicts that fail the run. -/
def verdict : Text := "Duplicate @Tag values found, failing the build"

/-- The document about a failure. -/
def failureDocument (failure : Failure) : Text :=
  (Data.ofFields [("status", .text "error"), ("error", failure.toData)]).jsonIndented

/-- What is said about a scan that failed. -/
def ofFailure (json : Bool) (failure : Failure) : List Utterance :=
  if json then [.document (failureDocument failure)] else [.status "error" failure.line]

/-- What is said about a file that was left out. -/
def ofSkipped (file : Skipped) : Utterance :=
  .status "warning" ("Skipped " ++ file.path ++ ": "
    ++ (file.failure.map Failure.line).getD "None")

/-- What is said about the report of a scan. -/
def ofReport (result : ScanResult) : List Utterance :=
  if result.hasViolations then
    result.report.lines.map .line ++ (result.report.announcements (.named "report")).map .entry
  else
    let counted :=
      Console.counted (.int result.classesScanned) (.text "class") (.text "classes")
    [.status "success" ("No duplicate tags in " ++ counted ++ " under " ++ result.root)]

/-- What is said about a completed scan. -/
def ofResult (json failOnError : Bool) (result : ScanResult) : List Utterance :=
  if json then [.document result.json]
  else
    result.skipped.map ofSkipped ++ ofReport result
      ++ if result.hasViolations && failOnError then [.status "error" verdict] else []

end Speech

end TagAudit.CommandLine
