import TagAudit.Data
import TagAudit.Log.Entry
import TagAudit.Path
import TagAudit.Tags.Conflict

/-!
# Settings

What can be set: how log entries are written, and how classes are found and judged. Every setting
has a default, so settings that say nothing are complete.

Settings can be turned back into data. The data of settings passes every check that settings pass,
and gives the same settings again.
-/

namespace TagAudit

/-- How a log output writes an entry. -/
inductive LogFormat where
  | json | console
deriving DecidableEq

namespace LogFormat

/-- The name of a format in settings. -/
def name : LogFormat → Text
  | json => "json" | console => "console"

/-- All formats. -/
def all : List LogFormat := [json, console]

/-- The format with a name. -/
def ofName? (t : Text) : Option LogFormat := all.find? fun format => format.name == t

end LogFormat

/-- Where a log output writes. -/
inductive LogDestination where
  | stderr | stdout
  /-- A file, named by the normal spelling of an absolute path. -/
  | file (path : Path)
deriving DecidableEq

namespace LogDestination

/-- The name of a destination in settings. -/
def name : LogDestination → Text
  | stderr => "stderr" | stdout => "stdout" | file path => path.toText

/-- Whether a destination is one of the streams that share the terminal. -/
def isStream : LogDestination → Bool
  | stderr | stdout => true
  | file _ => false

end LogDestination

/-- A place that log entries are written to. -/
structure LogOutput where
  format : LogFormat := .console
  destination : LogDestination := .stderr
  /-- The least level that is written here, if it differs from that of all outputs. -/
  level : Option Log.Level := none
deriving DecidableEq

/-- How log entries are written. -/
structure LogSettings where
  level : Log.Level := .warning
  outputs : List LogOutput := [{}]
deriving DecidableEq

/-- The ending of the names of class files, unless settings give another. -/
def defaultExtension : Text := ".class"

/-- How classes are found and judged. -/
structure ScanSettings where
  /-- Where the compiled classes are; the usual places are tried if this is not given. -/
  classesDir : Option Text := none
  extension : Text := defaultExtension
  /-- The type of the annotations that carry tags. -/
  tagType : Text := defaultTagType
  /-- Whether conflicts fail the run. -/
  failOnError : Bool := true
  /-- Whether unreadable files are left out instead of failing the scan. -/
  skipInvalid : Bool := false
  /-- How many files are read at a time. -/
  maxWorkers : Int := 1
  /-- Names of directories that are left out. -/
  excludeDirs : List Text := []
deriving DecidableEq

/-- All settings. -/
structure Settings where
  log : LogSettings := {}
  scan : ScanSettings := {}
deriving DecidableEq

/-- An output as data. -/
def LogOutput.toData (output : LogOutput) : Data :=
  .ofFields [("format", .text output.format.name), ("destination", .text output.destination.name),
    ("level", .ofText? (output.level.map Log.Level.settingName))]

/-- Log settings as data. -/
def LogSettings.toData (settings : LogSettings) : Data :=
  .ofFields [("level", .text settings.level.settingName),
    ("outputs", .list (settings.outputs.map LogOutput.toData))]

/-- Scan settings as data. -/
def ScanSettings.toData (settings : ScanSettings) : Data :=
  .ofFields [("classes_dir", .ofText? settings.classesDir), ("extension", .text settings.extension),
    ("tag_annotation", .text settings.tagType), ("fail_on_error", .bool settings.failOnError),
    ("skip_invalid", .bool settings.skipInvalid), ("max_workers", .int settings.maxWorkers),
    ("exclude_dirs", .list (settings.excludeDirs.map Data.text))]

/-- All settings as data. -/
def Settings.toData (settings : Settings) : Data :=
  .ofFields [("logging", settings.log.toData), ("scan", settings.scan.toData)]

end TagAudit
