import TagAudit.Settings
import TagAudit.Settings.Checked
import TagAudit.Settings.Numeral
import TagAudit.Text.Utf8

/-!
# Checking settings

Settings are read from data leniently: numbers and truth values may be spelled as texts, truth
values and numbers without a fraction may stand for each other. Tables may hold names that mean
nothing here, and a name that is absent leaves its default.

The file name of a log output is brought into normal form, with a home directory in place of a
leading tilde, and must then be absolute.
-/

namespace TagAudit

namespace Check

/-- A text, or bytes that spell one. -/
def text : Data → Checked Text
  | .text t => .ok t
  | .bytes raw =>
    match Utf8.decode? raw with
    | some t => .ok t
    | none => .refuse .notCharacters (.bytes raw)
  | input => .refuse .notText input

/-- A text, or nothing where there is null. -/
def optionalText : Data → Checked (Option Text)
  | .null => .ok none
  | input => (text input).map some

/-- The texts that mean false and true. -/
def falseWords : List Text := ["0", "off", "f", "false", "n", "no"]

@[inherit_doc falseWords]
def trueWords : List Text := ["1", "on", "t", "true", "y", "yes"]

/-- The truth value that a text means, in capital or small letters. -/
def boolOfText? (t : Text) : Option Bool :=
  if falseWords.contains t.toLower then some false
  else if trueWords.contains t.toLower then some true
  else none

/-- The truth value that an integer means. -/
def boolOfInt? (n : Int) : Option Bool :=
  if n = 0 then some false else if n = 1 then some true else none

/-- Whether an integer is a machine integer of eight bytes. -/
def isMachineInteger (n : Int) : Bool :=
  decide (-9223372036854775808 ≤ n) && decide (n ≤ 9223372036854775807)

/-- The integer that a number is, if it lies within the machine integers and not on their lower
    end. -/
def machineInteger? (x : Binary64) : Option Int :=
  x.toInt?.filter fun n => isMachineInteger n && n != -9223372036854775808

/-- What is read from a text, which has to be a sequence of characters. -/
def characters {α : Type} (t : Text) (reading : Checked α) : Checked α :=
  if t.any CodePoint.isSurrogate then .refuse .notCharacters (.text t) else reading

/-- A truth value. -/
def bool : Data → Checked Bool
  | .bool b => .ok b
  | .text t => characters t (orUnreadable (.text t) (boolOfText? t))
  | .bytes raw => orUnreadable (.bytes raw) ((Utf8.decode? raw).bind boolOfText?)
  | .int n =>
    if isMachineInteger n then orUnreadable (.int n) (boolOfInt? n) else .refuse .notBool (.int n)
  | .real x =>
    match machineInteger? x with
    | some n => orUnreadable (.real x) (boolOfInt? n)
    | none => .refuse .notBool (.real x)
  | input => .refuse .notBool input
where
  /-- The truth value, if one could be read. -/
  orUnreadable (input : Data) : Option Bool → Checked Bool
    | some b => .ok b
    | none => .refuse .unreadableBool input

/-- An integer. -/
def int : Data → Checked Int
  | .int n => .ok n
  | .bool b => .ok (if b then 1 else 0)
  | .real x =>
    match x.shape with
    | .finite .. =>
      match x.toInt?, machineInteger? x with
      | some _, some n => .ok n
      | some _, none => .refuse .excessiveInteger (.real x)
      | none, _ => .refuse .fractional (.real x)
    | _ => .refuse .notFinite (.real x)
  | .text t => characters t (ofReading (.text t) (Numeral.read t))
  | .bytes raw =>
    ofReading (.bytes raw) (((Utf8.decode? raw).map Numeral.read).getD .unreadable)
  | input => .refuse .notInteger input
where
  /-- The integer, if one could be read. -/
  ofReading (input : Data) : Numeral.Reading → Checked Int
    | .integer n => .ok n
    | .tooLong => .refuse .excessiveInteger input
    | .unreadable => .refuse .unreadableInteger input

/-- A list, all of whose items pass a check. -/
def list {α : Type} (check : Data → Checked α) (input : Data) : Checked (List α) :=
  match input.items? with
  | some items => go 0 items
  | none => .refuse .notList input
where
  /-- Checks the items from an index on. -/
  go (i : Nat) : List Data → Checked (List α)
    | [] => .ok []
    | item :: rest =>
      (((check item).inside (.index i)).both (go (i + 1) rest)).map fun (first, others) =>
        first :: others

/-- One of the words that name something. -/
def word {α : Type} (ofName? : Text → Option α) (words : List Text) : Data → Checked α
  | .text t =>
    characters t (match ofName? t with
      | some named => .ok named
      | none => .refuse (.notAmong words) (.text t))
  | input => .refuse (.notAmong words) input

/-- A checked value with a further condition on it; the refusal shows the data as it was given. -/
def suitable {α : Type} (check : Data → Checked α) (suits : α → Bool) (reason : α → Text)
    (input : Data) : Checked α := do
  let value ← check input
  if suits value then return value else .refuse (.unsuitable (reason value)) input

/-- A level of log entries. -/
def level : Data → Checked Log.Level :=
  word Log.Level.ofSettingName? (Log.Level.all.map Log.Level.settingName)

/-- A level of log entries, or nothing where there is null. -/
def optionalLevel : Data → Checked (Option Log.Level)
  | .null => .ok none
  | input => (level input).map some

/-- What stands under a name in a table, or the default. -/
def setting {α : Type} (name : Text) (default : α) (check : Data → Checked α)
    (entries : Keyed Key Data) : Checked α :=
  match entries.get? (Key.text name) with
  | none => .ok default
  | some value => (check value).inside (.name name)

/-- Settings of a kind, which are read from a table. -/
def settings {α : Type} (kind : Text) (read : Keyed Key Data → Checked α) (input : Data) :
    Checked α :=
  match input.table? with
  | some entries => read entries
  | none => .refuse (.notSettings kind) input

end Check

open Check Checked

/-- A place to write log entries to, given the homes of users. -/
def LogDestination.check (homes : Homes) (input : Data) : Checked LogDestination := do
  let t ← text input
  if t = Text.ofString "stderr" then return .stderr
  else if t = Text.ofString "stdout" then return .stdout
  else
    match (Path.ofText t).expandHome homes with
    | .error .unknown => .error .unknownHome
    | .error problem => .refuse (.unsuitable problem.words) input
    | .ok path =>
      if path.isAbsolute then return .file path
      else .refuse (.unsuitable ("File destination must be absolute path: " ++ t)) input

/-- An output for log entries. -/
def LogOutput.check (homes : Homes) : Data → Checked LogOutput :=
  settings "LogOutputConfig" fun entries =>
    let format := word LogFormat.ofName? (LogFormat.all.map LogFormat.name)
    ((setting "format" .console format entries).both
      ((setting "destination" .stderr (LogDestination.check homes) entries).both
        (setting "level" none optionalLevel entries))).map
      fun (format, destination, level) => ⟨format, destination, level⟩

/-- How log entries are written. -/
def LogSettings.check (homes : Homes) : Data → Checked LogSettings :=
  settings "LoggingConfig" fun entries =>
    ((setting "level" .warning Check.level entries).both
      (setting "outputs" [{}] (list (LogOutput.check homes)) entries)).map
      fun (level, outputs) => ⟨level, outputs⟩

/-- Whether a text can be the ending of file names: a point and something after it. -/
def isExtension (t : Text) : Bool := t.startsWith "." && decide (2 ≤ t.length)

/-- Whether a text can name an annotation type. -/
def isTypeDescriptor (t : Text) : Bool :=
  t.startsWith "L" && t.endsWith ";" && decide (2 < t.length)

/-- How classes are found and judged. -/
def ScanSettings.check : Data → Checked ScanSettings :=
  settings "ScanConfig" fun entries =>
    ((setting "classes_dir" none optionalText entries).both
      ((setting "extension" defaultExtension
          (suitable text isExtension fun t =>
            "Extension must start with '.', got " ++ t.quoted) entries).both
      ((setting "tag_annotation" defaultTagType
          (suitable text isTypeDescriptor fun t =>
            "Tag annotation must be a descriptor like Lpkg/Name;, got " ++ t.quoted) entries).both
      ((setting "fail_on_error" true bool entries).both
      ((setting "skip_invalid" false bool entries).both
      ((setting "max_workers" 1
          (suitable int (fun n => decide (1 ≤ n)) fun n =>
            "max_workers must be >= 1, got " ++ Text.ofInt n) entries).both
        (setting "exclude_dirs" [] (list text) entries))))))).map
      fun (classesDir, extension, tagType, failOnError, skipInvalid, maxWorkers, excludeDirs) =>
        ⟨classesDir, extension, tagType, failOnError, skipInvalid, maxWorkers, excludeDirs⟩

/-- Both sections of settings, each of which may be absent. -/
def Settings.checkSections (homes : Homes) (entries : Keyed Key Data) : Checked Settings :=
  ((setting "logging" {} (LogSettings.check homes) entries).both
    (setting "scan" {} ScanSettings.check entries)).map fun (log, scan) => ⟨log, scan⟩

/-- All settings. -/
def Settings.check (homes : Homes) : Data → Checked Settings :=
  settings "TagCheckConfig" (Settings.checkSections homes)

end TagAudit
