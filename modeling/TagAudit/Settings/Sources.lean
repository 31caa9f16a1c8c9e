import TagAudit.Failure
import TagAudit.FileTree
import TagAudit.Settings.Check
import TagAudit.Settings.Environment
import TagAudit.Yaml
import TagAudit.Yaml.Levels

/-!
# Where settings come from

Settings come from two documents, the environment and the caller. The project's document is laid
over the user's, what the caller says is laid over the environment, and then the second of these
over the first. What no source says keeps its default. A document that is not there says nothing,
and neither does an empty one. Two documents that both hold a mapping within itself, under keys that
both have, cannot be combined: that would have no end.

Names that are no section are an issue, listed after those of the sections. Of all issues the first
is reported. A name with surrogates, which cannot be compared, is the only issue there is.

The caller may write the names of sections with capitals, and may also say how the environment is
read.
-/

namespace TagAudit

/-- Why there are no settings. -/
inductive SettingsProblem where
  | failure (f : Failure)
  /-- A document is no text. -/
  | undecodable
  /-- A document cannot be opened. -/
  | unopened (problem : PathProblem)
  /-- A document has no value, for a reason that is not reported. -/
  | valueless (problem : Yaml.Problem)
  /-- The environment holds something unreadable for a section. -/
  | unreadable (sectionName : Text)
  /-- Laying the document of the project over that of the user has no end. -/
  | endless
  /-- A source has a name that is no text, or one that the caller cannot give. -/
  | strangeName
  /-- What is to be reported holds an integer that is too long for it. -/
  | unreportable
  | unknownHome

namespace SettingsProblem

/-- The sentence about a section that cannot be read. -/
def unreadableMessage (sectionName : Text) : Text :=
  "error parsing value for field \"" ++ sectionName ++ "\" from source \"EnvSettingsSource\""

end SettingsProblem

namespace Settings

/-- What a settings document means, given its text. -/
def meaningOf (path : Path) (t : Text) : Except SettingsProblem Yaml.Web :=
  match Yaml.read t with
  | .error .malformed =>
    .error (.failure (.configUnreadable (.text path.toText) (.text "<yaml>")))
  | .error problem => .error (.valueless problem)
  | .ok web =>
    let value := web.toData 0
    if value.isFalsy then .ok .empty
    else if value.table?.isSome then .ok web
    else
      let reason : Data := .text "top level must be a mapping"
      .error (.failure (.configUnreadable (.text path.toText) reason))

/-- What the settings document at a path means. -/
def readDocument (tree : Node) (workingPlace : Place) (path : Path) :
    Except SettingsProblem Yaml.Web :=
  match tree.hasPath workingPlace path, tree.read workingPlace path with
  | .ok false, _ => .ok .empty
  | .error problem, _ | _, .error problem => .error (.unopened problem)
  | .ok true, .ok raw =>
    match Utf8.decode? raw with
    | none => .error .undecodable
    | some t => meaningOf path t

/-- Issues with the names that are no section. -/
def unknownNames (entries : Keyed Key Data) : List Issue :=
  entries.filterMap fun (key, value) =>
    match key with
    | .text name =>
      if Environment.sections.any fun s => s.name == name then none
      else some ⟨[.name name], .unknownName, value⟩
    | _ => none

/-- The first name that cannot be compared with others, if there is one. -/
def incomparable? (entries : Keyed Key Data) : Option Text :=
  entries.findSome? fun (key, _) =>
    match key with
    | .text name => if name.any CodePoint.isSurrogate then some name else none
    | _ => none

/-- Checks settings that may have no names but those of the sections. -/
def checkClosed (homes : Homes) (entries : Keyed Key Data) : Checked Settings :=
  match incomparable? entries, checkSections homes entries, unknownNames entries with
  | some name, _, _ => .refuse .notCharacters (.text name)
  | none, checked, [] => checked
  | none, .ok _, issue :: issues => .error (.issues issue issues)
  | none, .error refusal, issue :: issues => .error (refusal.and (.issues issue issues))

/-- The failure that an issue amounts to. -/
def failureOf (issue : Issue) : Failure :=
  .configInvalid (.text (Text.joined "." (issue.place.map Step.toText))) issue.input
    (.text issue.fault.message)

/-- The settings that merged sources amount to. -/
def ofEntries (homes : Homes) (entries : Keyed Key Data) : Except SettingsProblem Settings :=
  if entries.any fun entry => match entry.1 with | .text _ => false | _ => true then
    .error .strangeName
  else match checkClosed homes entries with
  | .ok settings => .ok settings
  | .error .unknownHome => .error .unknownHome
  | .error (.issues first _) =>
    .error (if first.input.isDisplayable then .failure (failureOf first) else .unreportable)

/-- The name of the settings document of a project. -/
def documentName : Text := "tagcheck.yaml"

/-- The path of a user's settings document from the home directory. -/
def userDocument : Path := .ofText ".config/tagcheck/config.yaml"

/-- The settings documents of a project and of a user. -/
structure Documents where
  project : Yaml.Web
  user : Yaml.Web

namespace Documents

/-- On how many levels the document of the project is laid over that of the user, if they have an
    end. -/
def levels? (d : Documents) : Option Nat := d.project.levelsOver? d.user

/-- The documents, if laying the one over the other has an end. -/
def finite (d : Documents) : Except SettingsProblem Documents :=
  if d.levels?.isSome then .ok d else .error .endless

/-- What the document of the project says, where a number of levels is laid over both documents. -/
def ofProject (d : Documents) (above : Nat) : Keyed Key Data :=
  d.project.entries (d.levels?.getD 0 + above)

/-- What the document of the user says, where a number of levels is laid over both documents. -/
def ofUser (d : Documents) (above : Nat) : Keyed Key Data :=
  d.user.entries (d.levels?.getD 0 + above)

/-- What both documents say together, where a number of levels is laid over them. -/
def together (d : Documents) (above : Nat) : Keyed Key Data :=
  Data.overEntries (d.ofProject above) (d.ofUser above)

end Documents

/-- What settings are loaded from. -/
structure Sources where
  tree : Node
  workingPlace : Place
  /-- The settings document of the user. -/
  user : Path
  /-- The directory of the project. -/
  project : Path
  homes : Homes
  environment : Environment
  /-- What the caller says. -/
  overrides : Keyed Key Data
  /-- No table that the caller gives stands within itself. -/
  ends : Data.holdsEndless overrides = false

namespace Overrides

/-- The names under which the caller says how settings are loaded. Those that have no meaning where
    settings come from the present sources are passed over. -/
def directions : List Text :=
  ["_case_sensitive", "_env_prefix", "_env_nested_delimiter", "_env_ignore_empty", "_env_file",
    "_env_file_encoding", "_env_nested_max_split", "_env_parse_none_str", "_env_parse_enums",
    "_nested_model_default_partial_update", "_secrets_dir", "_build_sources", "_cli_prog_name",
    "_cli_parse_args", "_cli_settings_source", "_cli_parse_none_str", "_cli_hide_none_type",
    "_cli_avoid_json", "_cli_enforce_required", "_cli_use_class_docs_for_groups",
    "_cli_exit_on_error", "_cli_prefix", "_cli_flag_prefix_char", "_cli_implicit_flags",
    "_cli_ignore_unknown_args", "_cli_kebab_case", "_cli_shortcuts"]

/-- The name under which the project is given already. -/
def projectName : Text := "project_root"

/-- What the caller says under a name, unless it is null. -/
def said? (overrides : Keyed Key Data) (name : Text) : Option Data :=
  (overrides.get? (Key.text name)).filter fun value => match value with | .null => false | _ => true

/-- How the environment is read. -/
def naming (overrides : Keyed Key Data) : Environment.Naming :=
  let text (name default : Text) : Text :=
    match said? overrides name with
    | some (.text t) => t
    | _ => default
  let flag (name : Text) : Bool := (said? overrides name).any fun value => !value.isFalsy
  let usual : Environment.Naming := {}
  { start := text "_env_prefix" usual.start
    separator := text "_env_nested_delimiter" usual.separator
    caseSensitive := flag "_case_sensitive"
    ignoresEmpty := flag "_env_ignore_empty" }

/-- The section that a name means. -/
def sectionOf? (naming : Environment.Naming) (key : Key) : Option Text :=
  match key with
  | .text name =>
    (Environment.sections.map Environment.Section.name).find? fun proper =>
      proper == naming.compared name
  | _ => none

/-- What the caller says about settings, the sections under their own names. Of several names for
    the same section the first counts. -/
def settings (overrides : Keyed Key Data) : Keyed Key Data :=
  let naming := naming overrides
  let others := overrides.filter fun (key, _) =>
    !(match key with | .text name => directions.contains name | _ => false)
  others.foldl (fun settings (key, value) =>
    match sectionOf? naming key with
    | some name =>
      if settings.has (Key.text name) then settings else settings.put (.text name) value
    | none => settings.put key value) []

end Overrides

/-- Reads both settings documents, that of the user first. -/
def Sources.documents (sources : Sources) : Except SettingsProblem Documents := do
  let user ← readDocument sources.tree sources.workingPlace sources.user
  let project ← readDocument sources.tree sources.workingPlace (sources.project.child documentName)
  return ⟨project, user⟩

/-- What the caller and the environment say together. -/
def Sources.above (sources : Sources) (environment : Keyed Key Data) : Keyed Key Data :=
  Data.overEntries (Overrides.settings sources.overrides) environment

/-- Loads settings. -/
def load (sources : Sources) : Except SettingsProblem Settings := do
  if sources.overrides.has (Key.text Overrides.projectName) then throw .strangeName
  let documents ← (← sources.documents).finite
  let naming := Overrides.naming sources.overrides
  let environment ← (sources.environment.settings naming).mapError .unreadable
  let above := sources.above environment
  ofEntries sources.homes (Data.overEntries above (documents.together (Data.levelsOf above)))

end Settings

end TagAudit
