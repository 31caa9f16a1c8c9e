import TagAudit.Settings.Check
import TagAudit.Settings.Environment

/-!
# Settings one by one

The check of all settings is told by the checks of the single ones. Settings are read exactly if each
of them is, and then each has the value that its data is read as, or its default where there is no
data. If not, the issues are those of the single settings, one after the other in the order in which
the settings are declared; and if any of them leads to a home that is not known, that is all there is
to be said.
-/

namespace TagAudit

/-- One result after another is a value only if the first one is. -/
theorem exists_of_bind_eq_ok {ε α β : Type} {first : Except ε α} {next : α → Except ε β}
    {result : β} (completed : first >>= next = .ok result) :
    ∃ value, first = .ok value ∧ next value = .ok result := by
  cases first with
  | error problem => cases completed
  | ok value => exact ⟨value, rfl, completed⟩

/-- An issue as it is seen from one step further up. -/
def Issue.inside (step : Step) (issue : Issue) : Issue := { issue with place := step :: issue.place }

namespace Checked

variable {α β : Type}

/-- The issues that a check finds, or nothing at all if it ends at a home that is not known. -/
def issues? : Checked α → Option (List Issue)
  | .ok _ => some []
  | .error (.issues first others) => some (first :: others)
  | .error .unknownHome => none

/-- Issues of one check and then those of another; a home that is not known ends both. -/
def followed : Option (List Issue) → Option (List Issue) → Option (List Issue)
  | some before, some after => some (before ++ after)
  | _, _ => none

theorem followed_assoc (a b c : Option (List Issue)) :
    followed (followed a b) c = followed a (followed b c) := by
  cases a <;> cases b <;> cases c <;> simp [followed]

@[simp]
theorem followed_nil (a : Option (List Issue)) : followed a (some []) = a := by
  cases a <;> simp [followed]

theorem followed_eq_none_iff (a b : Option (List Issue)) :
    followed a b = none ↔ a = none ∨ b = none := by
  cases a <;> cases b <;> simp [followed]

/-- Looking at issues from elsewhere does not change which come first. -/
theorem map_followed (f : Issue → Issue) (a b : Option (List Issue)) :
    (followed a b).map (List.map f) = followed (a.map (List.map f)) (b.map (List.map f)) := by
  cases a <;> cases b <;> simp [followed]

/-- The issues of two checks are those of the first and then those of the second. -/
theorem issues?_both (a : Checked α) (b : Checked β) :
    (a.both b).issues? = followed a.issues? b.issues? := by
  rcases a with (⟨first, others⟩ | _) | a <;> rcases b with (⟨first', others'⟩ | _) | b <;>
    simp [both, issues?, Refusal.and, followed]

/-- Nothing is said about issues exactly if the check ends at a home that is not known. -/
theorem issues?_eq_none_iff (a : Checked α) : a.issues? = none ↔ a = .error .unknownHome := by
  rcases a with (⟨first, others⟩ | _) | a <;> simp [issues?]

theorem issues?_map (a : Checked α) (f : α → β) : issues? (a.map f) = a.issues? := by
  rcases a with (⟨first, others⟩ | _) | a <;> rfl

/-- Further up the same issues are found, one step further down. -/
theorem issues?_inside (a : Checked α) (step : Step) :
    (a.inside step).issues? = a.issues?.map (List.map (Issue.inside step)) := by
  rcases a with (⟨first, others⟩ | _) | a <;> rfl

theorem both_eq_ok_iff {a : Checked α} {b : Checked β} {pair : α × β} :
    a.both b = .ok pair ↔ a = .ok pair.1 ∧ b = .ok pair.2 := by
  rcases a with refusal | a <;> rcases b with refusal' | b <;> simp [both, Prod.ext_iff]

theorem map_eq_ok_iff {a : Checked α} {f : α → β} {b : β} :
    a.map f = .ok b ↔ ∃ value, a = .ok value ∧ f value = b := by
  rcases a with refusal | a <;> simp [Except.map]

theorem inside_eq_ok_iff {a : Checked α} {step : Step} {value : α} :
    a.inside step = .ok value ↔ a = .ok value := by
  cases a with
  | error refusal => exact ⟨nofun, nofun⟩
  | ok a => exact Iff.rfl

end Checked

namespace Settings

/-- The settings that there are, in the order in which they are declared. -/
inductive Setting where
  | logLevel | logOutputs
  | classesDir | extension | tagType | failOnError | skipInvalid | maxWorkers | excludeDirs
deriving DecidableEq

namespace Setting

/-- All settings in order. -/
def all : List Setting :=
  [logLevel, logOutputs, classesDir, extension, tagType, failOnError, skipInvalid, maxWorkers,
    excludeDirs]

/-- Every setting is one of all. -/
theorem mem_all (s : Setting) : s ∈ all := by
  cases s <;> decide

/-- Whether a setting is about the log. -/
def isLog : Setting → Bool
  | logLevel | logOutputs => true
  | _ => false

/-- The name of the section that a setting stands in. -/
def sectionName (s : Setting) : Text := if s.isLog then "logging" else "scan"

/-- The name of a setting within its section. -/
def name : Setting → Text
  | logLevel => "level"
  | logOutputs => "outputs"
  | classesDir => "classes_dir"
  | extension => "extension"
  | tagType => "tag_annotation"
  | failOnError => "fail_on_error"
  | skipInvalid => "skip_invalid"
  | maxWorkers => "max_workers"
  | excludeDirs => "exclude_dirs"

/-- The names of all settings are those that are known of their sections. -/
example : all.map (fun s => (s.sectionName, s.name)) =
    Environment.sections.flatMap fun s => s.settings.map (s.name, ·) := by decide +kernel

/-- What a setting can be set to. -/
abbrev Value : Setting → Type
  | logLevel => Log.Level
  | logOutputs => List LogOutput
  | classesDir => Option Text
  | extension | tagType => Text
  | failOnError | skipInvalid => Bool
  | maxWorkers => Int
  | excludeDirs => List Text

/-- What a setting is set to. -/
def valueIn (settings : Settings) : (s : Setting) → s.Value
  | logLevel => settings.log.level
  | logOutputs => settings.log.outputs
  | classesDir => settings.scan.classesDir
  | extension => settings.scan.extension
  | tagType => settings.scan.tagType
  | failOnError => settings.scan.failOnError
  | skipInvalid => settings.scan.skipInvalid
  | maxWorkers => settings.scan.maxWorkers
  | excludeDirs => settings.scan.excludeDirs

/-- Checks data for a setting. -/
def check (homes : Homes) : (s : Setting) → Data → Checked s.Value
  | logLevel => Check.level
  | logOutputs => Check.list (LogOutput.check homes)
  | classesDir => Check.optionalText
  | extension => Check.suitable Check.text isExtension fun t =>
      "Extension must start with '.', got " ++ t.quoted
  | tagType => Check.suitable Check.text isTypeDescriptor fun t =>
      "Tag annotation must be a descriptor like Lpkg/Name;, got " ++ t.quoted
  | failOnError | skipInvalid => Check.bool
  | maxWorkers => Check.suitable Check.int (fun n => decide (1 ≤ n)) fun n =>
      "max_workers must be >= 1, got " ++ Text.ofInt n
  | excludeDirs => Check.list Check.text

/-- What a setting comes to: what its data is read as, or the built-in default if there is none. -/
def checked (homes : Homes) (s : Setting) : (given : Option Data) → Checked s.Value
  | none => .ok (s.valueIn {})
  | some data => s.check homes data

/-- What a source says about a setting. -/
def in? (source : Keyed Key Data) (s : Setting) : Option Data :=
  (source.get? (Key.text s.sectionName)).bind (Data.field? s.name)

/-- What a setting comes to, with its name before the places of its issues. -/
def named (homes : Homes) (source : Keyed Key Data) (s : Setting) : Checked s.Value :=
  (s.checked homes (s.in? source)).inside (.name s.name)

/-- An issue with a setting as it is seen from all settings. -/
def placed (s : Setting) (issue : Issue) : Issue :=
  (issue.inside (.name s.name)).inside (.name s.sectionName)

/-- The issues with a setting, in its place. -/
def issues? (homes : Homes) (s : Setting) (given : Option Data) : Option (List Issue) :=
  (s.checked homes given).issues?.map (List.map s.placed)

/-- The issues with several settings, one after the other. -/
def issuesOf (homes : Homes) (given : Setting → Option Data) : List Setting → Option (List Issue)
  | [] => some []
  | s :: rest => Checked.followed (s.issues? homes (given s)) (issuesOf homes given rest)

section
variable {homes : Homes} {given : Setting → Option Data}

/-- Nothing is said about issues exactly if one of the settings leads to a home that is not known. -/
theorem issuesOf_eq_none_iff (settings : List Setting) :
    issuesOf homes given settings = none ↔
      ∃ s ∈ settings, s.checked homes (given s) = .error .unknownHome := by
  induction settings with
  | nil => simp [issuesOf]
  | cons s rest inductionHypothesis =>
    rw [issuesOf, Checked.followed_eq_none_iff, inductionHypothesis, issues?, Option.map_eq_none_iff,
      Checked.issues?_eq_none_iff]
    simp only [List.mem_cons, exists_eq_or_imp]

/-- The first issue with settings is the first with the first of them that has any. -/
theorem exists_issuesOf_eq_cons {before after : List Setting} {s : Setting} {first : Issue}
    {others : List Issue}
    (known : ∀ s ∈ after, s.checked homes (given s) ≠ .error .unknownHome)
    (fine : ∀ s ∈ before, ∃ value, s.checked homes (given s) = .ok value)
    (faulty : s.checked homes (given s) = .error (.issues first others)) :
    ∃ more, issuesOf homes given (before ++ s :: after) = some (s.placed first :: more) := by
  induction before with
  | nil =>
    obtain ⟨later, found⟩ : ∃ later, issuesOf homes given after = some later := by
      rw [← Option.ne_none_iff_exists', ne_eq, issuesOf_eq_none_iff]
      rintro ⟨s, among, unknown⟩
      exact known s among unknown
    exact ⟨others.map s.placed ++ later, by
      rw [List.nil_append, issuesOf, issues?, faulty, found]
      rfl⟩
  | cons b rest inductionHypothesis =>
    obtain ⟨value, read⟩ := fine b List.mem_cons_self
    obtain ⟨more, found⟩ :=
      inductionHypothesis fun s among => fine s (List.mem_cons_of_mem _ among)
    refine ⟨more, ?_⟩
    rw [List.cons_append, issuesOf, issues?, read, found]
    rfl

end

end Setting

/-- A source that gives a mapping for every section that it mentions. -/
def IsTabular (source : Keyed Key Data) : Prop :=
  ∀ (s : Setting) (value : Data), source.get? (Key.text s.sectionName) = some value →
    ∃ inner, value.table? = some inner

section
variable (homes : Homes) {entries : Keyed Key Data}

/-- A setting of a section that the source does not mention has its default. -/
theorem named_of_absent {s : Setting} (absent : entries.get? (Key.text s.sectionName) = none) :
    s.named homes entries = .ok (s.valueIn {}) := by
  rw [Setting.named, Setting.in?, absent]
  rfl

/-- Checking what the source says about a setting is reading it from its section. -/
theorem named_of_present {s : Setting} {value : Data} {inner : Keyed Key Data}
    (found : entries.get? (Key.text s.sectionName) = some value)
    (table : value.table? = some inner) :
    s.named homes entries = Check.setting s.name (s.valueIn {}) (s.check homes) inner := by
  have given : s.in? entries = inner.get? (Key.text s.name) := by
    rw [Setting.in?, found, Option.bind_some, Data.field?, table, Option.bind_some]
  rw [Setting.named, given, Check.setting]
  cases inner.get? (Key.text s.name) <;> rfl

/-- A section is what its settings come to, if it is the default where the section is absent, and
what is read where it is there. -/
theorem section_eq {α : Type} {name kind : Text} {default : α} {read : Keyed Key Data → Checked α}
    {together : Checked α}
    (tabular : ∀ value, entries.get? (Key.text name) = some value →
      ∃ inner, value.table? = some inner)
    (absent : entries.get? (Key.text name) = none → together = .ok default)
    (present : ∀ value inner, entries.get? (Key.text name) = some value →
      value.table? = some inner → together = read inner) :
    Check.setting name default (Check.settings kind read) entries =
      Checked.inside (.name name) together := by
  rw [Check.setting]
  cases found : entries.get? (Key.text name) with
  | none =>
    rw [absent found]
    rfl
  | some value =>
    obtain ⟨inner, table⟩ := tabular value found
    rw [present value inner found table]
    dsimp only
    rw [Check.settings, table]

/-- The log settings are read setting by setting. -/
theorem logging_eq (tabular : IsTabular entries) :
    Check.setting "logging" {} (LogSettings.check homes) entries =
      Checked.inside (.name "logging")
        (((Setting.logLevel.named homes entries).both (Setting.logOutputs.named homes entries)).map
          fun (level, outputs) => ⟨level, outputs⟩) := by
  refine section_eq (tabular .logLevel) (fun absent => ?_) fun value inner found table => ?_
  · rw [named_of_absent homes (s := .logLevel) absent,
      named_of_absent homes (s := .logOutputs) absent]
    rfl
  · rw [named_of_present homes (s := .logLevel) found table,
      named_of_present homes (s := .logOutputs) found table]
    rfl

/-- The scan settings are read setting by setting. -/
theorem scan_eq (tabular : IsTabular entries) :
    Check.setting "scan" {} ScanSettings.check entries =
      Checked.inside (.name "scan")
        (((Setting.classesDir.named homes entries).both
          ((Setting.extension.named homes entries).both
          ((Setting.tagType.named homes entries).both
          ((Setting.failOnError.named homes entries).both
          ((Setting.skipInvalid.named homes entries).both
          ((Setting.maxWorkers.named homes entries).both
            (Setting.excludeDirs.named homes entries))))))).map
          fun (classesDir, extension, tagType, failOnError, skipInvalid, maxWorkers, excludeDirs) =>
            ⟨classesDir, extension, tagType, failOnError, skipInvalid, maxWorkers, excludeDirs⟩) := by
  refine section_eq (tabular .classesDir) (fun absent => ?_) fun value inner found table => ?_
  · have default (s : Setting) (scan : s.isLog = false) :
        s.named homes entries = .ok (s.valueIn {}) :=
      named_of_absent homes (by rw [Setting.sectionName, scan, if_neg Bool.false_ne_true, absent])
    rw [default .classesDir rfl, default .extension rfl, default .tagType rfl,
      default .failOnError rfl, default .skipInvalid rfl, default .maxWorkers rfl,
      default .excludeDirs rfl]
    rfl
  · have there (s : Setting) (scan : s.isLog = false) :
        s.named homes entries = Check.setting s.name (s.valueIn {}) (s.check homes) inner :=
      named_of_present homes
        (by rw [Setting.sectionName, scan, if_neg Bool.false_ne_true, found]) table
    rw [there .classesDir rfl, there .extension rfl, there .tagType rfl, there .failOnError rfl,
      there .skipInvalid rfl, there .maxWorkers rfl, there .excludeDirs rfl]
    rfl

/-- Settings are read exactly if every single one is, and then each is what it comes to. -/
theorem checkSections_eq_ok_iff (tabular : IsTabular entries) (settings : Settings) :
    checkSections homes entries = .ok settings ↔
      ∀ s : Setting, s.checked homes (s.in? entries) = .ok (s.valueIn settings) := by
  rw [checkSections, logging_eq homes tabular, scan_eq homes tabular]
  simp only [Checked.map_eq_ok_iff, Checked.both_eq_ok_iff, Checked.inside_eq_ok_iff, Setting.named]
  constructor
  · rintro ⟨_, ⟨⟨_, ⟨level, outputs⟩, log⟩, ⟨_, ⟨classesDir, extension, tagType, failOnError,
      skipInvalid, maxWorkers, excludeDirs⟩, scan⟩⟩, rfl⟩ s
    rw [← log, ← scan]
    cases s <;> assumption
  · intro each
    exact ⟨(settings.log, settings.scan),
      ⟨⟨(settings.log.level, settings.log.outputs), ⟨each .logLevel, each .logOutputs⟩, rfl⟩,
        (settings.scan.classesDir, settings.scan.extension, settings.scan.tagType,
          settings.scan.failOnError, settings.scan.skipInvalid, settings.scan.maxWorkers,
          settings.scan.excludeDirs),
        ⟨each .classesDir, each .extension, each .tagType, each .failOnError, each .skipInvalid,
          each .maxWorkers, each .excludeDirs⟩, rfl⟩, rfl⟩

/-- The issues with settings are those with the single ones, in order. -/
theorem issues?_checkSections (tabular : IsTabular entries) :
    (checkSections homes entries).issues? =
      Setting.issuesOf homes (Setting.in? entries) Setting.all := by
  rw [checkSections, logging_eq homes tabular, scan_eq homes tabular]
  have single (s : Setting) :
      ((s.named homes entries).issues?.map (List.map (Issue.inside (.name s.sectionName)))) =
        s.issues? homes (s.in? entries) := by
    rw [Setting.named, Checked.issues?_inside, Option.map_map, Setting.issues?]
    congr 1
    funext issues
    exact List.map_map
  have log (s : Setting) (of : s.isLog = true) :
      ((s.named homes entries).issues?.map (List.map (Issue.inside (.name "logging")))) =
        s.issues? homes (s.in? entries) := by
    rw [← single, Setting.sectionName, if_pos of]
  have scan (s : Setting) (of : s.isLog = false) :
      ((s.named homes entries).issues?.map (List.map (Issue.inside (.name "scan")))) =
        s.issues? homes (s.in? entries) := by
    rw [← single, Setting.sectionName, of, if_neg Bool.false_ne_true]
  simp only [Checked.issues?_map, Checked.issues?_both, Checked.issues?_inside,
    Checked.map_followed, Checked.followed_assoc, Setting.all, Setting.issuesOf,
    Checked.followed_nil, log .logLevel rfl, log .logOutputs rfl, scan .classesDir rfl,
    scan .extension rfl, scan .tagType rfl, scan .failOnError rfl, scan .skipInvalid rfl,
    scan .maxWorkers rfl, scan .excludeDirs rfl]

end

end Settings

end TagAudit
