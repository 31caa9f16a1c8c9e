import Mathlib.Data.List.Forall2
import TagAudit.Proofs.Data.Keys
import TagAudit.Proofs.Path
import TagAudit.Proofs.Settings.Setting
import TagAudit.Settings.Sources

/-!
# Settings checked again

Settings can be turned back into data, and the data of settings that have passed a check passes it
again and gives the same settings. However leniently a value was spelled at first, its data is the
plain spelling of it. The one value that a check rewrites is the name of a file: it comes out in
normal form, with a home directory in place of a tilde, and a name in normal form is left alone.
-/

namespace TagAudit

namespace Check

variable {α : Type} {check : Data → Checked α} {toData : α → Data}

/-- What a check accepts it accepts again, as the same value, when the value is turned back into
data. -/
def IsStable (check : Data → Checked α) (toData : α → Data) : Prop :=
  ∀ (input : Data) (value : α), check input = .ok value → check (toData value) = .ok value

theorem isStable_text : IsStable text Data.text := fun _ _ _ => rfl

theorem isStable_optionalText : IsStable optionalText Data.ofText? := by
  intro _ value _
  cases value <;> rfl

theorem isStable_bool : IsStable bool Data.bool := fun _ _ _ => rfl

theorem isStable_int : IsStable int Data.int := fun _ _ _ => rfl

/-- Levels are known by their names. -/
theorem isStable_level : IsStable level fun named => .text named.settingName := by
  intro _ named _
  cases named <;> rfl

theorem isStable_optionalLevel :
    IsStable optionalLevel fun named? => .ofText? (named?.map Log.Level.settingName) := by
  intro _ named? _
  cases named? with
  | none => rfl
  | some named => cases named <;> rfl

/-- A further condition is on the value, so it holds again. -/
theorem IsStable.suitable (stable : IsStable check toData) (suits : α → Bool) (reason : α → Text) :
    IsStable (Check.suitable check suits reason) toData := by
  intro input value accepted
  obtain ⟨held, found, suited⟩ := exists_of_bind_eq_ok accepted
  split at suited
  · next fine =>
    obtain rfl := Except.ok.inj suited
    rw [Check.suitable, stable input held found]
    exact if_pos fine
  · cases suited

/-- The items of a list are checked one by one. -/
theorem list_go_eq_ok_iff {i : Nat} {items : List Data} {values : List α} :
    list.go check i items = .ok values ↔
      List.Forall₂ (fun item value => check item = .ok value) items values := by
  induction items generalizing i values with
  | nil =>
    rw [list.go, List.forall₂_nil_left_iff]
    exact ⟨fun same => (Except.ok.inj same).symm, fun same => same ▸ rfl⟩
  | cons item rest inductionHypothesis =>
    rw [list.go, Checked.map_eq_ok_iff]
    simp only [Checked.both_eq_ok_iff, Checked.inside_eq_ok_iff, inductionHypothesis]
    constructor
    · rintro ⟨⟨first, others⟩, ⟨accepted, all⟩, rfl⟩
      exact .cons accepted all
    · rintro (_ | ⟨accepted, all⟩)
      exact ⟨(_, _), ⟨accepted, all⟩, rfl⟩

/-- Every value of an accepted list is what an item is read as. -/
theorem exists_item_of_list {input : Data} {values : List α}
    (accepted : list check input = .ok values) {value : α} (among : value ∈ values) :
    ∃ item, check item = .ok value := by
  rw [list] at accepted
  split at accepted
  · next items found =>
    have each := list_go_eq_ok_iff.mp accepted
    obtain ⟨i, inside, rfl⟩ := List.getElem_of_mem among
    have inItems : i < items.length := each.length_eq ▸ inside
    exact ⟨items.get ⟨i, inItems⟩, each.get inItems inside⟩
  · cases accepted

/-- A list is stable if its items are. -/
theorem IsStable.list (stable : IsStable check toData) :
    IsStable (Check.list check) fun values => .list (values.map toData) := by
  intro input values accepted
  apply list_go_eq_ok_iff.mpr
  rw [List.forall₂_map_left_iff, List.forall₂_same]
  intro value among
  obtain ⟨item, held⟩ := exists_item_of_list accepted among
  exact stable item value held

/-- A setting that has been read, or has its default, is read again from its data. -/
theorem IsStable.setting (stable : IsStable check toData) {default : α} {name : Text}
    {entries : Keyed Key Data} {value : α}
    (own : check (toData default) = .ok default)
    (read : Check.setting name default check entries = .ok value) :
    check (toData value) = .ok value := by
  rw [Check.setting] at read
  split at read
  · exact Except.ok.inj read ▸ own
  · next given found => exact stable given value (Checked.inside_eq_ok_iff.mp read)

/-- Settings of a kind are accepted if they can be read from a table. -/
theorem settings_eq_ok_iff {kind : Text} {read : Keyed Key Data → Checked α} {input : Data}
    {value : α} :
    settings kind read input = .ok value ↔
      ∃ entries, input.table? = some entries ∧ read entries = .ok value := by
  rw [settings]
  cases input.table? with
  | none => simp [Checked.refuse]
  | some entries => simp

end Check

open Check

variable {homes : Homes}

namespace LogDestination

/-- The name of a stream, or of a file by the spelling of an absolute path in normal form. -/
def IsSettled (destination : LogDestination) : Prop :=
  destination.name = "stderr" ∨ destination.name = "stdout" ∨
    ∃ path : Path, path.IsNormal ∧ path.isAbsolute ∧ destination.name = path.toText

/-- An accepted destination is a stream, or a file with an absolute path in normal form. -/
theorem cases_of_check {input : Data} {destination : LogDestination}
    (accepted : check homes input = .ok destination) :
    destination = .stderr ∨ destination = .stdout ∨
      ∃ path : Path, path.IsNormal ∧ path.isAbsolute ∧ destination = .file path := by
  obtain ⟨t, -, decided⟩ := exists_of_bind_eq_ok accepted
  split at decided
  · exact .inl (Except.ok.inj decided).symm
  · split at decided
    · exact .inr (.inl (Except.ok.inj decided).symm)
    · split at decided
      · cases decided
      · cases decided
      · next path expanded =>
        by_cases absolute : path.isAbsolute
        · rw [if_pos absolute] at decided
          exact .inr (.inr ⟨path, (Path.isNormal_ofText t).expandHome expanded, absolute,
            (Except.ok.inj decided).symm⟩)
        · rw [if_neg absolute] at decided
          cases decided

/-- An absolute path in normal form is accepted from its spelling, whatever the homes are. -/
theorem check_toText {path : Path} (normal : path.IsNormal) (absolute : path.isAbsolute) :
    check homes (.text path.toText) = .ok (.file path) := by
  have notStream {t : Text} (other : t.head? ≠ some ('/' : CodePoint)) : path.toText ≠ t := by
    rintro rfl
    exact other (Path.head?_toText absolute)
  rw [check]
  simp only [text, bind, Except.bind]
  rw [if_neg (notStream (by decide)), if_neg (notStream (by decide)), normal.ofText_toText,
    Path.expandHome, if_pos absolute]
  exact if_pos absolute

theorem isStable_check : IsStable (check homes) fun destination => .text destination.name := by
  intro input destination accepted
  rcases cases_of_check accepted with rfl | rfl | ⟨path, pathNormal, absolute, rfl⟩
  · rfl
  · rfl
  · exact check_toText pathNormal absolute

/-- Every accepted destination has a settled name. -/
theorem isSettled_of_check {input : Data} {destination : LogDestination}
    (accepted : check homes input = .ok destination) : destination.IsSettled := by
  rcases cases_of_check accepted with rfl | rfl | ⟨path, pathNormal, absolute, rfl⟩
  · exact .inl rfl
  · exact .inr (.inl rfl)
  · exact .inr (.inr ⟨path, pathNormal, absolute, rfl⟩)

end LogDestination

/-- Formats are known by their names. -/
theorem LogFormat.isStable_word :
    IsStable (word ofName? (all.map name)) fun format => .text format.name := by
  intro _ format _
  cases format <;> rfl

namespace LogOutput

/-- An output is accepted if each of its settings is. -/
theorem check_eq_ok_iff {input : Data} {output : LogOutput} :
    check homes input = .ok output ↔ ∃ entries, input.table? = some entries ∧
      setting "format" .console (word LogFormat.ofName? (LogFormat.all.map LogFormat.name))
        entries = .ok output.format ∧
      setting "destination" .stderr (LogDestination.check homes) entries = .ok output.destination ∧
      setting "level" none optionalLevel entries = .ok output.level := by
  simp only [check, settings_eq_ok_iff, Checked.map_eq_ok_iff, Checked.both_eq_ok_iff]
  constructor
  · rintro ⟨entries, table, _, each, rfl⟩
    exact ⟨entries, table, each⟩
  · rintro ⟨entries, table, each⟩
    exact ⟨entries, table, (_, _, _), each, rfl⟩

theorem isStable_check : IsStable (check homes) toData := by
  intro input output accepted
  obtain ⟨entries, -, format, destination, level⟩ := check_eq_ok_iff.mp accepted
  refine check_eq_ok_iff.mpr ⟨_, rfl, ?_, ?_, ?_⟩ <;> apply Checked.inside_eq_ok_iff.mpr
  · exact LogFormat.isStable_word.setting rfl format
  · exact LogDestination.isStable_check.setting rfl destination
  · exact isStable_optionalLevel.setting rfl level

/-- Every accepted output has a destination with a settled name. -/
theorem isSettled_of_check {input : Data} {output : LogOutput}
    (accepted : check homes input = .ok output) : output.destination.IsSettled := by
  obtain ⟨entries, -, -, destination, -⟩ := check_eq_ok_iff.mp accepted
  exact LogDestination.isSettled_of_check
    (LogDestination.isStable_check.setting rfl destination)

end LogOutput

namespace LogSettings

/-- Log settings are accepted if each of them is. -/
theorem check_eq_ok_iff {input : Data} {log : LogSettings} :
    check homes input = .ok log ↔ ∃ entries, input.table? = some entries ∧
      setting "level" .warning Check.level entries = .ok log.level ∧
      setting "outputs" [{}] (list (LogOutput.check homes)) entries = .ok log.outputs := by
  simp only [check, settings_eq_ok_iff, Checked.map_eq_ok_iff, Checked.both_eq_ok_iff]
  constructor
  · rintro ⟨entries, table, _, each, rfl⟩
    exact ⟨entries, table, each⟩
  · rintro ⟨entries, table, each⟩
    exact ⟨entries, table, (_, _), each, rfl⟩

theorem isStable_check : IsStable (check homes) toData := by
  intro input log accepted
  obtain ⟨entries, -, level, outputs⟩ := check_eq_ok_iff.mp accepted
  refine check_eq_ok_iff.mpr ⟨_, rfl, ?_, ?_⟩ <;> apply Checked.inside_eq_ok_iff.mpr
  · exact isStable_level.setting rfl level
  · exact LogOutput.isStable_check.list.setting rfl outputs

/-- Every output of accepted log settings has a destination with a settled name. -/
theorem isSettled_of_check {input : Data} {log : LogSettings}
    (accepted : check homes input = .ok log) {output : LogOutput} (among : output ∈ log.outputs) :
    output.destination.IsSettled := by
  obtain ⟨entries, -, -, outputs⟩ := check_eq_ok_iff.mp accepted
  have again := LogOutput.isStable_check.list.setting rfl outputs
  obtain ⟨item, held⟩ := exists_item_of_list again among
  exact LogOutput.isSettled_of_check held

end LogSettings

namespace ScanSettings

theorem isStable_check : IsStable check toData := by
  intro input scan accepted
  simp only [check, settings_eq_ok_iff, Checked.map_eq_ok_iff, Checked.both_eq_ok_iff] at accepted ⊢
  obtain ⟨entries, -, _, ⟨classesDir, extension, tagType, failOnError, skipInvalid, maxWorkers,
    excludeDirs⟩, rfl⟩ := accepted
  refine ⟨_, rfl, (_, _, _, _, _, _, _), ⟨?_, ?_, ?_, ?_, ?_, ?_, ?_⟩, rfl⟩ <;>
    apply Checked.inside_eq_ok_iff.mpr
  · exact isStable_optionalText.setting rfl classesDir
  · exact (isStable_text.suitable _ _).setting rfl extension
  · exact (isStable_text.suitable _ _).setting rfl tagType
  · exact isStable_bool.setting rfl failOnError
  · exact isStable_bool.setting rfl skipInvalid
  · exact (isStable_int.suitable _ _).setting rfl maxWorkers
  · exact isStable_text.list.setting rfl excludeDirs

end ScanSettings

namespace Settings

/-- Settings that are read from sections are accepted from their data, and are the same. -/
theorem checkSections_toData {entries : Keyed Key Data} {settings : Settings}
    (accepted : checkSections homes entries = .ok settings) :
    check homes settings.toData = .ok settings := by
  rw [checkSections, Checked.map_eq_ok_iff] at accepted
  obtain ⟨_, sections, rfl⟩ := accepted
  obtain ⟨log, scan⟩ := Checked.both_eq_ok_iff.mp sections
  refine settings_eq_ok_iff.mpr ⟨_, rfl, ?_⟩
  refine Checked.map_eq_ok_iff.mpr ⟨(_, _), Checked.both_eq_ok_iff.mpr ⟨?_, ?_⟩, rfl⟩ <;>
    apply Checked.inside_eq_ok_iff.mpr
  · exact LogSettings.isStable_check.setting rfl log
  · exact ScanSettings.isStable_check.setting rfl scan

theorem isStable_check : IsStable (check homes) toData := by
  intro input settings accepted
  obtain ⟨entries, -, sections⟩ := settings_eq_ok_iff.mp accepted
  exact checkSections_toData sections

/-- What merged sources amount to has passed the check of the sections. -/
theorem checkSections_of_ofEntries {entries : Keyed Key Data} {settings : Settings}
    (merged : ofEntries homes entries = .ok settings) :
    checkSections homes entries = .ok settings := by
  rw [ofEntries] at merged
  split at merged
  · cases merged
  · split at merged
    · next found closed =>
      obtain rfl := Except.ok.inj merged
      rw [checkClosed] at closed
      split at closed
      · cases closed
      · exact closed
      · cases closed
      · cases closed
    · cases merged
    · cases merged

/-- What is loaded has passed the check of the sections. -/
theorem exists_checkSections_of_load {sources : Sources} {settings : Settings}
    (loaded : load sources = .ok settings) :
    ∃ entries, checkSections sources.homes entries = .ok settings := by
  rw [load] at loaded
  split at loaded
  · cases loaded
  · obtain ⟨documents, -, loaded⟩ := exists_of_bind_eq_ok loaded
    obtain ⟨combinable, -, loaded⟩ := exists_of_bind_eq_ok loaded
    obtain ⟨environment, -, loaded⟩ := exists_of_bind_eq_ok loaded
    exact ⟨_, checkSections_of_ofEntries loaded⟩

/-- Whatever homes users have, and whether they are known or not, accepted settings of every kind are
accepted again from their data and are the same. So are those that are loaded, from whatever sources.
And the destinations among them have settled names. -/
theorem accepted_again (homes : Homes) :
    IsStable (LogOutput.check homes) LogOutput.toData ∧
      IsStable (LogSettings.check homes) LogSettings.toData ∧
      IsStable ScanSettings.check ScanSettings.toData ∧
      IsStable (Settings.check homes) Settings.toData ∧
      (∀ sources settings, sources.homes = homes → load sources = .ok settings →
        Settings.check homes settings.toData = .ok settings) ∧
      (∀ input output, LogOutput.check homes input = .ok output → output.destination.IsSettled) ∧
      ∀ input log, LogSettings.check homes input = .ok log →
        ∀ output ∈ log.outputs, output.destination.IsSettled := by
  refine ⟨LogOutput.isStable_check, LogSettings.isStable_check, ScanSettings.isStable_check,
    isStable_check, ?_, fun _ _ => LogOutput.isSettled_of_check,
    fun _ _ accepted _ => LogSettings.isSettled_of_check accepted⟩
  intro sources settings same loaded
  obtain ⟨entries, sections⟩ := exists_checkSections_of_load loaded
  rw [same] at sections
  exact checkSections_toData sections

/-- Files below the homes of two users, where one is spelled with more slashes and points than it
needs and the other by the name of the user, and settings that are spelled as texts. -/
theorem looseSpelling_accepted_again :
    let homes := Homes.ofList (some "/home/ann/") [("root", "/root")]
    let input : Data := .ofFields
      [("logging", .ofFields [("outputs",
          .list [.ofFields [("destination", .text "~//x/./y/")],
            .ofFields [("destination", .text "~root/x.log")]])]),
        ("scan", .ofFields [("max_workers", .text " 3.0"), ("fail_on_error", .text "Off")])]
    let own : LogOutput := { destination := .file ⟨1, ["home", "ann", "x", "y"]⟩ }
    let other : LogOutput := { destination := .file ⟨1, ["root", "x.log"]⟩ }
    let settings : Settings :=
      { log := { outputs := [own, other] }, scan := { maxWorkers := 3, failOnError := false } }
    Settings.check homes input = .ok settings ∧
      Settings.check homes settings.toData = .ok settings ∧
      own.destination.name = "/home/ann/x/y" ∧ other.destination.name = "/root/x.log" ∧
      LogSettings.check homes settings.log.toData = .ok settings.log ∧
      own.destination.IsSettled ∧ other.destination.IsSettled := by
  intro homes input own other settings
  have accepted : Settings.check homes input = .ok settings := rfl
  have log : LogSettings.check homes settings.log.toData = .ok settings.log := rfl
  obtain ⟨-, -, -, stable, -, -, settled⟩ := accepted_again homes
  exact ⟨accepted, stable input settings accepted, rfl, rfl, log,
    settled _ settings.log log own List.mem_cons_self,
    settled _ settings.log log other (List.mem_cons_of_mem _ List.mem_cons_self)⟩

end Settings

end TagAudit
