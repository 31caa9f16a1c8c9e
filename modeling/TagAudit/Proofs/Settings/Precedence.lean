import Mathlib.Data.List.Basic
import TagAudit.Settings.Sources
import TagAudit.Proofs.Data.Overlay
import TagAudit.Proofs.Settings.Environment
import TagAudit.Proofs.Settings.Setting
import TagAudit.Proofs.Yaml.Levels
import TagAudit.Proofs.Yaml.Tables

/-!
# Which source a setting comes from

Settings come from the caller, the environment, the document of the project and that of the user, and
each setting by itself comes from the first of them that read anything about it, even that it is null.
A source that read something about other settings of the same section takes nothing away.
-/

namespace TagAudit.Settings

/-- A source of settings that read nothing but what each setting is: it uses no names but those of
the sections, gives a mapping for each section that it uses, and for each setting something that is
no mapping. -/
structure IsPlain (source : Keyed Key Data) : Prop where
  sections (key : Key) (among : key ∈ source.keys) : ∃ s : Setting, key = .text s.sectionName
  tabular : IsTabular source
  single (s : Setting) (value : Data) (said : s.in? source = some value) : value.table? = none

/-- Whether a source is plain can be found out. -/
theorem isPlain_iff {source : Keyed Key Data} :
    IsPlain source ↔
      (∀ key ∈ source.keys, ∃ s ∈ Setting.all, key = .text s.sectionName) ∧
      (∀ s ∈ Setting.all,
        ((source.get? (Key.text s.sectionName)).all fun value => value.table?.isSome) = true) ∧
      ∀ s ∈ Setting.all, ((s.in? source).all fun value => value.table?.isNone) = true := by
  simp only [Option.all_eq_true]
  constructor
  · intro plain
    refine ⟨fun key among => ?_, fun s _ value found => ?_, fun s _ value said => ?_⟩
    · obtain ⟨s, rfl⟩ := plain.sections key among
      exact ⟨s, s.mem_all, rfl⟩
    · exact Option.isSome_iff_exists.mpr (plain.tabular s value found)
    · exact Option.isNone_iff_eq_none.mpr (plain.single s value said)
  · rintro ⟨sections, tabular, single⟩
    refine ⟨fun key among => ?_, fun s value found => ?_, fun s value said => ?_⟩
    · obtain ⟨s, -, same⟩ := sections key among
      exact ⟨s, same⟩
    · exact Option.isSome_iff_exists.mp (tabular s s.mem_all value found)
    · exact Option.isNone_iff_eq_none.mp (single s s.mem_all value said)

instance (source : Keyed Key Data) : Decidable (IsPlain source) := decidable_of_iff' _ isPlain_iff

/-- What sources say about a setting: what the first says that read anything about it. -/
def Setting.chosen (s : Setting) (sources : List (Keyed Key Data)) : Option Data :=
  sources.findSome? fun source => s.in? source

namespace Setting

theorem chosen_nil (s : Setting) : s.chosen [] = none := rfl

/-- What a first source says counts, and what the others say if it says nothing. -/
theorem chosen_cons (s : Setting) (source : Keyed Key Data) (others : List (Keyed Key Data)) :
    s.chosen (source :: others) = (s.in? source).or (s.chosen others) := by
  rw [chosen, List.findSome?_cons]
  cases s.in? source <;> rfl

end Setting

section
variable {upper lower : Keyed Key Data}

/-- What stands under a name in a section that is found. -/
theorem in?_eq {source : Keyed Key Data} {s : Setting} {value : Data} {inner : Keyed Key Data}
    (found : source.get? (Key.text s.sectionName) = some value) (table : value.table? = some inner) :
    s.in? source = inner.get? (Key.text s.name) := by
  rw [Setting.in?, found, Option.bind_some, Data.field?, table, Option.bind_some]

/-- Where two sources are combined, a setting is what the upper one says about it, and what the lower
one says if the upper one says nothing. -/
theorem in?_overEntries (distinct : Data.IsDistinctWithin upper) (plain : IsPlain upper)
    (tabular : IsTabular lower) (s : Setting) :
    s.in? (Data.overEntries upper lower) = (s.in? upper).or (s.in? lower) := by
  have together := Data.get?_overEntries (Key.text s.sectionName) upper lower distinct.outer
  cases above : upper.get? (Key.text s.sectionName) with
  | none =>
    have nothing : s.in? upper = none := by rw [Setting.in?, above, Option.bind_none]
    rw [above, Option.merge_none_left] at together
    rw [nothing, Option.none_or, Setting.in?, together, Setting.in?]
  | some value =>
    obtain ⟨inner, table⟩ := plain.tabular s value above
    cases below : lower.get? (Key.text s.sectionName) with
    | none =>
      have nothing : s.in? lower = none := by rw [Setting.in?, below, Option.bind_none]
      rw [above, below, Option.merge_none_right] at together
      rw [nothing, Option.or_none, in?_eq together table, in?_eq above table]
    | some value' =>
      obtain ⟨inner', table'⟩ := tabular s value' below
      rw [above, below, Option.merge_some_some] at together
      rw [in?_eq together (Data.table?_laidOver table table'), in?_eq above table,
        in?_eq below table', Data.get?_overEntries _ _ _ (distinct.inner above table)]
      cases said : inner.get? (Key.text s.name) with
      | none => rw [Option.merge_none_left, Option.none_or]
      | some data =>
        have single : data.table? = none := plain.single s data (by rw [in?_eq above table, said])
        cases inner'.get? (Key.text s.name) with
        | none => rfl
        | some data' =>
          rw [Option.merge_some_some, Data.laidOver_of_single (.inl single), Option.some_or]

/-- A combination of plain sources is plain. -/
theorem IsPlain.overEntries (plain : IsPlain upper) (distinct : Data.IsDistinctWithin upper)
    (plain' : IsPlain lower) : IsPlain (Data.overEntries upper lower) where
  sections key among := by
    rcases Data.mem_keys_of_mem_keys_overEntries among with above | below
    · exact plain.sections key above
    · exact plain'.sections key below
  tabular s value found := by
    rw [Data.get?_overEntries _ _ _ distinct.outer] at found
    cases above : upper.get? (Key.text s.sectionName) with
    | none =>
      rw [above, Option.merge_none_left] at found
      exact plain'.tabular s value found
    | some data =>
      obtain ⟨inner, table⟩ := plain.tabular s data above
      cases below : lower.get? (Key.text s.sectionName) with
      | none =>
        rw [above, below, Option.merge_none_right] at found
        obtain rfl := Option.some.inj found
        exact ⟨inner, table⟩
      | some data' =>
        obtain ⟨inner', table'⟩ := plain'.tabular s data' below
        rw [above, below, Option.merge_some_some] at found
        obtain rfl := Option.some.inj found
        exact ⟨_, Data.table?_laidOver table table'⟩
  single s value said := by
    rw [in?_overEntries distinct plain plain'.tabular, Option.or_eq_some_iff] at said
    rcases said with above | ⟨-, below⟩
    · exact plain.single s value above
    · exact plain'.single s value below

end

namespace Overrides

/-- The name of every section is one of two. -/
theorem sectionName_cases (s : Setting) : s.sectionName = "logging" ∨ s.sectionName = "scan" := by
  rw [Setting.sectionName]
  split
  · exact .inl rfl
  · exact .inr rfl

section
variable {overrides : Keyed Key Data}
  (sections : ∀ key ∈ overrides.keys, ∃ s : Setting, key = .text s.sectionName)

include sections

/-- Who names sections only says nothing under another name. -/
theorem get?_eq_none_of_other {name : Text} (other : name ≠ "logging" ∧ name ≠ "scan") :
    overrides.get? (Key.text name) = none := by
  refine Keyed.get?_eq_none fun key among => Bool.eq_false_iff.mpr fun same => ?_
  obtain ⟨s, rfl⟩ := sections key among
  have named : s.sectionName = name := Key.text.inj ((Key.beq_text_iff _ _).mp same)
  rcases sectionName_cases s with log | scan
  · exact other.1 (named.symm.trans log)
  · exact other.2 (named.symm.trans scan)

/-- Who names sections only leaves it as usual how the environment is read. -/
theorem naming_eq : naming overrides = {} := by
  have nothing (name : Text) (other : name ≠ "logging" ∧ name ≠ "scan") :
      said? overrides name = none := by
    rw [said?, get?_eq_none_of_other sections other]
    rfl
  rw [naming]
  dsimp only
  rw [nothing "_env_prefix" (by decide), nothing "_env_nested_delimiter" (by decide),
    nothing "_case_sensitive" (by decide), nothing "_env_ignore_empty" (by decide)]
  rfl

end

/-- The name of a section means that section. -/
theorem sectionOf?_sectionName (s : Setting) :
    sectionOf? {} (.text s.sectionName) = some s.sectionName := by
  rcases sectionName_cases s with log | scan
  · rw [log]
    decide +kernel
  · rw [scan]
    decide +kernel

/-- No name of a section says how settings are loaded. -/
theorem sectionName_not_mem_directions (s : Setting) :
    directions.contains s.sectionName = false := by
  rcases sectionName_cases s with log | scan
  · rw [log]
    decide +kernel
  · rw [scan]
    decide +kernel

/-- Nothing that is said about sections is said about how settings are loaded. -/
theorem filter_directions_eq {overrides : Keyed Key Data}
    (sections : ∀ key ∈ overrides.keys, ∃ s : Setting, key = .text s.sectionName) :
    (overrides.filter fun (key, _) =>
      !(match key with | .text name => directions.contains name | _ => false)) = overrides := by
  refine List.filter_eq_self.mpr fun entry among => ?_
  obtain ⟨key, value⟩ := entry
  obtain ⟨s, rfl⟩ := sections key (List.mem_map_of_mem among)
  exact congrArg not (sectionName_not_mem_directions s)

/-- What the caller says about sections is passed on, of several times the first. -/
theorem settings_eq {overrides : Keyed Key Data}
    (sections : ∀ key ∈ overrides.keys, ∃ s : Setting, key = .text s.sectionName) :
    settings overrides = overrides.foldl Keyed.putNew [] := by
  rw [settings, naming_eq sections]
  refine (congrArg (List.foldl _ []) (filter_directions_eq sections)).trans ?_
  refine List.foldl_ext _ _ _ fun settings entry among => ?_
  obtain ⟨key, value⟩ := entry
  obtain ⟨s, rfl⟩ := sections key (List.mem_map_of_mem among)
  dsimp only
  rw [sectionOf?_sectionName]
  rfl

section
variable {overrides : Keyed Key Data} (plain : IsPlain overrides)
include plain

/-- What the caller says is found under every name as it was said. -/
theorem get?_settings (key : Key) : (settings overrides).get? key = overrides.get? key := by
  rw [settings_eq plain.sections, Keyed.get?_foldl_putNew, Keyed.get?, Option.none_or]

/-- What the caller says about a setting is passed on. -/
theorem in?_settings (s : Setting) : s.in? (settings overrides) = s.in? overrides := by
  rw [Setting.in?, Setting.in?, get?_settings plain]

/-- What is passed on is as plain as what the caller says. -/
theorem isPlain_settings : IsPlain (settings overrides) where
  sections key among := by
    rw [settings_eq plain.sections] at among
    exact plain.sections key ((Keyed.mem_keys_of_mem_keys_foldl_putNew among).resolve_left nofun)
  tabular s value found := plain.tabular s value (by rwa [get?_settings plain] at found)
  single s value said := plain.single s value (by rwa [in?_settings plain] at said)

/-- What is passed on holds no section twice, and no setting if the caller says none twice. -/
theorem isDistinctWithin_settings
    (distinct : ∀ entry ∈ overrides, ∀ inner, entry.2.table? = some inner → Keyed.IsDistinct inner) :
    Data.IsDistinctWithin (settings overrides) where
  outer := by
    rw [settings_eq plain.sections]
    exact Keyed.IsDistinct.foldl_putNew Keyed.isDistinct_nil overrides
  inner {key value inner} found table := by
    rw [get?_settings plain] at found
    obtain ⟨held, -, among⟩ := Keyed.exists_mem_of_get?_eq_some found
    exact distinct _ among inner table

end

end Overrides

/-- What a settings document means holds no key twice, however deep it is laid out. -/
theorem isDistinctWithin_of_meaningOf {path : Path} {t : Text} {web : Yaml.Web}
    (means : meaningOf path t = .ok web) (levels : Nat) :
    Data.IsDistinctWithin (web.entries levels) := by
  rw [meaningOf] at means
  split at means
  · cases means
  · cases means
  · rename_i found read
    dsimp only at means
    split at means
    · cases means
      exact Data.isDistinctWithin_nil
    · split at means
      · cases means
        exact Yaml.isDistinctWithin_of_read read levels
      · cases means

/-- A settings document holds no key twice, and neither does a section in it. -/
theorem isDistinctWithin_of_readDocument {tree : Node} {workingPlace : Place} {path : Path}
    {web : Yaml.Web} (read : readDocument tree workingPlace path = .ok web) (levels : Nat) :
    Data.IsDistinctWithin (web.entries levels) := by
  rw [readDocument] at read
  split at read
  · cases read
    exact Data.isDistinctWithin_nil
  · cases read
  · cases read
  · split at read
    · cases read
    · exact isDistinctWithin_of_meaningOf read levels

/-- The document of a project is one that could be read. -/
theorem Sources.exists_project_of_documents {sources : Sources} {documents : Documents}
    (read : sources.documents = .ok documents) :
    readDocument sources.tree sources.workingPlace (sources.project.child documentName) =
      .ok documents.project := by
  rw [Sources.documents] at read
  obtain ⟨user, -, read⟩ := exists_of_bind_eq_ok read
  obtain ⟨project, projectRead, read⟩ := exists_of_bind_eq_ok read
  cases read
  exact projectRead

namespace Documents

variable {documents : Documents}

/-- The levels of two documents have no end exactly if common keys run on and on through both. -/
theorem levels?_eq_none_iff :
    documents.levels? = none ↔ documents.project.RunsOn documents.user :=
  Yaml.Web.levelsOver?_eq_none_iff

/-- Two documents can be combined unless common keys run on and on through both. -/
theorem finite_of_not_runsOn (ends : ¬documents.project.RunsOn documents.user) :
    documents.finite = .ok documents :=
  if_pos (Option.isSome_iff_ne_none.mpr (mt levels?_eq_none_iff.mp ends))

/-- Two documents through both of which common keys run on and on cannot be combined. -/
theorem finite_of_runsOn (endless : documents.project.RunsOn documents.user) :
    documents.finite = .error .endless := by
  rw [finite, levels?_eq_none_iff.mpr endless]
  rfl

end Documents

section
variable {entries : Keyed Key Data}
  (sections : ∀ key ∈ entries.keys, ∃ s : Setting, key = .text s.sectionName)
include sections

/-- The names of sections are known. -/
theorem unknownNames_eq_nil : unknownNames entries = [] := by
  refine List.filterMap_eq_nil_iff.mpr fun entry among => ?_
  obtain ⟨key, value⟩ := entry
  obtain ⟨s, rfl⟩ := sections key (List.mem_map_of_mem among)
  have known : (Environment.sections.any fun known => known.name == s.sectionName) = true := by
    cases s <;> decide +kernel
  exact if_pos known

/-- The names of sections can be compared. -/
theorem incomparable?_eq_none : incomparable? entries = none := by
  refine List.findSome?_eq_none_iff.mpr fun entry among => ?_
  obtain ⟨key, value⟩ := entry
  obtain ⟨s, rfl⟩ := sections key (List.mem_map_of_mem among)
  have plain : ¬s.sectionName.any CodePoint.isSurrogate = true := by
    cases s <;> decide +kernel
  exact if_neg plain

/-- The names of sections are texts. -/
theorem not_any_strange :
    ¬(entries.any fun entry => match entry.1 with | .text _ => false | _ => true) = true := by
  rw [List.any_eq_true]
  rintro ⟨⟨key, value⟩, among, strange⟩
  obtain ⟨s, rfl⟩ := sections key (List.mem_map_of_mem among)
  cases strange

/-- Where only sections are named, the settings are those that the check of the sections yields. If it
yields none, the first issue that it finds is reported, if it can be. -/
theorem ofEntries_eq (homes : Homes) :
    ofEntries homes entries =
      match checkSections homes entries with
      | .ok settings => .ok settings
      | .error .unknownHome => .error .unknownHome
      | .error (.issues first _) =>
        .error (if first.input.isDisplayable then .failure (failureOf first) else .unreportable) := by
  rw [ofEntries]
  refine (if_neg (not_any_strange sections)).trans ?_
  rewrite [checkClosed, incomparable?_eq_none sections, unknownNames_eq_nil sections]
  rcases checkSections homes entries with (⟨first, others⟩ | _) | settings <;> rfl

end

/-- How many levels the caller and the environment are laid over the documents. -/
def Sources.levelsAbove (sources : Sources) (environment : Keyed Key Data) : Nat :=
  Data.levelsOf (sources.above environment)

/-- What settings are loaded from, apart from the caller: the environment and both documents can be
read, and what they hold is plain. -/
structure Sources.Provide (sources : Sources) (environment : Keyed Key Data)
    (documents : Documents) : Prop where
  environmentRead : sources.environment.settings {} = .ok environment
  environmentPlain : IsPlain environment
  documentsRead : sources.documents = .ok documents
  projectPlain : IsPlain (documents.ofProject (sources.levelsAbove environment))
  userPlain : IsPlain (documents.ofUser (sources.levelsAbove environment))

/-- Sources that are found to be read and plain, and of a kind that can be found out. -/
theorem Sources.exists_provide {sources : Sources} {isFit : Keyed Key Data → Documents → Bool}
    (found : ((sources.environment.settings {}).toOption.any fun environment =>
      sources.documents.toOption.any fun documents =>
        decide (IsPlain environment ∧
          IsPlain (documents.ofProject (sources.levelsAbove environment)) ∧
          IsPlain (documents.ofUser (sources.levelsAbove environment)) ∧
          isFit environment documents = true)) = true) :
    ∃ environment documents,
      sources.Provide environment documents ∧ isFit environment documents = true := by
  cases environmentRead : sources.environment.settings {} with
  | error _ =>
    rw [environmentRead] at found
    cases found
  | ok environment =>
    cases documentsRead : sources.documents with
    | error _ =>
      rw [environmentRead, documentsRead] at found
      cases found
    | ok documents =>
      rw [environmentRead, documentsRead] at found
      obtain ⟨environmentPlain, projectPlain, userPlain, fit⟩ := of_decide_eq_true found
      exact ⟨environment, documents,
        ⟨environmentRead, environmentPlain, documentsRead, projectPlain, userPlain⟩, fit⟩

/-- What settings come from behind the caller, the first first: the environment, the document of the
project and that of the user. -/
def Sources.behind (sources : Sources) (environment : Keyed Key Data) (documents : Documents) :
    List (Keyed Key Data) :=
  [environment, documents.ofProject (sources.levelsAbove environment),
    documents.ofUser (sources.levelsAbove environment)]

/-- What settings come from, the caller first. -/
def Sources.inTurn (sources : Sources) (environment : Keyed Key Data) (documents : Documents) :
    List (Keyed Key Data) :=
  sources.overrides :: sources.behind environment documents

/-- What a caller can say: something plain in which no section says what a setting is twice. -/
structure IsSayable (overrides : Keyed Key Data) : Prop extends IsPlain overrides where
  distinct (entry : Key × Data) (among : entry ∈ overrides) (inner : Keyed Key Data)
    (table : entry.2.table? = some inner) : inner.IsDistinct

/-- How loading comes out where something is chosen for each setting, or nothing. -/
structure Settles (homes : Homes) (chosen : Setting → Option Data)
    (outcome : Except SettingsProblem Settings) : Prop where
  /-- Settings are loaded exactly if all that is chosen is valid. Then each is what is chosen for it in
      its valid form, or its default. -/
  loaded (settings : Settings) :
    outcome = .ok settings ↔ ∀ s : Setting, s.checked homes (chosen s) = .ok (s.valueIn settings)
  /-- If something leads to a home that is not known, loading breaks down. -/
  lost (s : Setting) (unknown : s.checked homes (chosen s) = .error .unknownHome) :
    outcome = .error .unknownHome
  /-- Otherwise the first issue with the first setting that is not valid is reported, with its place,
      if what it is about can be shown. -/
  reported (before : List Setting) (s : Setting) (after : List Setting) (first : Issue)
    (others : List Issue) (order : Setting.all = before ++ s :: after)
    (valid : ∀ b ∈ before, ∃ value, b.checked homes (chosen b) = .ok value)
    (refused : s.checked homes (chosen s) = .error (.issues first others))
    (known : ∀ a ∈ after, a.checked homes (chosen a) ≠ .error .unknownHome) :
    outcome = .error (if first.input.isDisplayable then
      .failure (.configInvalid
        (.text (Text.joined "." (s.sectionName :: s.name :: first.place.map Step.toText)))
        first.input (.text first.fault.message))
      else .unreportable)

/-- Settings that are chosen alike come out alike, whatever else the sources say. -/
theorem Settles.valueIn_eq {homes : Homes} {chosen chosen' : Setting → Option Data}
    {outcome outcome' : Except SettingsProblem Settings} {settings settings' : Settings}
    (settles : Settles homes chosen outcome) (settles' : Settles homes chosen' outcome')
    (loaded : outcome = .ok settings) (loaded' : outcome' = .ok settings') {s : Setting}
    (alike : chosen' s = chosen s) : s.valueIn settings' = s.valueIn settings := by
  have here := (settles.loaded settings).mp loaded s
  have there := (settles'.loaded settings').mp loaded' s
  rw [alike, here] at there
  exact (Except.ok.inj there).symm

/-- Whatever is chosen and refused is reported, and the first of it in the order of the settings: by the
first issue with that setting, with its place. -/
def Reports (homes : Homes) (chosen : Setting → Option Data)
    (outcome : Except SettingsProblem Settings) : Prop :=
  ∀ (before : List Setting) (s : Setting) (after : List Setting),
    Setting.all = before ++ s :: after →
    (∀ b ∈ before, ∃ value, b.checked homes (chosen b) = .ok value) →
    (¬∃ value, s.checked homes (chosen s) = .ok value) →
      ∃ first : Issue,
        (∀ issue others, s.checked homes (chosen s) = .error (.issues issue others) →
          first = issue) ∧
        outcome = .error (.failure (failureOf (s.placed first)))

/-- If a setting is refused there is a first that is. -/
theorem Setting.exists_first_refused {homes : Homes} {chosen : Setting → Option Data} {s : Setting}
    (refused : ¬∃ value, s.checked homes (chosen s) = .ok value) :
    ∃ before first after, Setting.all = before ++ first :: after ∧
      (∀ b ∈ before, ∃ value, b.checked homes (chosen b) = .ok value) ∧
      ¬∃ value, first.checked homes (chosen first) = .ok value := by
  classical
  have found : (Setting.all.find? fun s =>
      decide (¬∃ value, s.checked homes (chosen s) = .ok value)).isSome = true :=
    List.find?_isSome.mpr ⟨s, s.mem_all, decide_eq_true refused⟩
  obtain ⟨first, found⟩ := Option.isSome_iff_exists.mp found
  obtain ⟨wrong, before, after, order, fine⟩ := List.find?_eq_some_iff_append.mp found
  refine ⟨before, first, after, order, fun b among => ?_, of_decide_eq_true wrong⟩
  have valid := fine b among
  rw [Bool.not_eq_true', decide_eq_false_iff_not, not_not] at valid
  exact valid

/-- All that is refused is reported exactly if nothing leads to a home that is not known, and what the
first issue is about can be shown. -/
theorem Settles.reports_iff {homes : Homes} {chosen : Setting → Option Data}
    {outcome : Except SettingsProblem Settings} (settles : Settles homes chosen outcome) :
    Reports homes chosen outcome ↔
      (∀ s : Setting, s.checked homes (chosen s) ≠ .error .unknownHome) ∧
      ∀ (before : List Setting) (s : Setting) (after : List Setting) (first : Issue)
        (others : List Issue), Setting.all = before ++ s :: after →
        (∀ b ∈ before, ∃ value, b.checked homes (chosen b) = .ok value) →
        s.checked homes (chosen s) = .error (.issues first others) →
          first.input.isDisplayable = true := by
  have noValue {s : Setting} {refusal : Refusal}
      (refused : s.checked homes (chosen s) = .error refusal) :
      ¬∃ value, s.checked homes (chosen s) = .ok value := by
    rintro ⟨value, read⟩
    cases refused.symm.trans read
  constructor
  · intro reports
    have known (s : Setting) : s.checked homes (chosen s) ≠ .error .unknownHome := by
      intro unknown
      obtain ⟨before, first, after, order, valid, refused⟩ :=
        Setting.exists_first_refused (noValue unknown)
      obtain ⟨issue, -, reported⟩ := reports before first after order valid refused
      cases (settles.lost s unknown).symm.trans reported
    refine ⟨known, fun before s after first others order valid refused => ?_⟩
    obtain ⟨issue, -, reported⟩ := reports before s after order valid (noValue refused)
    have comes := settles.reported before s after first others order valid refused
      fun a _ => known a
    by_contra hidden
    rw [if_neg hidden] at comes
    cases comes.symm.trans reported
  · rintro ⟨known, shown⟩ before s after order valid refused
    rcases read : s.checked homes (chosen s) with (⟨first, others⟩ | _) | value
    · refine ⟨first, fun issue others' same => by cases same; rfl, ?_⟩
      have comes := settles.reported before s after first others order valid read
        fun a _ => known a
      rwa [if_pos (shown before s after first others order valid read)] at comes
    · exact absurd read (known s)
    · exact absurd ⟨value, read⟩ refused

/-- The settings that entries amount to are settled by what they say about each. -/
theorem settles_ofEntries {entries : Keyed Key Data} (plain : IsPlain entries) (homes : Homes) :
    Settles homes (fun s => s.in? entries) (ofEntries homes entries) where
  loaded settings := by
    rw [← checkSections_eq_ok_iff homes plain.tabular, ofEntries_eq plain.sections]
    rcases checkSections homes entries with (⟨first, others⟩ | _) | settings' <;> simp
  lost s unknown := by
    have issues := issues?_checkSections homes plain.tabular
    rw [(Setting.issuesOf_eq_none_iff _).mpr ⟨s, s.mem_all, unknown⟩,
      Checked.issues?_eq_none_iff] at issues
    rw [ofEntries_eq plain.sections, issues]
  reported before s after first others order valid refused known := by
    obtain ⟨more, found⟩ := Setting.exists_issuesOf_eq_cons known valid refused
    have issues := issues?_checkSections homes plain.tabular
    rw [order, found] at issues
    rw [ofEntries_eq plain.sections]
    rcases checked : checkSections homes entries with (⟨first', others'⟩ | _) | settings
    · rw [checked] at issues
      obtain ⟨rfl, rfl⟩ := List.cons.inj (Option.some.inj issues)
      rfl
    · rw [checked] at issues
      cases issues
    · rw [checked] at issues
      cases issues

section
variable {sources : Sources} {environment : Keyed Key Data} {documents : Documents}
  (provide : sources.Provide environment documents) (sayable : IsSayable sources.overrides)
include provide sayable

/-- Settings are loaded from what the caller says over the environment, and that over both documents
together, if these can be combined. -/
theorem load_eq_bind :
    load sources = documents.finite.bind fun documents =>
      ofEntries sources.homes (Data.overEntries (sources.above environment)
        (documents.together (sources.levelsAbove environment))) := by
  have absent : ¬sources.overrides.has (Key.text Overrides.projectName) = true := by
    rw [Keyed.has_eq, Overrides.get?_eq_none_of_other sayable.sections (by decide)]
    exact Bool.false_ne_true
  rw [load, if_neg absent, provide.documentsRead, Overrides.naming_eq sayable.sections]
  dsimp only
  rw [provide.environmentRead]
  rfl

/-- Where the documents cannot be combined, loading breaks down. -/
theorem load_eq_of_runsOn (endless : documents.project.RunsOn documents.user) :
    load sources = .error .endless := by
  rw [load_eq_bind provide sayable, Documents.finite_of_runsOn endless]
  rfl

/-- Where settings are loaded, the documents could be combined. -/
theorem ends_of_load {settings : Settings} (loaded : load sources = .ok settings) :
    ¬documents.project.RunsOn documents.user := by
  intro endless
  cases (load_eq_of_runsOn provide sayable endless).symm.trans loaded

/-- What is loaded is settled setting by setting by the first source that says anything. -/
theorem settles_load (ends : ¬documents.project.RunsOn documents.user) :
    Settles sources.homes (fun s => s.chosen (sources.inTurn environment documents))
      (load sources) := by
  have plain := sayable.toIsPlain
  have overridesDistinct := Overrides.isDistinctWithin_settings plain sayable.distinct
  have projectDistinct : Data.IsDistinctWithin
      (documents.ofProject (sources.levelsAbove environment)) :=
    isDistinctWithin_of_readDocument
      (Sources.exists_project_of_documents provide.documentsRead) _
  -- the caller and the environment lie above both documents
  have above : IsPlain (sources.above environment) :=
    (Overrides.isPlain_settings plain).overEntries overridesDistinct provide.environmentPlain
  have aboveDistinct : Data.IsDistinctWithin (sources.above environment) :=
    overridesDistinct.overEntries
      (Environment.isDistinctWithin_of_settings provide.environmentRead)
  have below : IsPlain (documents.together (sources.levelsAbove environment)) :=
    provide.projectPlain.overEntries projectDistinct provide.userPlain
  have chosen : (fun s : Setting => s.chosen (sources.inTurn environment documents)) =
      fun s => s.in? (Data.overEntries (sources.above environment)
        (documents.together (sources.levelsAbove environment))) := by
    funext s
    rw [in?_overEntries aboveDistinct above below.tabular, Sources.above,
      in?_overEntries overridesDistinct (Overrides.isPlain_settings plain)
        provide.environmentPlain.tabular, Documents.together,
      in?_overEntries projectDistinct provide.projectPlain provide.userPlain.tabular,
      Overrides.in?_settings plain, Option.or_assoc, Sources.inTurn, Sources.behind,
      s.chosen_cons, s.chosen_cons, s.chosen_cons, s.chosen_cons, s.chosen_nil, Option.or_none]
  rw [load_eq_bind provide sayable, Documents.finite_of_not_runsOn ends, chosen]
  exact settles_ofEntries (above.overEntries aboveDistinct below) sources.homes

end

end TagAudit.Settings
