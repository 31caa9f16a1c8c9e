import TagAudit.CommandLine.Run
import TagAudit.Proofs.Settings.Precedence

/-!
# Options of the command as settings

What the options of the command say stands above all other sources of settings. They say exactly what
is given: an option that is not given leaves its setting to the other sources, as if the command had
no such option.
-/

namespace TagAudit

namespace Settings

/-- No two settings have the same name. -/
theorem Setting.name_injective {s s' : Setting} (same : s.name = s'.name) : s = s' := by
  have apart : ∀ s ∈ Setting.all, ∀ s' ∈ Setting.all, s.name = s'.name → s = s' := by decide +kernel
  exact apart s s.mem_all s' s'.mem_all same

/-- What is given for some settings is found under their names. -/
theorem get?_filterMap (given : Setting → Option Data) (settings : List Setting) (s : Setting) :
    Keyed.get? s.name (settings.filterMap fun s => (given s).map (s.name, ·)) =
      if s ∈ settings then given s else none := by
  induction settings with
  | nil => rfl
  | cons first rest inductionHypothesis =>
    rw [List.filterMap_cons]
    by_cases same : s = first
    · subst same
      rw [if_pos List.mem_cons_self]
      cases said : given s with
      | none =>
        rw [Option.map_none, inductionHypothesis, said, ite_self]
      | some value => rw [Option.map_some, Keyed.get?, if_pos BEq.rfl]
    · have apart : ¬(first.name == s.name) = true := fun named =>
        same (Setting.name_injective (beq_iff_eq.mp named)).symm
      have among : s ∈ first :: rest ↔ s ∈ rest := by rw [List.mem_cons, or_iff_right same]
      rw [if_congr among rfl rfl, ← inductionHypothesis]
      cases given first with
      | none => rfl
      | some value => rw [Option.map_some, Keyed.get?, if_neg apart]

end Settings

namespace CommandLine.CheckRequest

open Settings (IsPlain IsSayable)

/-- What the option for a setting says, if the setting has one and it is given. -/
def option? (request : CheckRequest) : Settings.Setting → Option Data
  | .failOnError => request.failOnError.map .bool
  | .skipInvalid => if request.skipInvalid then some (.bool true) else none
  | .maxWorkers => request.workers.map .int
  | .tagType => request.tagType.map .text
  | .logLevel | .logOutputs | .classesDir | .extension | .excludeDirs => none

/-- The options that are given, by the names of their settings. -/
def fields (request : CheckRequest) : Keyed Text Data :=
  [Settings.Setting.failOnError, .skipInvalid, .maxWorkers, .tagType].filterMap fun s =>
    (request.option? s).map (s.name, ·)

/-- The options that are given stand in one section, which is left out if there are none. -/
theorem overrides_eq (request : CheckRequest) :
    request.overrides =
      if request.fields = [] then [] else [(.text "scan", .ofFields request.fields)] := by
  have given : [request.failOnError.map fun on => (Text.ofString "fail_on_error", Data.bool on),
      if request.skipInvalid then some ("skip_invalid", .bool true) else none,
      request.workers.map fun n => ("max_workers", .int n),
      request.tagType.map fun t => ("tag_annotation", .text t)].filterMap id = request.fields := by
    rcases request with ⟨classesDir, project, failOnError, skipInvalid, workers, tagType, json⟩
    cases failOnError <;> cases skipInvalid <;> cases workers <;> cases tagType <;> rfl
  rw [overrides, given]
  cases request.fields <;> rfl

/-- Among the options that are given stands what the option for a setting says. -/
theorem get?_fields (request : CheckRequest) (s : Settings.Setting) :
    request.fields.get? s.name = request.option? s := by
  rw [fields, Settings.get?_filterMap]
  split
  · rfl
  · rename_i other
    cases s <;> first | rfl | exact absurd (by decide) other

/-- The command says about a setting what its option says. -/
theorem in?_overrides (request : CheckRequest) (s : Settings.Setting) :
    s.in? request.overrides = request.option? s := by
  rw [overrides_eq, ← get?_fields]
  by_cases none : request.fields = []
  · rw [if_pos none, none]
    rfl
  · rw [if_neg none]
    cases log : s.isLog with
    | true =>
      have elsewhere : Keyed.get? (Key.text s.sectionName)
          [(Key.text "scan", Data.ofFields request.fields)] = Option.none := by
        rw [Settings.Setting.sectionName, if_pos log]
        rfl
      rw [Settings.Setting.in?, elsewhere, get?_fields]
      cases s <;> first | rfl | cases log
    | false =>
      have there : Keyed.get? (Key.text s.sectionName)
          [(Key.text "scan", Data.ofFields request.fields)] = some (.ofFields request.fields) := by
        rw [Settings.Setting.sectionName, log, if_neg Bool.false_ne_true, Keyed.get?, if_pos BEq.rfl]
      rw [Settings.in?_eq there rfl, get?_map_text]

/-- All that the command says stands in the section for scans. -/
theorem eq_of_mem_overrides {request : CheckRequest} {entry : Key × Data}
    (among : entry ∈ request.overrides) : entry = (.text "scan", .ofFields request.fields) := by
  rw [overrides_eq] at among
  split at among
  · cases among
  · exact List.mem_singleton.mp among

/-- The command says nothing but what settings are, and none to be a mapping. -/
theorem isPlain_overrides (request : CheckRequest) : IsPlain request.overrides where
  sections key among := by
    obtain ⟨entry, held, rfl⟩ := List.mem_map.mp among
    rw [eq_of_mem_overrides held]
    exact ⟨.classesDir, rfl⟩
  tabular s value found := by
    obtain ⟨key, -, held⟩ := Keyed.exists_mem_of_get?_eq_some found
    cases eq_of_mem_overrides held
    exact ⟨_, rfl⟩
  single s value said := by
    rw [in?_overrides] at said
    cases s with
    | failOnError | maxWorkers | tagType =>
      obtain ⟨_, -, rfl⟩ := Option.map_eq_some_iff.mp said
      rfl
    | skipInvalid =>
      rw [option?] at said
      split at said <;> cases said
      rfl
    | logLevel | logOutputs | classesDir | extension | excludeDirs => cases said

/-- The options that are given can be said by a caller. -/
theorem isSayable_overrides (request : CheckRequest) : IsSayable request.overrides where
  toIsPlain := request.isPlain_overrides
  distinct entry among inner table := by
    rw [eq_of_mem_overrides among] at table
    obtain rfl := Option.some.inj table
    have apart : [Settings.Setting.failOnError, .skipInvalid, .maxWorkers, .tagType].Nodup := by
      decide
    rw [Keyed.IsDistinct, Keyed.keys, List.map_map, List.pairwise_map, fields,
      List.pairwise_filterMap]
    refine apart.imp fun {s s'} different field held field' held' => Bool.eq_false_iff.mpr ?_
    intro same
    obtain ⟨_, -, rfl⟩ := Option.map_eq_some_iff.mp held
    obtain ⟨_, -, rfl⟩ := Option.map_eq_some_iff.mp held'
    exact different (Settings.Setting.name_injective (Key.text.inj ((Key.beq_text_iff _ _).mp same)))

end CommandLine.CheckRequest

end TagAudit
