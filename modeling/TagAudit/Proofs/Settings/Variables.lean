import TagAudit.Proofs.Settings.Environment
import TagAudit.Proofs.Settings.Setting
import TagAudit.Proofs.Text.Affixes
import TagAudit.Proofs.Text.Case

/-!
# Variables for single settings

A variable that is named after a setting says what the setting is: the text itself, or what the text
spells where the setting is a list. Other variables say something about the setting only by making it
a mapping, or by saying something about its section as a whole.
-/

namespace TagAudit

namespace Environment

section
variable {separator : Text}

/-- A name has at least one part. -/
theorem nameParts_ne_nil (passing : Nat) (t reversed : Text) :
    nameParts separator passing t reversed ≠ [] := by
  induction t generalizing passing reversed with
  | nil => rw [nameParts]; exact List.cons_ne_nil _ _
  | cons c rest inductionHypothesis =>
    cases passing with
    | succ passing =>
      rw [nameParts]
      exact inductionHypothesis passing reversed
    | zero =>
      rw [nameParts]
      split
      · exact List.cons_ne_nil _ _
      · exact inductionHypothesis 0 (c :: reversed)

/-- A name with one part is that part. -/
theorem eq_of_nameParts_eq_singleton {t reversed part : Text}
    (single : nameParts separator 0 t reversed = [part]) : part = reversed.reverse ++ t := by
  induction t generalizing reversed with
  | nil =>
    rw [nameParts] at single
    rw [List.append_nil]
    exact (List.cons.inj single).1.symm
  | cons c rest inductionHypothesis =>
    rw [nameParts] at single
    split at single
    · exact absurd (List.cons.inj single).2 (nameParts_ne_nil _ _ _)
    · rw [inductionHypothesis single, List.reverse_cons, List.append_assoc, List.singleton_append]

/-- The parts of a name hold nothing that the name does not hold. -/
theorem mem_of_mem_nameParts {passing : Nat} {t reversed part : Text} {c : CodePoint}
    (among : part ∈ nameParts separator passing t reversed) (held : c ∈ part) :
    c ∈ reversed ∨ c ∈ t := by
  induction t generalizing passing reversed with
  | nil =>
    rw [nameParts, List.mem_singleton] at among
    subst among
    exact .inl (List.mem_reverse.mp held)
  | cons first rest inductionHypothesis =>
    cases passing with
    | succ passing =>
      rw [nameParts] at among
      exact (inductionHypothesis among).imp_right (List.mem_cons_of_mem _)
    | zero =>
      rw [nameParts] at among
      split at among
      · rcases List.mem_cons.mp among with rfl | later
        · exact .inl (List.mem_reverse.mp held)
        · exact .inr (List.mem_cons_of_mem _ ((inductionHypothesis later).resolve_left nofun))
      · rcases inductionHypothesis among with before | later
        · rcases List.mem_cons.mp before with rfl | before
          · exact .inr List.mem_cons_self
          · exact .inl before
        · exact .inr (List.mem_cons_of_mem _ later)

end

section
variable {value : Data} {name : Text}

/-- A value that is put under a name alone is found there. -/
theorem get?_putUnder_self (value : Data) (name : Text) (entries : Keyed Key Data) :
    Keyed.get? (Key.text name) (putUnder value [name] entries) = some value := by
  rw [putUnder, Keyed.get?_put, if_pos BEq.rfl]

/-- A value that is put elsewhere changes nothing under a name, unless it makes that a mapping. -/
theorem get?_putUnder_of_ne {names : List Text} (value : Data) (elsewhere : names ≠ [name])
    (entries : Keyed Key Data) :
    Keyed.get? (Key.text name) (putUnder value names entries) = entries.get? (Key.text name) ∨
      ∃ inner, Keyed.get? (Key.text name) (putUnder value names entries) = some (.table inner) := by
  have same (first : Text) : (Key.text first == Key.text name) = true ↔ first = name := by
    rw [Key.beq_text_iff, Key.text.injEq]
  match names with
  | [] => exact .inl rfl
  | [first] =>
    left
    rw [putUnder, Keyed.get?_put, if_neg fun found => elsewhere (by rw [(same first).mp found])]
  | first :: second :: more =>
    rw [putUnder]
    split
    · rw [Keyed.get?_put]
      split
      · exact .inr ⟨_, rfl⟩
      · exact .inl rfl
    · exact .inl rfl
    · nofun

end

/-- Takes what one variable sets in a section. -/
def taken? (naming : Naming) (s : Section) (entries : Keyed Key Data) :
    Text × Text → Option (Keyed Key Data) := fun (name, value) =>
  match Text.after? (variableOf naming s ++ naming.separator) name with
  | none => some entries
  | some rest => do
    let names := nameParts naming.separator 0 rest []
    return putUnder (← settingValue? s names value) names entries

/-- What is set one by one is taken variable by variable. -/
theorem single?_eq (s : Section) (env : Environment) :
    single? {} s env = env.foldlM (taken? {} s) [] := rfl

/-- A variable that sets nothing in a section changes nothing there, and any other puts its value where
its name leads. -/
theorem taken?_eq_some_iff {naming : Naming} {s : Section} {entries after : Keyed Key Data}
    {name value : Text} :
    taken? naming s entries (name, value) = some after ↔
      (Text.after? (variableOf naming s ++ naming.separator) name = none ∧ entries = after) ∨
      ∃ rest data, name = variableOf naming s ++ naming.separator ++ rest ∧
        settingValue? s (nameParts naming.separator 0 rest []) value = some data ∧
        putUnder data (nameParts naming.separator 0 rest []) entries = after := by
  rw [taken?]
  cases found : Text.after? (variableOf naming s ++ naming.separator) name with
  | none =>
    constructor
    · exact fun same => .inl ⟨rfl, Option.some.inj same⟩
    · rintro (⟨-, rfl⟩ | ⟨rest, _, same, -⟩)
      · rfl
      · cases found.symm.trans (Text.after?_eq_some_iff.mpr same)
  | some rest =>
    obtain rfl := Text.after?_eq_some_iff.mp found
    simp [Option.bind_eq_some_iff]

/-- What is found for a setting is what was set for it directly, unless that was made a mapping. -/
def IsDirectly (direct found : Option Data) : Prop :=
  found = direct ∨ ∃ inner, found = some (.table inner)

/-- One variable sets what it is named after, and nothing else but mappings. -/
theorem IsDirectly.taken {s : Section} {setting name value : Text} {direct : Option Data}
    {entries after : Keyed Key Data}
    (parts : nameParts ({} : Naming).separator 0 setting [] = [setting])
    (directly : IsDirectly direct (entries.get? (Key.text setting)))
    (taken : taken? {} s entries (name, value) = some after) :
    IsDirectly
      ((if name = variableOf {} s ++ ({} : Naming).separator ++ setting then
        settingValue? s [setting] value else none).or direct)
      (after.get? (Key.text setting)) := by
  rcases taken?_eq_some_iff.mp taken with ⟨elsewhere, rfl⟩ | ⟨rest, data, rfl, means, rfl⟩
  · have apart : name ≠ variableOf {} s ++ ({} : Naming).separator ++ setting := fun same => by
      cases elsewhere.symm.trans (Text.after?_eq_some_iff.mpr same)
    rw [if_neg apart, Option.none_or]
    exact directly
  · by_cases same : rest = setting
    · subst same
      rw [parts] at means ⊢
      rw [if_pos rfl, means, Option.some_or, get?_putUnder_self]
      exact .inl rfl
    · rw [if_neg fun equal => same (List.append_cancel_left equal), Option.none_or]
      have elsewhere : nameParts ({} : Naming).separator 0 rest [] ≠ [setting] := fun single =>
        same (eq_of_nameParts_eq_singleton single).symm
      rcases get?_putUnder_of_ne data elsewhere entries with unchanged | mapping
      · rw [unchanged]
        exact directly
      · exact .inr mapping

/-- All variables together set what the one sets that is named after a setting. -/
theorem isDirectly_foldlM {s : Section} {setting : Text} {env : Environment}
    (parts : nameParts ({} : Naming).separator 0 setting [] = [setting])
    (distinct : env.keys.Nodup) {entries after : Keyed Key Data} {direct : Option Data}
    (directly : IsDirectly direct (entries.get? (Key.text setting)))
    (taken : env.foldlM (taken? {} s) entries = some after) :
    IsDirectly
      (((env.get? (variableOf {} s ++ ({} : Naming).separator ++ setting)).bind
        (settingValue? s [setting])).or direct)
      (after.get? (Key.text setting)) := by
  induction env generalizing entries direct with
  | nil =>
    obtain rfl := Option.some.inj taken
    exact directly
  | cons assignment rest inductionHypothesis =>
    obtain ⟨name, value⟩ := assignment
    obtain ⟨apart, later⟩ := List.nodup_cons.mp distinct
    rw [List.foldlM_cons] at taken
    obtain ⟨next, first, others⟩ := Option.bind_eq_some_iff.mp taken
    have result := inductionHypothesis later (directly.taken parts first) others
    rw [Keyed.get?]
    by_cases same : name = variableOf {} s ++ ({} : Naming).separator ++ setting
    · have noMore : Keyed.get? name rest = none := Keyed.get?_eq_none fun other among => by
        refine beq_eq_false_iff_ne.mpr ?_
        rintro rfl
        exact apart among
      rw [← same, noMore, if_pos rfl, Option.bind_none, Option.none_or] at result
      rw [← same, if_pos BEq.rfl, Option.bind_some]
      exact result
    · rw [if_neg same, Option.none_or] at result
      rw [if_neg fun equal => same (beq_iff_eq.mp equal)]
      exact result

/-- A value is put under the first of the names that lead to it, if it is put anywhere. -/
theorem putUnder_cases (value : Data) (names : List Text) (entries : Keyed Key Data) :
    putUnder value names entries = entries ∨
      ∃ first ∈ names, ∃ held, putUnder value names entries = entries.put (Key.text first) held := by
  match names with
  | [] => exact .inl rfl
  | [first] => exact .inr ⟨first, List.mem_cons_self, value, rfl⟩
  | first :: second :: more =>
    rw [putUnder]
    split
    · exact .inr ⟨first, List.mem_cons_self, _, rfl⟩
    · exact .inl rfl
    · nofun

/-- What is set one by one stands once under each name, and all names are in small letters. -/
structure IsLowered (entries : Keyed Key Data) : Prop where
  distinct : entries.IsDistinct
  lowered (key : Key) (among : key ∈ entries.keys) : ∃ t, key = .text t ∧ ∀ c ∈ t, c.IsSettled

/-- Taking a variable in small letters leaves everything in small letters. -/
theorem IsLowered.taken {s : Section} {name value : Text} {entries after : Keyed Key Data}
    (isLowered : IsLowered entries) (settled : ∀ c ∈ name, c.IsSettled)
    (taken : taken? {} s entries (name, value) = some after) : IsLowered after := by
  rcases taken?_eq_some_iff.mp taken with ⟨-, rfl⟩ | ⟨rest, data, rfl, -, rfl⟩
  · exact isLowered
  · rcases putUnder_cases data (nameParts ({} : Naming).separator 0 rest []) entries with
      same | ⟨first, among, held, same⟩
    · rw [same]
      exact isLowered
    · rw [same]
      refine ⟨isLowered.distinct.put _ _, fun key put => ?_⟩
      rcases Keyed.mem_keys_of_mem_keys_put put with rfl | before
      · refine ⟨first, rfl, fun c inside => settled c (List.mem_append_right _ ?_)⟩
        exact (mem_of_mem_nameParts among inside).resolve_left nofun
      · exact isLowered.lowered key before

/-- Taking variables in small letters leaves everything in small letters. -/
theorem isLowered_foldlM {s : Section} {env : Environment}
    (settled : ∀ assignment ∈ env, ∀ c ∈ assignment.1, c.IsSettled)
    {entries after : Keyed Key Data} (isLowered : IsLowered entries)
    (taken : env.foldlM (taken? {} s) entries = some after) : IsLowered after := by
  induction env generalizing entries with
  | nil =>
    obtain rfl := Option.some.inj taken
    exact isLowered
  | cons assignment rest inductionHypothesis =>
    rw [List.foldlM_cons] at taken
    obtain ⟨next, first, others⟩ := Option.bind_eq_some_iff.mp taken
    exact inductionHypothesis (fun other among => settled other (List.mem_cons_of_mem _ among))
      (isLowered.taken (settled assignment List.mem_cons_self) first) others

/-- Names as they are compared are in small letters, and each stands once. -/
theorem comparable_settled (env : Environment) :
    (env.comparable {}).keys.Nodup ∧
      ∀ assignment ∈ env.comparable {}, ∀ c ∈ assignment.1, c.IsSettled := by
  constructor
  · exact (Keyed.isDistinct_ofPairs _).imp fun apart => beq_eq_false_iff_ne.mp apart
  · intro assignment among c inside
    rcases Keyed.mem_of_mem_putAll _ _ _ among with none | given
    · cases none
    · obtain ⟨⟨name, value⟩, -, rfl⟩ := List.mem_map.mp given
      exact Text.isSettled_of_mem_loweredAfter inside

/-- The name of a setting that a name means, or the name itself if it means none. -/
def properName (s : Section) (name : Text) : Text :=
  (s.settings.find? fun proper => proper == ({} : Naming).compared name).getD name

/-- In small letters only the name of a setting means the setting. -/
theorem properName_eq_iff {s : Section} {setting name : Text} (known : setting ∈ s.settings)
    (ascii : ∀ c ∈ setting, c.val < 0x80) (itself : setting.lowered = setting)
    (settled : ∀ c ∈ name, c.IsSettled) : properName s name = setting ↔ name = setting := by
  have compared (name : Text) : ({} : Naming).compared name = name.lowered := rfl
  rw [properName, compared]
  constructor
  · intro means
    cases found : s.settings.find? fun proper => proper == name.lowered with
    | none =>
      rw [found] at means
      exact means
    | some proper =>
      rw [found] at means
      have becomes := List.find?_some found
      exact Text.eq_of_loweredAfter_eq settled ascii ((beq_iff_eq.mp becomes).symm.trans means)
  · rintro rfl
    rw [itself]
    cases found : s.settings.find? fun proper => proper == name with
    | none => exact absurd BEq.rfl (List.find?_eq_none.mp found name known)
    | some proper =>
      have same := List.find?_some found
      exact beq_iff_eq.mp same

/-- Putting entries under the proper spelling of their names puts under the name of a setting what they
hold under it, where all names are in small letters. -/
theorem get?_putAll_properNames {s : Section} {setting : Text} (known : setting ∈ s.settings)
    (ascii : ∀ c ∈ setting, c.val < 0x80) (itself : setting.lowered = setting)
    {entries : Keyed Key Data} (isLowered : IsLowered entries) (table : Keyed Key Data) :
    Keyed.get? (Key.text setting) (Keyed.putAll table (entries.map fun (key, value) =>
      match key with
      | .text name => (Key.text (properName s name), value)
      | _ => (key, value))) =
    (entries.get? (Key.text setting)).or (table.get? (Key.text setting)) := by
  obtain ⟨distinct, lowered⟩ := isLowered
  induction entries generalizing table with
  | nil => exact (Option.none_or).symm
  | cons entry rest inductionHypothesis =>
    obtain ⟨key, value⟩ := entry
    obtain ⟨name, rfl, settled⟩ := lowered key List.mem_cons_self
    obtain ⟨apart, later⟩ := List.pairwise_cons.mp distinct
    have others := inductionHypothesis (table.put (Key.text (properName s name)) value) later
      fun key among => lowered key (List.mem_cons_of_mem _ among)
    have means := properName_eq_iff known ascii itself settled
    refine others.trans ?_
    rw [Keyed.get?_put, Keyed.get?]
    by_cases same : name = setting
    · subst same
      have noMore : Keyed.get? (Key.text name) rest = none :=
        Keyed.get?_eq_none fun other among => by
          rw [BEq.comm]
          exact apart other among
      rw [means.mpr rfl, if_pos BEq.rfl, if_pos BEq.rfl, noMore, Option.none_or, Option.some_or]
    · have apart (t : Text) (different : t ≠ setting) :
          ¬(Key.text t == Key.text setting) = true := fun equal =>
        different (Key.text.inj ((Key.beq_text_iff _ _).mp equal))
      rw [if_neg (apart _ fun equal => same (means.mp equal)), if_neg (apart _ same)]

/-- Giving names their proper spelling changes nothing under the name of a setting, where all names
are in small letters. -/
theorem get?_withProperNames {s : Section} {setting : Text} (known : setting ∈ s.settings)
    (ascii : ∀ c ∈ setting, c.val < 0x80) (itself : setting.lowered = setting)
    {entries : Keyed Key Data} (isLowered : IsLowered entries) :
    Keyed.get? (Key.text setting) (withProperNames {} s entries) =
      entries.get? (Key.text setting) :=
  (get?_putAll_properNames known ascii itself isLowered []).trans Option.or_none

/-- What is set one by one in a section, given that no variable is about all of it. -/
theorem section?_of_absent {s : Section} {env : Environment} {said : Option Data}
    (alone : Keyed.get? (variableOf {} s) env = none) (read : section? {} s env = .ok said) :
    ∃ entries, env.foldlM (taken? {} s) [] = some entries ∧
      said = if entries = [] then none else some (.table (withProperNames {} s entries)) := by
  rw [section?, alone] at read
  dsimp only at read
  rw [← single?_eq]
  cases single : single? {} s env with
  | none =>
    rw [single] at read
    cases read
  | some entries =>
    rw [single] at read
    refine ⟨entries, rfl, ?_⟩
    cases entries <;> cases read <;> rfl

end Environment

namespace Settings.Setting

open Environment

/-- The section that a setting stands in. -/
def group (s : Setting) : Environment.Section := if s.isLog then sections[0] else sections[1]

/-- The name of the variable for a setting, in small letters. -/
def variableName (s : Setting) : Text := "tagcheck__" ++ s.sectionName ++ "__" ++ s.name

/-- What the variable for a setting says, if there is one. -/
def assigned? (env : Environment) (s : Setting) : Option Data :=
  ((env.comparable {}).get? s.variableName).bind (settingValue? s.group [s.name])

/-- The environment is read for the section of every setting. -/
theorem group_mem (s : Setting) : s.group ∈ sections := by
  rw [group]
  split
  · exact List.getElem_mem _
  · exact List.getElem_mem _

/-- A section has the same name in the environment as elsewhere. -/
theorem name_group (s : Setting) : s.group.name = s.sectionName := by
  cases s <;> rfl

/-- A section of the environment knows its settings. -/
theorem name_mem_group (s : Setting) : s.name ∈ s.group.settings := by
  cases s <;> decide +kernel

/-- The variable for a section is named after it. -/
theorem variableOf_group (s : Setting) : variableOf {} s.group = "tagcheck__" ++ s.sectionName := by
  cases s <;> decide +kernel

/-- The name of a setting is in ASCII. -/
theorem val_lt_of_mem_name (s : Setting) : ∀ c ∈ s.name, c.val < 0x80 := by
  have all : (s.name.all fun c => c.val < 0x80) = true := by
    cases s <;> decide +kernel
  exact fun c among => decide_eq_true_eq.mp (List.all_eq_true.mp all c among)

/-- The name of a setting is in small letters. -/
theorem lowered_name (s : Setting) : s.name.lowered = s.name := by
  cases s <;> decide +kernel

/-- The name of a setting is a single part. -/
theorem nameParts_name (s : Setting) : nameParts ({} : Naming).separator 0 s.name [] = [s.name] := by
  cases s <;> decide +kernel

/-- If no variable is about a section as a whole, the environment says about a setting of it what the
variable for the setting says. -/
theorem in?_eq_assigned? {env : Environment} {entries : Keyed Key Data}
    (read : env.settings {} = .ok entries) (s : Setting)
    (single : ∀ value, s.in? entries = some value → value.table? = none)
    (alone : (env.comparable {}).get? ("tagcheck__" ++ s.sectionName) = none) :
    s.in? entries = s.assigned? env := by
  obtain ⟨distinct, settled⟩ := comparable_settled env
  rw [← variableOf_group] at alone
  obtain ⟨assigned, taken, said⟩ := section?_of_absent alone (section?_of_settings read s.group_mem)
  rw [name_group] at said
  have isLowered : IsLowered assigned :=
    isLowered_foldlM settled ⟨Keyed.isDistinct_nil, nofun⟩ taken
  have directly : IsDirectly (s.assigned? env) (assigned.get? (Key.text s.name)) := by
    have directly := isDirectly_foldlM s.nameParts_name distinct (.inl rfl) taken
    rw [Keyed.get?, Option.or_none, variableOf_group] at directly
    exact directly
  have here : s.in? entries = assigned.get? (Key.text s.name) := by
    rw [in?, said]
    split
    · rename_i none
      rw [none]
      rfl
    · rw [Option.bind_some]
      exact get?_withProperNames s.name_mem_group s.val_lt_of_mem_name s.lowered_name isLowered
  rcases directly with same | ⟨inner, mapping⟩
  · exact here.trans same
  · cases single _ (here.trans mapping)

end Settings.Setting

end TagAudit
