import TagAudit.Settings.Environment
import TagAudit.Proofs.Data.Overlay

/-!
# What the environment says about settings

The settings in the environment are tables in which no key is held twice: JSON objects keep the last
value of a key, and so does what is set one by one.
-/

namespace TagAudit

namespace Data.Json

/-- A number is no table. -/
theorem table?_eq_none_of_number? {negative : Bool} {t rest : Text} {value : Data}
    (spells : number? negative t = some (value, rest)) : value.table? = none := by
  unfold number? at spells
  extract_lets whole at spells
  split at spells
  · cases spells
  · dsimp only at spells
    split at spells
    · split at spells <;> cases spells
      rfl
    · cases spells
      rfl

/-- A word is no table. -/
theorem table?_eq_none_of_word? {t rest : Text} {value : Data}
    (spells : word? t = some (value, rest)) : value.table? = none := by
  have single : ∀ entry ∈ words, entry.2.table? = none := by simp [words, table?]
  obtain ⟨entry, among, found⟩ := List.exists_of_findSome?_eq_some spells
  obtain ⟨_, -, same⟩ := Option.map_eq_some_iff.mp found
  cases same
  exact single entry among

/-- An object that a value is holds no key twice. -/
theorem isDistinct_of_value? {bound : Nat} {t rest : Text} {value : Data}
    (spells : value? bound t = some (value, rest)) {inner : Keyed Key Data}
    (table : value.table? = some inner) : inner.IsDistinct := by
  have noTable (none : value.table? = none) : inner.IsDistinct := by
    cases none.symm.trans table
  cases bound with
  | zero => rw [value?] at spells; cases spells
  | succ bound =>
    cases t with
    | nil => rw [value?] at spells; cases spells
    | cons c following =>
      rw [value?] at spells
      by_cases text : c = '"'
      · rw [if_pos text] at spells
        obtain ⟨_, -, same⟩ := Option.map_eq_some_iff.mp spells
        cases same
        exact noTable rfl
      rw [if_neg text] at spells
      by_cases array : c = '['
      · rw [if_pos array] at spells
        split at spells
        · cases spells
          exact noTable rfl
        · obtain ⟨_, -, same⟩ := Option.map_eq_some_iff.mp spells
          cases same
          exact noTable rfl
      rw [if_neg array] at spells
      by_cases object : c = '{'
      · rw [if_pos object] at spells
        split at spells
        · cases spells
          cases table
          exact Keyed.isDistinct_nil
        · obtain ⟨_, -, same⟩ := Option.map_eq_some_iff.mp spells
          cases same
          cases table
          exact Keyed.isDistinct_ofPairs _
      rw [if_neg object] at spells
      -- a word or a number, and neither is a table
      split at spells
      · rename_i found
        cases spells
        exact noTable (table?_eq_none_of_word? found)
      · split at spells
        · exact noTable (table?_eq_none_of_number? spells)
        · exact noTable (table?_eq_none_of_number? spells)

/-- An object that a JSON text spells holds no key twice. -/
theorem isDistinct_of_read? {t : Text} {value : Data} (spells : read? t = some value)
    {inner : Keyed Key Data} (table : value.table? = some inner) : inner.IsDistinct := by
  obtain ⟨⟨value', rest⟩, begins, complete⟩ := Option.bind_eq_some_iff.mp spells
  obtain rfl : value' = value := by
    dsimp only at complete
    split at complete <;> cases complete
    rfl
  exact isDistinct_of_value? begins table

end Data.Json

namespace Environment

/-- What a section is set to holds no key twice. -/
theorem isDistinct_of_section? {naming : Naming} {s : Section} {env : Environment} {value : Data}
    (said : section? naming s env = .ok (some value)) {inner : Keyed Key Data}
    (table : value.table? = some inner) : inner.IsDistinct := by
  unfold section? at said
  split at said
  · split at said <;> cases said
    cases table
    exact Keyed.isDistinct_ofPairs _
  · split at said
    · cases said
    · cases said
    · split at said <;> cases said
      cases table
      exact Keyed.isDistinct_ofPairs _
    · rename_i spells
      cases said
      exact Data.Json.isDistinct_of_read? spells table

/-- Adds what is set in a section, if anything is. -/
def added (naming : Naming) (env : Environment) (entries : Keyed Key Data) (s : Section) :
    Except Text (Keyed Key Data) :=
  match section? naming s env with
  | .error () => .error s.name
  | .ok none => .ok entries
  | .ok (some value) => .ok (entries.put (Key.text s.name) value)

/-- The settings in the environment are added section by section. -/
theorem settings_eq (naming : Naming) (env : Environment) :
    env.settings naming = sections.foldlM (added naming (env.comparable naming)) [] := rfl

/-- A section is added if it can be read. -/
theorem added_eq_ok_iff {naming : Naming} {env : Environment} {entries after : Keyed Key Data}
    {s : Section} :
    added naming env entries s = .ok after ↔
      (section? naming s env = .ok none ∧ entries = after) ∨
      ∃ value, section? naming s env = .ok (some value) ∧
        entries.put (Key.text s.name) value = after := by
  rw [added]
  rcases section? naming s env with problem | (_ | value) <;> simp

/-- After one section another is added. -/
theorem foldlM_added_cons {naming : Naming} {env : Environment} {before entries : Keyed Key Data}
    {s : Section} {rest : List Section} :
    (s :: rest).foldlM (added naming env) before = .ok entries ↔
      ∃ next, added naming env before s = .ok next ∧
        rest.foldlM (added naming env) next = .ok entries := by
  rw [List.foldlM_cons]
  cases added naming env before s with
  | error problem =>
    constructor
    · nofun
    · rintro ⟨next, none, -⟩
      cases none
  | ok next =>
    constructor
    · exact fun done => ⟨next, rfl, done⟩
    · rintro ⟨_, same, done⟩
      cases same
      exact done

/-- Adding sections makes no key stand twice. -/
theorem isDistinctWithin_foldlM {naming : Naming} {env : Environment} {ahead : List Section}
    {before entries : Keyed Key Data} (distinct : Data.IsDistinctWithin before)
    (done : ahead.foldlM (added naming env) before = .ok entries) :
    Data.IsDistinctWithin entries := by
  induction ahead generalizing before with
  | nil =>
    cases done
    exact distinct
  | cons s rest inductionHypothesis =>
    obtain ⟨next, first, others⟩ := foldlM_added_cons.mp done
    refine inductionHypothesis ?_ others
    rcases added_eq_ok_iff.mp first with ⟨-, rfl⟩ | ⟨value, said, rfl⟩
    · exact distinct
    · exact distinct.put _ fun inner table => isDistinct_of_section? said table

/-- Each section that is added stands under its name as it was read, and nothing stands under other
names that did not stand there before. -/
theorem get?_foldlM {naming : Naming} {env : Environment} {ahead : List Section}
    {before entries : Keyed Key Data} (apart : (ahead.map Section.name).Nodup)
    (done : ahead.foldlM (added naming env) before = .ok entries) :
    (∀ name ∉ ahead.map Section.name,
      entries.get? (Key.text name) = before.get? (Key.text name)) ∧
    ∀ s ∈ ahead, before.get? (Key.text s.name) = none →
      env.section? naming s = .ok (entries.get? (Key.text s.name)) := by
  induction ahead generalizing before with
  | nil =>
    cases done
    exact ⟨fun _ _ => rfl, nofun⟩
  | cons s rest inductionHypothesis =>
    obtain ⟨next, first, others⟩ := foldlM_added_cons.mp done
    obtain ⟨alone, later⟩ := List.nodup_cons.mp apart
    obtain ⟨elsewhere, there⟩ := inductionHypothesis later others
    have unchanged (name : Text) (other : name ≠ s.name) :
        next.get? (Key.text name) = before.get? (Key.text name) := by
      rcases added_eq_ok_iff.mp first with ⟨-, rfl⟩ | ⟨value, -, rfl⟩
      · rfl
      · rw [Keyed.get?_put, if_neg fun same =>
          other (Key.text.inj ((Key.beq_text_iff _ _).mp same)).symm]
    refine ⟨fun name outside => ?_, fun t among none => ?_⟩
    · rw [List.map_cons, List.mem_cons, not_or] at outside
      obtain ⟨other, outside⟩ := outside
      rw [elsewhere name outside, unchanged name other]
    · rcases List.mem_cons.mp among with rfl | among
      · rw [elsewhere t.name alone]
        rcases added_eq_ok_iff.mp first with ⟨said, rfl⟩ | ⟨value, said, rfl⟩
        · rw [said, none]
        · rw [said, Keyed.get?_put, if_pos BEq.rfl]
      · refine there t among ?_
        have other : t.name ≠ s.name := fun same =>
          alone (same ▸ List.mem_map_of_mem among)
        rw [unchanged t.name other, none]

/-- The settings in the environment hold no key twice, and neither does a section in them. -/
theorem isDistinctWithin_of_settings {naming : Naming} {env : Environment}
    {entries : Keyed Key Data} (read : env.settings naming = .ok entries) :
    Data.IsDistinctWithin entries :=
  isDistinctWithin_foldlM Data.isDistinctWithin_nil read

/-- Each section of settings in the environment is read by itself. -/
theorem section?_of_settings {naming : Naming} {env : Environment} {entries : Keyed Key Data}
    (read : env.settings naming = .ok entries) {s : Section} (among : s ∈ sections) :
    (env.comparable naming).section? naming s = .ok (entries.get? (Key.text s.name)) :=
  (get?_foldlM (by decide +kernel) read).2 s among rfl

end Environment

end TagAudit
