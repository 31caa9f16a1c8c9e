import TagAudit.Path

/-!
# The normal form of paths

Whatever a text spells, the path that is read from it is in normal form: at most two leading
slashes, and components that mean something and hold no slash. A path in normal form has a spelling
from which it is read again, so reading and spelling come to an end at once. A home directory in
place of a leading tilde keeps the form, whatever the home is called.
-/

namespace TagAudit

namespace Text

variable {separator : CodePoint} {part : Text}

/-- The parts of a text are what the library splits it into. -/
theorem parts_eq_splitOn (separator : CodePoint) (t : Text) :
    parts separator t = t.splitOn separator := by
  induction t with
  | nil => rfl
  | cons c rest inductionHypothesis =>
    rw [List.splitOn, List.splitOnP_cons_eq_if_modifyHead, ← List.splitOn, ← inductionHypothesis,
      parts]
    cases split : parts separator rest with
    | nil => exact absurd (inductionHypothesis.symm.trans split) (List.splitOn_ne_nil _ rest)
    | cons first others => simp only [beq_iff_eq, List.modifyHead_cons]

/-- No part holds a separator. -/
theorem notMem_of_mem_parts {t : Text} (among : part ∈ parts separator t) : separator ∉ part := by
  induction t generalizing part with
  | nil =>
    obtain rfl := List.mem_singleton.mp among
    exact List.not_mem_nil
  | cons c rest inductionHypothesis =>
    rw [parts] at among
    split at among
    · next split =>
      exact absurd ((parts_eq_splitOn separator rest).symm.trans split) (List.splitOn_ne_nil _ rest)
    · next first others split =>
      rw [split] at inductionHypothesis
      by_cases same : c = separator
      · rw [if_pos same] at among
        rcases List.mem_cons.mp among with rfl | later
        · exact List.not_mem_nil
        · exact inductionHypothesis later
      · rw [if_neg same] at among
        rcases List.mem_cons.mp among with rfl | later
        · rintro (_ | ⟨_, held⟩)
          · exact same rfl
          · exact inductionHypothesis List.mem_cons_self held
        · exact inductionHypothesis (List.mem_cons_of_mem first later)

end Text

namespace Path

variable {p q home : Path}

/-- A text that is one component and means something. -/
def IsComponent (part : Text) : Prop :=
  part ≠ [] ∧ part ≠ Text.ofString "." ∧ ('/' : CodePoint) ∉ part

/-- A path with at most two leading slashes whose parts are components. -/
structure IsNormal (p : Path) : Prop where
  slashes_le : p.slashes ≤ 2
  components : ∀ part ∈ p.parts, IsComponent part

/-- The parts that mean something are components. -/
theorem isComponent_of_mem_meaningful {t part : Text} (among : part ∈ meaningful t) :
    IsComponent part := by
  obtain ⟨between, means⟩ := List.mem_filter.mp among
  rw [Bool.and_eq_true, Bool.not_eq_true', List.isEmpty_eq_false_iff, bne_iff_ne] at means
  exact ⟨means.1, means.2, Text.notMem_of_mem_parts between⟩

/-- What is read from a text is in normal form. -/
theorem isNormal_ofText (t : Text) : (ofText t).IsNormal where
  slashes_le := by
    rw [ofText]
    dsimp only
    split
    · exact Nat.zero_le 2
    · split
      · exact Nat.le_refl 2
      · exact Nat.le_succ 1
  components _ among := isComponent_of_mem_meaningful among

/-- Home directories are in normal form. -/
theorem isNormal_ofHome (t : Text) : (ofHome t).IsNormal := isNormal_ofText _

/-- A home directory that is found is in normal form. -/
theorem isNormal_of_find {homes : Homes} {name : Text} (found : homes.find name = .ok home) :
    home.IsNormal := by
  rw [Homes.find] at found
  split at found
  · cases found
  · split at found
    · cases found
    · exact Except.ok.inj found ▸ isNormal_ofHome _
  · cases found

/-- A home directory in place of a leading component leaves the form normal. -/
theorem IsNormal.expandHome (normal : p.IsNormal) {homes : Homes}
    (expanded : p.expandHome homes = .ok q) : q.IsNormal := by
  rw [Path.expandHome] at expanded
  split at expanded
  · exact Except.ok.inj expanded ▸ normal
  · split at expanded
    · next c name rest split =>
      by_cases tilde : c = '~'
      · rw [if_pos tilde] at expanded
        cases found : homes.find name with
        | error problem =>
          rw [found] at expanded
          cases expanded
        | ok home =>
          rw [found] at expanded
          obtain rfl := Except.ok.inj expanded
          have homeNormal := isNormal_of_find found
          refine ⟨homeNormal.slashes_le, fun part among => ?_⟩
          rcases List.mem_append.mp among with inHome | inRest
          · exact homeNormal.components part inHome
          · exact normal.components part (split ▸ List.mem_cons_of_mem _ inRest)
      · rw [if_neg tilde] at expanded
        exact Except.ok.inj expanded ▸ normal
    · exact Except.ok.inj expanded ▸ normal

/-- The homes of other users are found by their names, and slashes at the end do not count. -/
example :
    let homes := Homes.ofList none [("root", "/root/")]
    (ofText "~root/x.log").expandHome homes = .ok (ofText "/root/x.log") ∧
      (ofText "~ann/x.log").expandHome homes = .error .unknown ∧
      (ofText "~").expandHome homes = .error .unknown := ⟨rfl, rfl, rfl⟩

/-- Slashes in front add nothing that means something. -/
theorem meaningful_slashes (count : Nat) (t : Text) :
    meaningful (List.replicate count ('/' : CodePoint) ++ t) = meaningful t := by
  induction count with
  | zero => rfl
  | succ count inductionHypothesis =>
    rw [← inductionHypothesis, List.replicate_succ, List.cons_append, meaningful, meaningful,
      Text.parts_eq_splitOn, Text.parts_eq_splitOn]
    -- What stands before the first slash is empty.
    have front := List.splitOn_append_cons_self (a := ('/' : CodePoint)) []
      (List.replicate count ('/' : CodePoint) ++ t)
    rw [List.nil_append] at front
    rw [front]
    rfl

/-- Components with slashes between them are read as they are. -/
theorem meaningful_joined {parts : List Text} (each : ∀ part ∈ parts, IsComponent part) :
    meaningful (Text.joined "/" parts) = parts := by
  cases parts with
  | nil => rfl
  | cons first rest =>
    have slash : Text.ofString "/" = [('/' : CodePoint)] := rfl
    have separate : ∀ part ∈ first :: rest, ('/' : CodePoint) ∉ part :=
      fun part among => (each part among).2.2
    rw [meaningful, Text.parts_eq_splitOn, Text.joined, slash,
      List.splitOn_intercalate _ separate (List.cons_ne_nil _ _)]
    apply List.filter_eq_self.mpr
    intro part among
    rw [Bool.and_eq_true, Bool.not_eq_true', List.isEmpty_eq_false_iff, bne_iff_ne]
    exact ⟨(each part among).1, (each part among).2.1⟩

/-- No slash stands in front of components. -/
theorem takeWhile_joined {parts : List Text} (each : ∀ part ∈ parts, IsComponent part) :
    (Text.joined "/" parts).takeWhile (fun c : CodePoint => c = '/') = [] := by
  cases parts with
  | nil => rfl
  | cons first rest =>
    obtain ⟨nonempty, -, plain⟩ := each first List.mem_cons_self
    cases first with
    | nil => exact absurd rfl nonempty
    | cons c more =>
      have other : c ≠ ('/' : CodePoint) := fun same => plain (same ▸ List.mem_cons_self)
      have opened : ∃ later, Text.joined "/" ((c :: more) :: rest) = c :: later := by
        cases rest <;> exact ⟨_, rfl⟩
      obtain ⟨later, opened⟩ := opened
      rw [opened, List.takeWhile_cons_of_neg (by simpa using other)]

/-- A path in normal form is read from its spelling. -/
theorem IsNormal.ofText_toText (normal : p.IsNormal) : ofText p.toText = p := by
  obtain ⟨slashes, parts⟩ := p
  rw [toText]
  split
  · next empty =>
    obtain ⟨rfl, none⟩ := empty
    obtain rfl := List.isEmpty_iff.mp none
    decide
  · have leading : ((List.replicate slashes ('/' : CodePoint) ++ Text.joined "/" parts).takeWhile
        fun c : CodePoint => c = '/').length = slashes := by
      rw [List.takeWhile_append_of_pos (by simp), takeWhile_joined normal.components,
        List.append_nil, List.length_replicate]
    rw [ofText, meaningful_slashes, meaningful_joined normal.components]
    dsimp only
    rw [leading]
    match slashes, normal.slashes_le with
    | 0, _ | 1, _ | 2, _ => rfl

/-- The spelling of an absolute path begins with a slash. -/
theorem head?_toText (absolute : p.isAbsolute) : p.toText.head? = some ('/' : CodePoint) := by
  obtain ⟨slashes, parts⟩ := p
  cases slashes with
  | zero => cases absolute
  | succ slashes => rfl

end Path

end TagAudit
