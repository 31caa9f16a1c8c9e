import TagAudit.Text.Emoji

/-!
# Texts without pictures

A text is shown as it is unless the name of a picture stands between two of its colons. Colons by
themselves do no harm, nor do words between them that no picture is named by.
-/

namespace TagAudit.Emoji

/-- Between two colons of a text stands something of a sort, without a blank. -/
inductive HoldsShortcode (sort : Text → Prop) : Text → Prop where
  | here (inside left : Text) (unparted : ∀ c ∈ inside, c ≠ ':' ∧ c.separatesWords = false)
      (sorted : sort inside) :
      HoldsShortcode sort ((':' : CodePoint) :: inside ++ (':' : CodePoint) :: left)
  | later (c : CodePoint) {rest : Text} (holds : HoldsShortcode sort rest) :
      HoldsShortcode sort (c :: rest)

/-- A text names a picture. -/
def IsPictured (inside : Text) : Prop := (shown? inside).isSome

/-- A text names a picture, or an opening bracket stands in it. -/
def IsPicturedOrOpen (inside : Text) : Prop := IsPictured inside ∨ ('[' : CodePoint) ∈ inside

instance : DecidablePred IsPictured := fun inside =>
  inferInstanceAs (Decidable ((shown? inside).isSome = true))

instance : DecidablePred IsPicturedOrOpen := fun _ => inferInstanceAs (Decidable (_ ∨ _))

section
variable {sort : Text → Prop} {t : Text}

/-- What is of a sort is of every wider one. -/
theorem HoldsShortcode.mono {wider : Text → Prop} (wide : ∀ inside, sort inside → wider inside)
    (holds : HoldsShortcode sort t) : HoldsShortcode wider t := by
  induction holds with
  | here inside left unparted sorted => exact .here inside left unparted (wide inside sorted)
  | later c _ inductionHypothesis => exact .later c inductionHypothesis

/-- What a text holds it holds with another one in front. -/
theorem HoldsShortcode.append_left (holds : HoldsShortcode sort t) (front : Text) :
    HoldsShortcode sort (front ++ t) := by
  induction front with
  | nil => exact holds
  | cons c rest inductionHypothesis => exact .later c inductionHypothesis

/-- What a text holds it holds with another one behind. -/
theorem HoldsShortcode.append_right (holds : HoldsShortcode sort t) (left : Text) :
    HoldsShortcode sort (t ++ left) := by
  induction holds with
  | here inside behind unparted sorted =>
    rw [List.append_assoc]
    exact .here inside (behind ++ left) unparted sorted
  | later c _ inductionHypothesis => exact .later c inductionHypothesis

/-- A backslash in front of an opening bracket parts no picture from its colons. -/
theorem HoldsShortcode.insert_slash {front left : Text}
    (holds : HoldsShortcode IsPicturedOrOpen (front ++ ('[' : CodePoint) :: left)) :
    HoldsShortcode IsPicturedOrOpen
      (front ++ ('\\' : CodePoint) :: ('[' : CodePoint) :: left) := by
  generalize whole : front ++ ('[' : CodePoint) :: left = t at holds
  induction holds generalizing front with
  | later c holds inductionHypothesis =>
    cases front with
    | nil =>
      obtain ⟨-, rfl⟩ := List.cons.inj whole
      exact .later _ (.later _ holds)
    | cons first others =>
      obtain ⟨rfl, same⟩ := List.cons.inj whole
      exact .later first (inductionHypothesis same)
  | here inside behind unparted sorted =>
    cases front with
    | nil => exact absurd (List.cons.inj whole).1 (by decide)
    | cons first others =>
      obtain ⟨rfl, same⟩ := List.cons.inj whole
      rcases List.append_eq_append_iff.mp same with ⟨more, rfl, bracket⟩ | ⟨more, rfl, colon⟩
      · -- The bracket stands between the colons, and so does the backslash.
        cases more with
        | nil => exact absurd (List.cons.inj bracket).1 (by decide)
        | cons opening rest =>
          obtain ⟨rfl, rfl⟩ := List.cons.inj bracket
          have longer : HoldsShortcode IsPicturedOrOpen ((':' : CodePoint) ::
              (others ++ ('\\' : CodePoint) :: ('[' : CodePoint) :: rest) ++
                (':' : CodePoint) :: behind) := .here _ _ (fun c among => ?_) (.inr (by simp))
          · simpa using longer
          · rcases List.mem_append.mp among with front | slash
            · exact unparted c (List.mem_append_left _ front)
            · rcases List.mem_cons.mp slash with rfl | later
              · decide
              · exact unparted c (List.mem_append_right _ later)
      · -- The colons stand in front of the bracket.
        cases more with
        | nil => exact absurd (List.cons.inj colon).1 (by decide)
        | cons closing rest =>
          obtain ⟨rfl, rfl⟩ := List.cons.inj colon
          have kept := HoldsShortcode.here inside
            (rest ++ ('\\' : CodePoint) :: ('[' : CodePoint) :: left) unparted sorted
          simpa using kept

/-- Nor does one backslash more of a row. -/
theorem HoldsShortcode.of_fewer_slashes {front left : Text} {slashes : Nat}
    (holds : HoldsShortcode IsPicturedOrOpen (front ++
      (List.replicate (slashes - 1) ('\\' : CodePoint) ++ ('[' : CodePoint) :: left))) :
    HoldsShortcode IsPicturedOrOpen
      (front ++ (List.replicate slashes ('\\' : CodePoint) ++ ('[' : CodePoint) :: left)) := by
  cases slashes with
  | zero => exact holds
  | succ slashes =>
    rw [Nat.add_sub_cancel, ← List.append_assoc] at holds
    have more := holds.insert_slash
    simpa [List.replicate_succ'] using more

/-- What stands between a colon and the next is found behind the first. -/
theorem inside?_eq_some_iff {rest inside : Text} : inside? rest = some inside ↔
    (∀ c ∈ inside, c ≠ ':' ∧ c.separatesWords = false) ∧
      ∃ left, rest = inside ++ (':' : CodePoint) :: left := by
  have goes (c : CodePoint) : (c != ':' && !c.separatesWords) = true ↔
      c ≠ ':' ∧ c.separatesWords = false := by simp
  constructor
  · intro found
    rw [inside?] at found
    split at found
    · rename_i c left dropped
      rw [Option.ite_none_right_eq_some] at found
      obtain ⟨rfl, same⟩ := found
      obtain rfl := Option.some.inj same
      refine ⟨fun other among => ?_, left, ?_⟩
      · exact (goes other).mp (List.all_eq_true.mp List.all_takeWhile other among)
      · rw [← dropped]
        exact (List.prefix_iff_eq_append.mp (List.takeWhile_prefix _)).symm
    · cases found
  · rintro ⟨unparted, left, rfl⟩
    rw [inside?, List.takeWhile_append_of_pos fun c among => (goes c).mpr (unparted c among),
      List.takeWhile_cons_of_neg (by simp), List.append_nil]
    simp

/-- Something stands between colons that are the first and a later one, or later ones. -/
theorem holdsShortcode_cons_iff {c : CodePoint} {rest : Text} : HoldsShortcode sort (c :: rest) ↔
    (c = ':' ∧ ∃ inside ∈ inside? rest, sort inside) ∨ HoldsShortcode sort rest := by
  constructor
  · intro holds
    cases holds with
    | here inside left unparted sorted =>
      exact .inl ⟨rfl, inside, inside?_eq_some_iff.mpr ⟨unparted, left, rfl⟩, sorted⟩
    | later _ holds => exact .inr holds
  · rintro (⟨rfl, inside, found, sorted⟩ | holds)
    · obtain ⟨unparted, left, rfl⟩ := inside?_eq_some_iff.mp found
      exact .here inside left unparted sorted
    · exact .later c holds

instance HoldsShortcode.decidable [DecidablePred sort] :
    (t : Text) → Decidable (HoldsShortcode sort t)
  | [] => isFalse nofun
  | _ :: rest =>
    have : Decidable (HoldsShortcode sort rest) := HoldsShortcode.decidable rest
    decidable_of_iff' _ holdsShortcode_cons_iff

/-- Where no picture is named, nothing is exchanged. -/
theorem replacedFrom_eq (unnamed : ¬HoldsShortcode IsPictured t) (passing : Nat) :
    replacedFrom passing t = t.drop passing := by
  induction t generalizing passing with
  | nil => cases passing <;> rfl
  | cons c rest inductionHypothesis =>
    have onward := inductionHypothesis (mt (.later c) unnamed)
    cases passing with
    | succ passing => exact onward passing
    | zero =>
      rw [replacedFrom, List.drop_zero]
      split
      · rw [onward, List.drop_zero]
      · rename_i colon
        have isColon : c = ':' := by simpa using colon
        split
        · rw [onward, List.drop_zero]
        · rename_i inside found
          obtain ⟨unparted, left, rfl⟩ := inside?_eq_some_iff.mp found
          have unshown : shown? inside = none := by
            apply Option.not_isSome_iff_eq_none.mp
            intro sorted
            rw [isColon] at unnamed
            exact unnamed (.here inside left unparted sorted)
          rw [unshown, onward]
          simp [isColon]

/-- A text in which no picture is named stays as it is. -/
theorem replaced_eq (unnamed : ¬HoldsShortcode IsPictured t) : replaced t = t :=
  replacedFrom_eq unnamed 0

/-- So does one in which no bracket stands between colons either. -/
theorem replaced_eq_of_unnamed (unnamed : ¬HoldsShortcode IsPicturedOrOpen t) : replaced t = t :=
  replaced_eq (mt (HoldsShortcode.mono fun _ => .inl) unnamed)

end

end TagAudit.Emoji
