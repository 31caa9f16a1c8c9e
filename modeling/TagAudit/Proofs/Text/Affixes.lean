import TagAudit.Text

/-!
# Beginnings and ends of texts

What follows a beginning, and what stands between a beginning and an end, is read back from a text
that was put together of these parts, and from no other text.
-/

namespace TagAudit.Text

variable {start ending t middle rest : Text}

/-- What follows a beginning that a text has. -/
theorem after?_eq_some_iff : after? start t = some rest ↔ t = start ++ rest := by
  rw [after?]
  constructor
  · intro found
    split at found
    · rename_i begins
      obtain ⟨more, rfl⟩ := List.isPrefixOf_iff_prefix.mp begins
      rw [List.drop_left] at found
      rw [Option.some.inj found]
    · cases found
  · rintro rfl
    rw [if_pos (List.isPrefixOf_iff_prefix.mpr (List.prefix_append _ _)), List.drop_left]

/-- What stands between a beginning and an end, when the text has both. -/
def between? (start ending t : Text) : Option Text :=
  (after? start t).bind fun rest =>
    if rest.endsWith ending then some (rest.take (rest.length - ending.length)) else none

/-- What stands between a beginning and an end that a text has. -/
theorem between?_eq_some_iff :
    between? start ending t = some middle ↔ t = start ++ (middle ++ ending) := by
  simp only [between?, Option.bind_eq_some_iff, after?_eq_some_iff,
    Option.ite_none_right_eq_some, Option.some.injEq]
  constructor
  · rintro ⟨rest, rfl, ends, rfl⟩
    obtain ⟨front, rfl⟩ := List.isSuffixOf_iff_suffix.mp ends
    simp
  · rintro rfl
    refine ⟨middle ++ ending, rfl, ?_, by simp⟩
    exact List.isSuffixOf_iff_suffix.mpr (List.suffix_append _ _)

end TagAudit.Text
