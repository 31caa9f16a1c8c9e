import TagAudit.Text.Case

/-!
# Small letters

A text in small letters holds no capital that has a small letter in ASCII, and such a text becomes a
word of ASCII only if it is that word. Besides the capitals of ASCII there is one such capital, the
sign for a degree of the absolute scale.
-/

namespace TagAudit

namespace CodePoint

/-- The sign for a degree of the absolute scale, whose small letter is the letter k. -/
def absoluteDegree : Nat := 0x212A

/-- A code point is no capital whose small letter is one of ASCII. -/
def IsSettled (c : CodePoint) : Prop :=
  ¬(0x41 ≤ c.val ∧ c.val ≤ 0x5A) ∧ c.val ≠ absoluteDegree

instance (c : CodePoint) : Decidable c.IsSettled := inferInstanceAs (Decidable (_ ∧ _))

/-- Among the runs of capitals outside ASCII one is the absolute degree by itself. All others have small
letters outside ASCII too, and none is that sign or has it as a small letter. -/
theorem capitalRuns_apart : ∀ run ∈ capitalRuns.toList,
    run.2.1 < 0x80 ∨ (run.1 = absoluteDegree ∧ run.2.1 = absoluteDegree ∧ run.2.2.2 = 0x6B) ∨
      ((run.2.1 < absoluteDegree ∨ absoluteDegree < run.1) ∧
        0x80 ≤ run.2.2.2 ∧ run.2.2.2 + (run.2.1 - run.1) < 0x110000 ∧
        (run.2.2.2 + (run.2.1 - run.1) < absoluteDegree ∨ absoluteDegree < run.2.2.2)) := by
  decide +kernel

/-- The small letter of the absolute degree is the letter k. All other code points outside ASCII have
small letters outside ASCII, and none of these is that sign. -/
theorem small_cases {c : CodePoint} (outside : 0x80 ≤ c.val) :
    c.val = absoluteDegree ∧ c.small.val = 0x6B ∨
      c.val ≠ absoluteDegree ∧ 0x80 ≤ c.small.val ∧ c.small.val ≠ absoluteDegree := by
  rw [small, if_neg (Nat.not_lt.mpr outside)]
  dsimp only
  split
  · rename_i first last step target found
    have among := Array.mem_toList_iff.mpr (Array.mem_of_find?_eq_some found)
    have inside := Array.find?_some found
    simp only [Bool.and_eq_true, decide_eq_true_eq] at inside
    rw [ofNat]
    dsimp only
    rcases capitalRuns_apart _ among with ascii | ⟨isFirst, isLast, isTarget⟩ | apart
    · dsimp only at ascii
      omega
    · left
      dsimp only at isFirst isLast isTarget
      omega
    · right
      dsimp only at apart
      omega
  · rename_i absent
    right
    have other : c.val ≠ absoluteDegree := by
      intro same
      have among : (absoluteDegree, absoluteDegree, 1, 0x6B) ∈ capitalRuns.toList := by
        decide +kernel
      have outsideRun := Array.find?_eq_none.mp absent _ (Array.mem_toList_iff.mp among)
      simp [same] at outsideRun
    exact ⟨other, outside, other⟩

/-- A small letter of ASCII comes from itself, from its capital or from the absolute degree. -/
theorem eq_of_small_lt {c : CodePoint} (settled : c.IsSettled) (inside : c.small.val < 0x80) :
    c.small = c := by
  by_cases ascii : c.val < 0x80
  · rw [small, if_pos ascii, toLower, dif_neg settled.1]
  · rcases small_cases (Nat.not_lt.mp ascii) with ⟨same, -⟩ | ⟨-, outside, -⟩
    · exact absurd same settled.2
    · omega

/-- Every small letter is settled. -/
theorem isSettled_small (c : CodePoint) : c.small.IsSettled := by
  by_cases ascii : c.val < 0x80
  · rw [small, if_pos ascii, toLower]
    split
    · exact ⟨by dsimp only; omega, by dsimp only [absoluteDegree]; omega⟩
    · rename_i noCapital
      exact ⟨noCapital, by rw [absoluteDegree]; omega⟩
  · rcases small_cases (Nat.not_lt.mp ascii) with ⟨-, same⟩ | ⟨-, outside, other⟩
    · exact ⟨by omega, by rw [absoluteDegree]; omega⟩
    · exact ⟨by omega, other⟩

end CodePoint

namespace Text

/-- A text in small letters holds settled code points only. -/
theorem isSettled_of_mem_loweredAfter {t before : Text} {c : CodePoint}
    (among : c ∈ loweredAfter before t) : c.IsSettled := by
  induction t generalizing before with
  | nil => cases among
  | cons first rest inductionHypothesis =>
    rw [loweredAfter, List.mem_append] at among
    rcases among with written | later
    · split at written
      · simp only [List.mem_cons, List.not_mem_nil, or_false] at written
        rcases written with rfl | rfl <;> decide
      · split at written
        · split at written <;> rw [List.mem_singleton.mp written] <;> decide
        · rw [List.mem_singleton.mp written]
          exact CodePoint.isSettled_small first
    · exact inductionHypothesis later

/-- A text of settled code points becomes a word of ASCII only if it is that word. -/
theorem eq_of_loweredAfter_eq {t before word : Text} (settled : ∀ c ∈ t, c.IsSettled)
    (ascii : ∀ c ∈ word, c.val < 0x80) (becomes : loweredAfter before t = word) : t = word := by
  induction t generalizing before word with
  | nil => exact becomes
  | cons first rest inductionHypothesis =>
    subst becomes
    rw [loweredAfter] at ascii ⊢
    have written := fun c among => ascii c (List.mem_append_left _ among)
    have later := inductionHypothesis (fun c among => settled c (List.mem_cons_of_mem _ among))
      (fun c among => ascii c (List.mem_append_right _ among)) rfl
    split at written
    · exact absurd (written (.ofNat 0x307) (by simp)) (by decide)
    · split at written
      · split at written
        · exact absurd (written (.ofNat 0x3C2) List.mem_cons_self) (by decide)
        · exact absurd (written (.ofNat 0x3C3) List.mem_cons_self) (by decide)
      · rename_i usual sigma
        rw [if_neg usual, if_neg sigma, List.singleton_append, ← later,
          CodePoint.eq_of_small_lt (settled first List.mem_cons_self)
            (written first.small List.mem_cons_self)]

end Text

end TagAudit
