import TagAudit.Console
import TagAudit.Proofs.Text.Markup
import TagAudit.Proofs.Text.Units
import TagAudit.Text.Printable

/-!
# Messages that reach the console as they are

Printable code points pass the console: none is dropped, none moves its cursor, and none has to be
shown by its number. So a printable status message without pictures appears behind its mark as it
is, unless markup is in it, on one line if there is room for it.
-/

namespace TagAudit

open Emoji Markup

/-- A text of printable code points. -/
def Text.IsPrintable (t : Text) : Prop := ∀ c ∈ t, c.isPrintable = true

instance (t : Text) : Decidable t.IsPrintable :=
  List.decidableBAll (fun c : CodePoint => c.isPrintable = true) t

namespace CodePoint

variable {c : CodePoint}

/-- No control code is printable. -/
theorem le_val_of_isPrintable (printable : c.isPrintable = true) : 0x20 ≤ c.val := by
  rw [isPrintable] at printable
  split at printable
  · simpa using printable
  · omega

/-- No surrogate is printable. -/
theorem isSurrogate_of_isPrintable (printable : c.isPrintable = true) : c.isSurrogate = false := by
  rw [isSurrogate_eq_false_iff]
  rintro ⟨above, below⟩
  have listed : (0xD7FC, 0xF8FF) ∈ unprintableRuns := by
    rw [← Array.mem_toList_iff]
    decide +kernel
  rw [isPrintable, if_neg (by omega), Bool.not_eq_true', Array.any_eq_false'] at printable
  exact printable _ listed (by simp; omega)

end CodePoint

namespace Text

variable {t other : Text}

/-- Texts are printable together if each of them is. -/
theorem IsPrintable.append (first : t.IsPrintable) (second : other.IsPrintable) :
    (t ++ other).IsPrintable := by
  intro c among
  rcases List.mem_append.mp among with left | right
  · exact first c left
  · exact second c right

/-- What is left of a printable text is printable. -/
theorem IsPrintable.sublist (printable : t.IsPrintable) (left : other.Sublist t) :
    other.IsPrintable :=
  fun c among => printable c (left.subset among)

/-- A text that does not hold a separator has one part. -/
theorem parts_of_not_mem {separator : CodePoint} (unparted : separator ∉ t) :
    parts separator t = [t] := by
  induction t with
  | nil => rfl
  | cons c rest inductionHypothesis =>
    rw [List.mem_cons, not_or] at unparted
    rw [parts, inductionHypothesis unparted.2]
    exact if_neg (Ne.symm unparted.1)

/-- The breadth of a text is enough for it, whatever joins its code points. -/
theorem places_le_breadth (t : Text) : places t ≤ breadth t := by
  have after (last : Option CodePoint) : placesAfter last t ≤ breadth t := by
    fun_induction placesAfter last t with
    | case1 last => exact Nat.zero_le _
    | case2 last c joins => exact Nat.zero_le _
    | case3 last c joins joined rest inductionHypothesis =>
      simp only [breadth]
      omega
    | case4 last c rest _ widens more inductionHypothesis =>
      simp only [breadth]
      split <;> omega
    | case5 last c rest _ _ taken inductionHypothesis =>
      simp only [breadth]
      omega
  exact after none

/-- What is left of a text is no broader. -/
theorem breadth_le_of_sublist (left : other.Sublist t) : breadth other ≤ breadth t := by
  induction left with
  | slnil => exact Nat.le_refl _
  | cons c _ inductionHypothesis =>
    rw [breadth]
    omega
  | cons_cons c _ inductionHypothesis =>
    rw [breadth, breadth]
    omega

end Text

namespace Console

variable {t message shown : Text}

/-- There is room for what is left of a line for which there is room. -/
theorem Fits.sublist {c : Console} (fits : c.Fits t) (left : shown.Sublist t) : c.Fits shown :=
  ⟨fits.1, (Text.breadth_le_of_sublist left).trans fits.2⟩

/-- A printable text is laid on lines as it is. -/
theorem lines_of_isPrintable (c : Console) (printable : t.IsPrintable) : c.lines t = c.laid t := by
  have undropped : t.filter (fun point => !isDropped point) = t := by
    rw [List.filter_eq_self]
    intro point among
    have visible := CodePoint.le_val_of_isPrintable (printable point among)
    simp only [isDropped, List.contains_eq_mem, List.mem_cons, List.not_mem_nil]
    simp; omega
  have absent (point : CodePoint) (control : point.val < 0x20) : point ∉ t := by
    intro among
    have visible := CodePoint.le_val_of_isPrintable (printable point among)
    omega
  have lines := Text.parts_of_not_mem (absent '\n' (by decide))
  have stretches := Text.parts_of_not_mem (absent '\t' (by decide))
  rw [Console.lines, undropped, fillTabs, lines, List.map_singleton, stretches]
  simp [Text.joined, filledParts, lines]

/-- The error stream shows a text without surrogates as it is. -/
theorem withoutSurrogates_eq (none : ∀ point ∈ t, CodePoint.isSurrogate point = false) :
    withoutSurrogates t = t := by
  induction t with
  | nil => rfl
  | cons point rest inductionHypothesis =>
    have others := inductionHypothesis fun point among => none point (List.mem_cons_of_mem _ among)
    rw [withoutSurrogates] at others ⊢
    rw [List.flatMap_cons, others, none point List.mem_cons_self]
    rfl

/-- The mark of a style is one of the marks. -/
theorem mem_marks {style : Data} {found : Mark} (known : mark? style = some found) :
    found ∈ marks := by
  cases style with
  | text name =>
    rw [mark?] at known
    exact List.mem_of_find?_eq_some known
  | _ => cases known

/-- Every mark is printable. -/
theorem isPrintable_mark (style : Data) : (mark style).IsPrintable := by
  have check : (CodePoint.ofChar '✓').isPrintable = true := by
    rw [CodePoint.isPrintable, ← Array.any_toList]
    decide +kernel
  have cross : (CodePoint.ofChar '✗').isPrintable = true := by
    rw [CodePoint.isPrintable, ← Array.any_toList]
    decide +kernel
  have exclamation : (CodePoint.ofChar '!').isPrintable = true := rfl
  have blank : (CodePoint.ofChar ' ').isPrintable = true := rfl
  have all : ∀ found ∈ marks, found.text.IsPrintable := by
    simp [marks, Text.IsPrintable, Text.ofString, check, cross, exclamation, blank]
  intro point among
  rw [mark] at among
  cases known : mark? style with
  | none =>
    rw [known] at among
    cases among
  | some found =>
    rw [known] at among
    exact all found (mem_marks known) point among

/-- A mark has its colour whatever follows it. -/
theorem signed_mark_append (c : Console) (style : Data) (t : Text) :
    c.signed style (mark style ++ t) = c.signed style (mark style) ++ t := by
  have all : ∀ found ∈ marks, ∀ number, found.colour? = some number →
      ∃ sign rest, found.text = sign :: rest := by
    simp [marks, Text.ofString]
  rw [signed, signed, mark]
  cases known : mark? style with
  | none => rfl
  | some found =>
    rw [Option.bind_some, Option.map_some, Option.getD_some]
    cases colour : found.colour? with
    | none => rfl
    | some number =>
      obtain ⟨sign, rest, text⟩ := all found (mem_marks known) number colour
      simp [text]

/-- A message behind its mark, on one line. -/
def onOneLine (c : Console) (style : Data) (message : Text) : Text :=
  c.signed style (mark style) ++ message ++ "\n"

/-- A console without colours has the mark as it is on that line. -/
theorem onOneLine_of_plain {c : Console} (plain : c.isColoured = false) (style : Data)
    (message : Text) : c.onOneLine style message = mark style ++ message ++ "\n" := by
  have uncoloured (number t : Text) : c.inColour number t = t := by simp [inColour, plain]
  rw [onOneLine, signed]
  split
  · rw [uncoloured, List.take_append_drop]
  · rfl

/-- A failure on one line holds no surrogate if it is printable. -/
theorem withoutSurrogates_onOneLine (c : Console) (printable : message.IsPrintable) :
    withoutSurrogates (c.onOneLine (.text "error") message) =
      c.onOneLine (.text "error") message := by
  have marked : ∀ point ∈ c.signed (.text "error") (mark (.text "error")),
      CodePoint.isSurrogate point = false := by
    change ∀ point ∈ c.inColour "31" "✗" ++ " ", CodePoint.isSurrogate point = false
    rw [inColour]
    split <;> simp [Text.ofString] <;> decide
  refine withoutSurrogates_eq fun point among => ?_
  rcases List.mem_append.mp among with before | ending
  · rcases List.mem_append.mp before with first | second
    · exact marked point first
    · exact CodePoint.isSurrogate_of_isPrintable (printable point second)
  · rw [List.mem_singleton.mp ending]
    rfl

/-- A printable message is told on the lines that it is laid on behind its mark. -/
theorem told_of_isPrintable (c : Console) (style : Data) (printable : message.IsPrintable) :
    c.told style message = ended (c.signedLines style (c.laid (mark style ++ message))) := by
  rw [told, c.lines_of_isPrintable ((isPrintable_mark style).append printable)]

/-- A printable message for which there is room behind its mark is told on one line. -/
theorem told_of_fits {c : Console} {style : Data} (printable : message.IsPrintable)
    (fits : c.Fits (mark style ++ message)) : c.told style message = c.onOneLine style message := by
  rw [told_of_isPrintable c style printable, c.whole _ fits.1 fits.2]
  simp [signedLines, ended, onOneLine, signed_mark_append]

/-- A printable status message without pictures and without markup is told as it is. -/
theorem status_of_unmarked (c : Console) (style : Data)
    (unnamed : ¬HoldsShortcode IsPictured message) (unmarked : ¬HoldsMarkup message) :
    c.status style (.text message) = .ok (c.told style message) := by
  have plain : (Data.text message).plain = message := rfl
  rw [status, plain, shown_of_unmarked unnamed unmarked]
  rfl

/-- With markup in it, where no picture can appear, something of it is left out if it is told. -/
theorem status_of_marked {c : Console} {style : Data} {printed : Text}
    (unnamed : ¬HoldsShortcode IsPicturedOrOpen message) (marked : HoldsMarkup message)
    (said : c.status style (.text message) = .ok printed) :
    ∃ shown, Shortens shown message ∧ printed = c.told style shown := by
  have plain : (Data.text message).plain = message := rfl
  rw [status, plain] at said
  cases outcome : Markup.shown message with
  | error problem =>
    rw [outcome] at said
    cases said
  | ok shown =>
    rw [outcome] at said
    exact ⟨shown, shown_of_marked unnamed marked outcome, (Except.ok.inj said).symm⟩

end Console

end TagAudit
