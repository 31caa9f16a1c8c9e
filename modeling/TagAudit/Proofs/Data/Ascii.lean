import TagAudit.Data.Json

/-!
# JSON text is plain ASCII

Whatever data holds, its JSON text consists of printable ASCII and line feeds. Names of classes and
files may hold anything, control codes and surrogates among it, but a string spells them by number.
So the text passes unchanged through whatever takes escape sequences out of a stream.
-/

namespace TagAudit

/-- A code point that JSON text is made of: a line feed, or one that is printable in ASCII. -/
def CodePoint.IsPlain (c : CodePoint) : Prop := c.val = 0x0A ∨ 0x20 ≤ c.val ∧ c.val < 0x7F

instance (c : CodePoint) : Decidable c.IsPlain := inferInstanceAs (Decidable (_ ∨ _))

namespace CodePoint

/-- Digits are plain, whatever their value. -/
theorem isPlain_ofDigit (value : Nat) : (ofDigit value).IsPlain := by
  right
  rw [ofDigit]
  split
  · dsimp only
    omega
  · dsimp only
    omega

/-- A small letter is plain if the capital one is. -/
theorem IsPlain.toLower {c : CodePoint} (plain : c.IsPlain) : c.toLower.IsPlain := by
  rw [CodePoint.toLower]
  split
  · right
    dsimp only
    omega
  · exact plain

end CodePoint

namespace Text

/-- A text of plain code points only. -/
def IsPlain (t : Text) : Prop := ∀ c ∈ t, c.IsPlain

instance (t : Text) : Decidable t.IsPlain := List.decidableBAll CodePoint.IsPlain t

section
variable {left right t : Text}

@[simp]
theorem isPlain_nil : IsPlain [] := by
  intro c member
  cases member

@[simp]
theorem isPlain_cons_iff {c : CodePoint} : IsPlain (c :: t) ↔ c.IsPlain ∧ t.IsPlain :=
  List.forall_mem_cons

/-- Two texts are plain together if each of them is. -/
@[simp]
theorem isPlain_append_iff : IsPlain (left ++ right) ↔ left.IsPlain ∧ right.IsPlain :=
  List.forall_mem_append

/-- A part of a plain text is plain. -/
theorem IsPlain.of_subset (plain : t.IsPlain) (part : left ⊆ t) : left.IsPlain :=
  fun c member => plain c (part member)

/-- A text that depends on a test is plain if it is so either way. -/
theorem isPlain_ite {test : Prop} [Decidable test] (holding : test → left.IsPlain)
    (failing : ¬test → right.IsPlain) : IsPlain (if test then left else right) := by
  split
  · rename_i holds
    exact holding holds
  · rename_i fails
    exact failing fails

/-- A plain code point may be repeated. -/
theorem isPlain_replicate (count : Nat) {c : CodePoint} (plain : c.IsPlain) :
    IsPlain (List.replicate count c) := by
  intro other member
  rw [List.eq_of_mem_replicate member]
  exact plain

/-- Plain texts with a plain separator between them are plain. -/
theorem isPlain_joined {separator : Text} {parts : List Text} (between : separator.IsPlain)
    (plain : ∀ part ∈ parts, part.IsPlain) : (joined separator parts).IsPlain := by
  induction parts with
  | nil => exact isPlain_nil
  | cons part rest inductionHypothesis =>
    have first := plain part List.mem_cons_self
    have others := inductionHypothesis fun other member =>
      plain other (List.mem_cons_of_mem part member)
    cases rest with
    | nil => simpa [joined, List.intercalate] using first
    | cons next rest =>
      have split : joined separator (part :: next :: rest) =
          part ++ separator ++ joined separator (next :: rest) := by
        simp [joined, List.intercalate]
      rw [split]
      simp only [isPlain_append_iff, first, between, others, and_self]

/-- A minus sign leaves a text plain. -/
theorem IsPlain.minusIf (negative : Bool) (plain : t.IsPlain) :
    (Text.minusIf negative t).IsPlain := by
  cases negative with
  | false => exact plain
  | true => exact isPlain_cons_iff.mpr ⟨by decide, plain⟩

end

/-- Digits spell plain text. -/
theorem isPlain_digits (values : List Nat) : IsPlain (values.map CodePoint.ofDigit) := by
  intro c member
  obtain ⟨value, -, rfl⟩ := List.mem_map.mp member
  exact CodePoint.isPlain_ofDigit value

/-- A natural number is spelled in plain text. -/
theorem isPlain_ofNat (n : Nat) : (ofNat n).IsPlain := isPlain_digits _

/-- So is an integer. -/
theorem isPlain_ofInt (n : Int) : (ofInt n).IsPlain := by
  cases n with
  | ofNat n => exact isPlain_ofNat n
  | negSucc n => exact isPlain_cons_iff.mpr ⟨by decide, isPlain_ofNat _⟩

/-- So is a number with zeros in front. -/
theorem isPlain_padded (base width n : Nat) : (padded base width n).IsPlain := by
  rw [padded, isPlain_append_iff]
  exact ⟨isPlain_replicate _ (by decide), isPlain_digits _⟩

/-- So is a number in hexadecimal. -/
theorem isPlain_lowerHex (width n : Nat) : (lowerHex width n).IsPlain := by
  intro c member
  obtain ⟨digit, among, rfl⟩ := List.mem_map.mp member
  exact (isPlain_padded 16 width n digit among).toLower

end Text

namespace Binary64

open Text

/-- A decimal is plain, wherever its point is. -/
theorem isPlain_placed (point : Nat) (grid : Int) : (placed point grid).IsPlain := by
  have plain := isPlain_digits ((Text.digits 10 point).reverse.dropWhile (· == 0)).reverse
  rw [placed]
  -- only that its digits are plain matters, not which they are or where the point is put
  generalize List.map CodePoint.ofDigit _ = written at plain ⊢
  generalize grid + ((_ : Nat) : Int) = grid
  extract_lets mantissa
  have leading (count : Nat) : IsPlain (written.take count) :=
    plain.of_subset (List.take_subset count written)
  have trailing (count : Nat) : IsPlain (written.drop count) :=
    plain.of_subset (List.drop_subset count written)
  have zeros (count : Nat) : IsPlain (List.replicate count ('0' : CodePoint)) :=
    isPlain_replicate count (by decide)
  have dot : IsPlain "." := by decide
  split
  · split
    · have ending : IsPlain ".0" := by decide
      simp only [isPlain_append_iff, plain, zeros, ending, and_self]
    · split
      · simp only [isPlain_append_iff, leading, trailing, dot, and_self]
      · have beginning : IsPlain "0." := by decide
        simp only [isPlain_append_iff, plain, zeros, beginning, and_self]
  · have spelled : mantissa.IsPlain := by
      dsimp only [mantissa]
      split
      · exact plain
      · rw [isPlain_append_iff, isPlain_append_iff]
        exact ⟨⟨leading 1, dot⟩, trailing 1⟩
    have sign (negative : Prop) [Decidable negative] :
        IsPlain (if negative then "e-" else "e+" : Text) :=
      isPlain_ite (fun _ => by decide) fun _ => by decide
    simp only [isPlain_append_iff, spelled, sign, isPlain_padded, and_self]

/-- A number is written in plain text if those that are not finite are. -/
theorem isPlain_written (words : Words) (x : Binary64) (notANumber : words.notANumber.IsPlain)
    (infinite : words.infinite.IsPlain) : (x.written words).IsPlain := by
  rw [written]
  split
  · exact notANumber
  · exact infinite.minusIf _
  · exact IsPlain.minusIf _ (by decide)
  · exact (isPlain_placed _ _).minusIf _

end Binary64

open Text

/-- Inside a string every code point is spelled in plain text. -/
theorem Text.isPlain_jsonCodePoint (c : CodePoint) : (jsonCodePoint c).IsPlain := by
  have escape : IsPlain "\\u" := by decide
  rw [jsonCodePoint]
  -- the seven code points that have escapes of their own come first
  iterate 7 refine isPlain_ite (fun _ => by decide) fun _ => ?_
  refine isPlain_ite (fun printable => isPlain_cons_iff.mpr ⟨.inr printable, isPlain_nil⟩)
    fun _ => isPlain_ite (fun _ => ?_) fun _ => ?_
  · rw [isPlain_append_iff]
    exact ⟨escape, isPlain_lowerHex 4 _⟩
  · rw [isPlain_append_iff, isPlain_append_iff, isPlain_append_iff]
    exact ⟨⟨escape, isPlain_lowerHex 4 _⟩, escape, isPlain_lowerHex 4 _⟩

/-- A string is plain, whatever it stands for. -/
theorem Text.isPlain_json (t : Text) : t.json.IsPlain := by
  have mark : IsPlain "\"" := by decide
  have inside : IsPlain (t.flatMap jsonCodePoint) := by
    intro c member
    obtain ⟨spelled, -, among⟩ := List.mem_flatMap.mp member
    exact isPlain_jsonCodePoint spelled c among
  simp only [Text.json, isPlain_append_iff, mark, inside, and_self]

namespace Data

namespace JsonLayout

/-- What opens and closes a level is plain. -/
theorem isPlain_newline (layout : JsonLayout) : layout.newline.IsPlain := by
  cases layout with
  | line => exact isPlain_nil
  | indented level =>
    exact isPlain_cons_iff.mpr ⟨by decide, isPlain_replicate _ (by decide)⟩

/-- What stands after a comma is plain. -/
theorem isPlain_gap (layout : JsonLayout) : layout.gap.IsPlain := by
  cases layout with
  | line => decide
  | indented level => exact isPlain_newline (indented level)

/-- Plain parts are plain between plain brackets. -/
theorem isPlain_bracketed (layout : JsonLayout) {opening closing : Text} {parts : List Text}
    (opens : opening.IsPlain) (closes : closing.IsPlain) (plain : ∀ part ∈ parts, part.IsPlain) :
    (layout.bracketed opening closing parts).IsPlain := by
  have comma : IsPlain "," := by decide
  have between : IsPlain ("," ++ layout.deeper.gap) :=
    isPlain_append_iff.mpr ⟨comma, isPlain_gap _⟩
  rw [bracketed]
  split
  · simp only [isPlain_append_iff, opens, closes, and_self]
  · simp only [isPlain_append_iff, opens, closes, isPlain_newline, isPlain_joined between plain,
      and_self]

end JsonLayout

mutual

/-- The JSON text of data is plain ASCII in every layout. -/
theorem isPlain_jsonIn (layout : JsonLayout) : (data : Data) → (jsonIn layout data).IsPlain
  | null => by simp only [jsonIn]; decide
  | bool b => by cases b <;> (simp only [jsonIn]; decide)
  | int n => by simpa only [jsonIn] using isPlain_ofInt n
  | real x => by
    simpa only [jsonIn] using Binary64.isPlain_written jsonWords x (by decide) (by decide)
  | text t => by simpa only [jsonIn] using isPlain_json t
  | bytes raw => by simpa only [jsonIn] using isPlain_json _
  | moment plain shown => by simpa only [jsonIn] using isPlain_json shown
  | record kind fields => by simpa only [jsonIn] using isPlain_json _
  | set members => by simpa only [jsonIn] using isPlain_json _
  | list items => by
    simpa only [jsonIn] using
      layout.isPlain_bracketed (by decide) (by decide) (isPlain_jsonItems layout.deeper items)
  | tuple items => by
    simpa only [jsonIn] using
      layout.isPlain_bracketed (by decide) (by decide) (isPlain_jsonItems layout.deeper items)
  | table entries => by
    simpa only [jsonIn] using
      layout.isPlain_bracketed (by decide) (by decide) (isPlain_jsonEntries layout.deeper entries)
  | knot number content => by simpa only [jsonIn] using isPlain_jsonIn layout content

/-- So are the texts of the items of a list. -/
theorem isPlain_jsonItems (layout : JsonLayout) : (items : List Data) →
    ∀ part ∈ jsonItems layout items, part.IsPlain
  | [] => by simp [jsonItems]
  | item :: rest => by
    rw [jsonItems, List.forall_mem_cons]
    exact ⟨isPlain_jsonIn layout item, isPlain_jsonItems layout rest⟩

/-- So are the texts of the entries of a table. -/
theorem isPlain_jsonEntries (layout : JsonLayout) : (entries : List (Key × Data)) →
    ∀ part ∈ jsonEntries layout entries, part.IsPlain
  | [] => by simp [jsonEntries]
  | (key, value) :: rest => by
    have colon : IsPlain ": " := by decide
    rw [jsonEntries, List.forall_mem_cons]
    refine ⟨?_, isPlain_jsonEntries layout rest⟩
    simp only [isPlain_append_iff, isPlain_json, colon, isPlain_jsonIn layout value, and_self]

end

end Data

end TagAudit
