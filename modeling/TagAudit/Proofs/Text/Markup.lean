import TagAudit.Proofs.Text.Pictures
import TagAudit.Text.Markup

/-!
# Texts that are shown as they are

A message is shown as it is if no tag stands in it and no backslash directly before an opening
bracket. These two are the only things that the markup leaves out, so a message that holds one of
them is shown shorter, or not at all.
-/

namespace TagAudit.Markup

open Emoji

/-- What stands between the brackets of a tag: it begins with a small letter or one of three signs,
and no bracket is in it. -/
def IsTagText (inside : Text) : Prop :=
  (∃ first ∈ inside.head?, opensTag first = true) ∧ ∀ c ∈ inside, c ≠ ']' ∧ c ≠ '['

/-- A tag stands in a text, or a backslash directly before an opening bracket. -/
inductive HoldsMarkup : Text → Prop where
  | tag (inside left : Text) (opens : IsTagText inside) :
      HoldsMarkup (('[' : CodePoint) :: inside ++ (']' : CodePoint) :: left)
  | escape (left : Text) : HoldsMarkup (('\\' : CodePoint) :: ('[' : CodePoint) :: left)
  | later (c : CodePoint) {rest : Text} (holds : HoldsMarkup rest) : HoldsMarkup (c :: rest)

section
variable {t rest inside run text : Text} {c : CodePoint} {slashes : Nat}

/-- A tag is found behind its opening bracket. -/
theorem tagText?_eq_some_iff : tagText? rest = some inside ↔
    IsTagText inside ∧ ∃ left, rest = inside ++ (']' : CodePoint) :: left := by
  have bracketless (c : CodePoint) : (c != ']' && c != '[') = true ↔ c ≠ ']' ∧ c ≠ '[' := by simp
  constructor
  · intro found
    cases rest with
    | nil => cases found
    | cons first others =>
      rw [tagText?] at found
      split at found
      · cases found
      · rename_i opening
        have opens : opensTag first = true := by simpa using opening
        have letter : first ≠ ']' ∧ first ≠ '[' := by
          constructor <;> rintro rfl <;> exact absurd opens (by decide)
        dsimp only at found
        split at found
        · rename_i c left dropped
          rw [Option.ite_none_right_eq_some] at found
          obtain ⟨rfl, same⟩ := found
          obtain rfl := Option.some.inj same
          refine ⟨⟨⟨first, ?_, opens⟩, fun c among => ?_⟩, left, ?_⟩
          · simp [letter]
          · exact (bracketless c).mp (List.all_eq_true.mp List.all_takeWhile c among)
          · rw [← dropped]
            exact (List.prefix_iff_eq_append.mp (List.takeWhile_prefix _)).symm
        · cases found
  · rintro ⟨⟨⟨first, leads, opens⟩, bracketfree⟩, left, rfl⟩
    have taken : (inside ++ (']' : CodePoint) :: left).takeWhile
        (fun c : CodePoint => c != ']' && c != '[') = inside := by
      rw [List.takeWhile_append_of_pos fun c among => (bracketless c).mpr (bracketfree c among),
        List.takeWhile_cons_of_neg (by simp), List.append_nil]
    cases inside with
    | nil => cases leads
    | cons head others =>
      obtain rfl := Option.some.inj leads
      rw [List.cons_append] at taken
      rw [List.cons_append, tagText?]
      simp [opens, taken]

/-- Markup begins with the first code point, or later. -/
theorem holdsMarkup_cons_iff : HoldsMarkup (c :: rest) ↔
    (c = '[' ∧ (tagText? rest).isSome) ∨ (c = '\\' ∧ rest.head? = some ('[' : CodePoint)) ∨
      HoldsMarkup rest := by
  constructor
  · intro holds
    cases holds with
    | tag inside left opens =>
      have found := tagText?_eq_some_iff.mpr ⟨opens, left, rfl⟩
      exact .inl ⟨rfl, by simp [found]⟩
    | escape left => exact .inr (.inl ⟨rfl, rfl⟩)
    | later _ holds => exact .inr (.inr holds)
  · rintro (⟨rfl, isTag⟩ | ⟨rfl, opens⟩ | holds)
    · obtain ⟨inside, found⟩ := Option.isSome_iff_exists.mp isTag
      obtain ⟨opens, left, rfl⟩ := tagText?_eq_some_iff.mp found
      exact .tag inside left opens
    · obtain ⟨left, rfl⟩ := List.head?_eq_some_iff.mp opens
      exact .escape left
    · exact .later c holds

instance HoldsMarkup.decidable : (t : Text) → Decidable (HoldsMarkup t)
  | [] => isFalse nofun
  | _ :: rest =>
    have : Decidable (HoldsMarkup rest) := HoldsMarkup.decidable rest
    decidable_of_iff' _ holdsMarkup_cons_iff

/-- Behind backslashes markup begins with a bracket, or later. -/
theorem holdsMarkup_replicate_iff :
    HoldsMarkup (List.replicate slashes ('\\' : CodePoint) ++ t) ↔
      (0 < slashes ∧ t.head? = some ('[' : CodePoint)) ∨ HoldsMarkup t := by
  have different : ('\\' : CodePoint) ≠ '[' := by decide
  induction slashes with
  | zero => simp
  | succ slashes inductionHypothesis =>
    rw [List.replicate_succ, List.cons_append, holdsMarkup_cons_iff]
    refine (or_congr_right (or_congr_right inductionHypothesis)).trans ?_
    cases slashes with
    | zero => simp [different]
    | succ slashes => simp [different, List.replicate_succ]

/-- No markup begins with a code point that is neither a bracket nor a backslash. -/
theorem holdsMarkup_cons_of_ne (noBracket : c ≠ '[') (noSlash : c ≠ '\\') :
    HoldsMarkup (c :: rest) ↔ HoldsMarkup rest := by
  simp [holdsMarkup_cons_iff, noBracket, noSlash]

/-- A backslash behind backslashes is one more of them. -/
theorem replicate_append_slash (slashes : Nat) (rest : Text) :
    List.replicate slashes ('\\' : CodePoint) ++ ('\\' : CodePoint) :: rest =
      List.replicate (slashes + 1) ('\\' : CodePoint) ++ rest := by
  rw [List.replicate_succ', List.append_assoc, List.singleton_append]

/-- A text without markup is one run. -/
theorem pieces_of_unmarked
    (unmarked : ¬HoldsMarkup (List.replicate slashes ('\\' : CodePoint) ++ t)) (run : Text) :
    pieces 0 slashes run t =
      [.ofRun (t.reverse ++ (List.replicate slashes ('\\' : CodePoint) ++ run))] := by
  induction t generalizing slashes run with
  | nil => rfl
  | cons c rest inductionHypothesis =>
    rw [pieces]
    split
    · rename_i isSlash
      obtain rfl := isSlash
      rw [replicate_append_slash] at unmarked
      rw [inductionHypothesis unmarked, List.reverse_cons, List.append_assoc, List.replicate_succ]
      rfl
    · rename_i noSlash
      rw [holdsMarkup_replicate_iff] at unmarked
      have unmarkedRest : ¬HoldsMarkup (List.replicate 0 ('\\' : CodePoint) ++ rest) :=
        mt (fun holds => .inr (.later c holds)) unmarked
      have onward := inductionHypothesis unmarkedRest
      split
      · rename_i isBracket
        have unescaped : slashes = 0 := by
          apply Nat.eq_zero_of_not_pos
          intro some
          exact unmarked (.inl ⟨some, congrArg Option.some isBracket⟩)
        cases found : tagText? rest with
        | some inside =>
          have holds : HoldsMarkup (c :: rest) :=
            holdsMarkup_cons_iff.mpr (.inl ⟨isBracket, by simp [found]⟩)
          exact absurd (.inr holds) unmarked
        | none =>
          dsimp only
          rw [onward, unescaped, List.reverse_cons, List.append_assoc]
          rfl
      · rw [onward]
        simp

/-- A text without markup and without pictures is shown as it is. -/
theorem shown_of_unmarked (unnamed : ¬HoldsShortcode IsPictured t) (unmarked : ¬HoldsMarkup t) :
    shown t = .ok t := by
  have unslashed : ¬HoldsMarkup (List.replicate 0 ('\\' : CodePoint) ++ t) := unmarked
  have oneRun := pieces_of_unmarked unslashed []
  rw [shown, oneRun]
  simp [shownWith, Piece.ofRun, replaced_eq unnamed, Except.map]

/-- What a run shows stands in front of what is shown behind it. -/
theorem shownWith_plain {opened : List OpenTag} {first : Text} {pieces : List Piece}
    (told : shownWith opened (.plain first :: pieces) = .ok text) :
    ∃ others, shownWith opened pieces = .ok others ∧ text = first ++ others := by
  rw [shownWith] at told
  cases behind : shownWith opened pieces with
  | error problem => simp [behind, Except.map] at told
  | ok others =>
    rw [behind] at told
    exact ⟨others, rfl, (Except.ok.inj told).symm⟩

/-- A tag shows nothing. -/
theorem shownWith_ofTagText {opened : List OpenTag} {inside : Text} {pieces : List Piece}
    (told : shownWith opened (.ofTagText inside :: pieces) = .ok text) :
    ∃ nowOpened, shownWith nowOpened pieces = .ok text := by
  have behind {name : Text} {parameters : Option Text}
      (told : shownWith opened (.tag name parameters :: pieces) = .ok text) :
      ∃ nowOpened, shownWith nowOpened pieces = .ok text := by
    rw [shownWith] at told
    split at told
    · exact ⟨_, told⟩
    · cases told
  rw [Piece.ofTagText] at told
  split at told
  · exact behind told
  · exact behind told

/-- What a walk over a message has still to show: the run, backslashes behind it and the rest. -/
def pending (run : Text) (slashes : Nat) (rest : Text) : Text :=
  run.reverse ++ (List.replicate slashes ('\\' : CodePoint) ++ rest)

/-- A text is left of what a walk has still to show. If markup is behind the run, something is left
out. -/
structure IsLeftOf (run : Text) (slashes : Nat) (rest text : Text) : Prop where
  kept : text.Sublist (pending run slashes rest)
  fewer : HoldsMarkup (List.replicate slashes ('\\' : CodePoint) ++ rest) →
    text.length < (pending run slashes rest).length

/-- How much is pending. -/
@[simp]
theorem length_pending : (pending run slashes rest).length =
    run.length + (slashes + rest.length) := by
  simp [pending]

/-- A backslash joins the backslashes. -/
theorem pending_slash :
    pending run slashes (('\\' : CodePoint) :: rest) = pending run (slashes + 1) rest := by
  rw [pending, pending, replicate_append_slash]

/-- Other code points join the run, and the backslashes with them. -/
theorem pending_run : pending (c :: List.replicate slashes '\\' ++ run) 0 rest =
    pending run slashes (c :: rest) := by
  simp [pending]

/-- A backslash is left to the backslashes behind it. -/
theorem IsLeftOf.of_slash (left : IsLeftOf run (slashes + 1) rest text) :
    IsLeftOf run slashes (('\\' : CodePoint) :: rest) text := by
  obtain ⟨kept, fewer⟩ := left
  rw [← pending_slash] at kept fewer
  rw [← replicate_append_slash] at fewer
  exact ⟨kept, fewer⟩

/-- Any other code point is left, and the backslashes before it. -/
theorem IsLeftOf.of_plain (noBracket : c ≠ '[') (noSlash : c ≠ '\\')
    (left : IsLeftOf (c :: List.replicate slashes '\\' ++ run) 0 rest text) :
    IsLeftOf run slashes (c :: rest) text := by
  obtain ⟨kept, fewer⟩ := left
  rw [pending_run] at kept fewer
  refine ⟨kept, fun holds => fewer ?_⟩
  rw [holdsMarkup_replicate_iff, holdsMarkup_cons_of_ne noBracket noSlash] at holds
  rcases holds with ⟨-, opens⟩ | holds
  · exact absurd (Option.some.inj opens) noBracket
  · exact holds

/-- A bracket that opens no tag is left. One of the backslashes before it is left out. -/
theorem IsLeftOf.of_bracket (untagged : tagText? rest = none)
    (left : IsLeftOf (('[' : CodePoint) :: List.replicate (slashes - 1) '\\' ++ run) 0 rest text) :
    IsLeftOf run slashes (('[' : CodePoint) :: rest) text := by
  obtain ⟨kept, fewer⟩ := left
  rw [pending_run] at kept fewer
  have less := kept.length_le
  have fewerSlashes : (List.replicate (slashes - 1) ('\\' : CodePoint)).Sublist
      (List.replicate slashes '\\') :=
    (List.replicate_sublist_replicate _).mpr (Nat.sub_le slashes 1)
  refine ⟨kept.trans ((List.Sublist.refl _).append (fewerSlashes.append (.refl _))), ?_⟩
  intro holds
  rw [length_pending] at less fewer ⊢
  rw [holdsMarkup_replicate_iff, holdsMarkup_cons_iff] at holds
  rcases holds with ⟨some, -⟩ | ⟨-, isTag⟩ | ⟨isSlash, -⟩ | holds
  · omega
  · simp [untagged] at isTag
  · exact absurd isSlash (by decide)
  · have shorter := fewer holds
    omega

/-- What is shown with a tag is left, whether the tag is escaped or not. At least a backslash or the
tag is left out. -/
theorem IsLeftOf.of_tag {opened : List OpenTag} {inside left : Text} {pieces : List Piece}
    (onward : ∀ nowOpened others, shownWith nowOpened pieces = .ok others → others.Sublist left)
    (told : shownWith opened (.ofRun run :: .plain (List.replicate (slashes / 2) '\\') ::
      (if slashes % 2 = 1 then .ofRun ("[" ++ inside ++ "]" : Text).reverse
        else .ofTagText inside) :: pieces) = .ok text)
    (unnamed : ¬HoldsShortcode IsPicturedOrOpen
      (pending run slashes ("[" ++ inside ++ "]" ++ left))) :
    IsLeftOf run slashes ("[" ++ inside ++ "]" ++ left) text := by
  have unnamedRun := mt (fun holds => HoldsShortcode.append_right holds _) unnamed
  have unnamedTag := mt (fun holds => (HoldsShortcode.append_right holds left).append_left
    (List.replicate slashes ('\\' : CodePoint)) |>.append_left run.reverse) unnamed
  have half : (List.replicate (slashes / 2) ('\\' : CodePoint)).Sublist
      (List.replicate slashes '\\') :=
    (List.replicate_sublist_replicate _).mpr (Nat.div_le_self slashes 2)
  obtain ⟨others, toldOthers, rfl⟩ := shownWith_plain told
  obtain ⟨behind, toldBehind, rfl⟩ := shownWith_plain toldOthers
  rw [replaced_eq_of_unnamed unnamedRun]
  split at toldBehind
  · rename_i odd
    obtain ⟨more, toldMore, rfl⟩ := shownWith_plain toldBehind
    have kept := onward opened more toldMore
    have shorter := kept.length_le
    rw [List.reverse_reverse, replaced_eq_of_unnamed unnamedTag]
    refine ⟨(List.Sublist.refl _).append (half.append ((List.Sublist.refl _).append kept)), ?_⟩
    simp [Text.ofString]
    omega
  · obtain ⟨nowOpened, toldMore⟩ := shownWith_ofTagText toldBehind
    have kept := onward nowOpened behind toldMore
    have shorter := kept.length_le
    have behindTag : behind.Sublist ("[" ++ inside ++ "]" ++ left) :=
      kept.trans (List.sublist_append_right _ left)
    refine ⟨(List.Sublist.refl _).append (half.append behindTag), ?_⟩
    simp [Text.ofString]
    omega

/-- At the end of a message the run and the backslashes are left. -/
theorem IsLeftOf.of_nil (unnamed : ¬HoldsShortcode IsPicturedOrOpen (pending run slashes [])) :
    IsLeftOf run slashes []
      (replaced (List.replicate slashes ('\\' : CodePoint) ++ run).reverse) := by
  have whole : (List.replicate slashes ('\\' : CodePoint) ++ run).reverse =
      pending run slashes [] := by
    simp [pending]
  rw [whole, replaced_eq_of_unnamed unnamed]
  refine ⟨.refl _, fun holds => ?_⟩
  rw [holdsMarkup_replicate_iff] at holds
  rcases holds with ⟨-, opens⟩ | holds
  · cases opens
  · cases holds

/-- Where no picture can appear, what a walk over a message shows is left of what is pending. -/
theorem isLeftOf_of_shownWith {opened : List OpenTag} {passing : Nat}
    (told : shownWith opened (pieces passing slashes run t) = .ok text)
    (unnamed : ¬HoldsShortcode IsPicturedOrOpen (pending run slashes (t.drop passing))) :
    IsLeftOf run slashes (t.drop passing) text := by
  induction t generalizing opened passing slashes run text with
  | nil =>
    have oneRun : pieces passing slashes run [] =
        [.ofRun (List.replicate slashes ('\\' : CodePoint) ++ run)] := by
      cases passing <;> rfl
    rw [oneRun] at told
    obtain ⟨others, behind, rfl⟩ := shownWith_plain told
    obtain rfl := Except.ok.inj behind
    rw [List.drop_nil] at unnamed ⊢
    rw [List.append_nil]
    exact .of_nil unnamed
  | cons c rest inductionHypothesis =>
    cases passing with
    | succ passing => exact inductionHypothesis told unnamed
    | zero =>
      rw [List.drop_zero] at unnamed ⊢
      rw [pieces] at told
      split at told
      · rename_i isSlash
        obtain rfl := isSlash
        rw [pending_slash] at unnamed
        exact (inductionHypothesis told unnamed).of_slash
      · rename_i noSlash
        split at told
        · rename_i isBracket
          obtain rfl := isBracket
          cases found : tagText? rest with
          | none =>
            simp only [found] at told
            have unnamedShown := mt HoldsShortcode.of_fewer_slashes unnamed
            rw [← pending, ← pending_run] at unnamedShown
            exact (inductionHypothesis told unnamedShown).of_bracket found
          | some inside =>
            obtain ⟨-, left, rfl⟩ := tagText?_eq_some_iff.mp found
            simp only [found] at told
            have spelled : ('[' : CodePoint) :: (inside ++ (']' : CodePoint) :: left) =
                "[" ++ inside ++ "]" ++ left := by
              simp [Text.ofString]
            have passed :
                (inside ++ (']' : CodePoint) :: left).drop (inside.length + 1) = left := by
              simp
            rw [spelled] at unnamed ⊢
            have unnamedLeft := mt (fun holds => (HoldsShortcode.append_left holds
              ("[" ++ inside ++ "]")).append_left (List.replicate slashes ('\\' : CodePoint))
              |>.append_left run.reverse) unnamed
            refine .of_tag (fun nowOpened others toldOthers => ?_) told unnamed
            have left := (inductionHypothesis toldOthers (by rw [passed]; exact unnamedLeft)).kept
            rw [passed] at left
            exact left
        · rename_i noBracket
          rw [← pending_run] at unnamed
          exact (inductionHypothesis told unnamed).of_plain noBracket noSlash

/-- A text is left of another one, and something of that is left out. -/
def Shortens (text t : Text) : Prop := text.Sublist t ∧ text.length < t.length

/-- Where no picture can appear, a message with markup is shown shorter, if it is shown at all. -/
theorem shown_of_marked (unnamed : ¬HoldsShortcode IsPicturedOrOpen t) (marked : HoldsMarkup t)
    (told : shown t = .ok text) : Shortens text t := by
  have left : IsLeftOf [] 0 (t.drop 0) text := isLeftOf_of_shownWith told unnamed
  exact ⟨left.kept, left.fewer marked⟩

end

end TagAudit.Markup
