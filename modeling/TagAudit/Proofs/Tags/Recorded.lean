import Mathlib.Data.List.Induction
import Mathlib.Data.Nat.Find
import TagAudit.Proofs.Keyed
import TagAudit.Proofs.Tags.Replacement
import TagAudit.Proofs.Tags.Sharing

/-!
# What is recorded of a class

The conflicts of a class are collected in one pass. Told by the places of its fields, the outcome is
this. A tag is recorded exactly when instance fields at two different places have it. The record
names the last of them, however many there are. The records stand in the order of the second fields
that have each tag, for that is where a tag is recorded first, and a later field with the same tag
changes the record and not its place.

The pass is followed field by field: what one more field does to the conflicts is told once, and
what holds of a class whose fields are all gone through comes from it by induction.
-/

namespace TagAudit

open ClassFile

namespace ClassFile

/-- An item is the first of several that suits. -/
def IsFirst {α : Type} (suits : α → Prop) (items : List α) (item : α) : Prop :=
  suits item ∧ ∃ before after, items = before ++ item :: after ∧ ∀ other ∈ before, ¬suits other

/-- What is looked for is found exactly if it is the first that suits. -/
theorem find?_eq_some_iff_isFirst {α : Type} {suits : α → Prop} {test : α → Bool}
    (tests : ∀ item, test item = true ↔ suits item) (items : List α) (item : α) :
    items.find? test = some item ↔ IsFirst suits items item := by
  rw [List.find?_eq_some_iff_append]
  simp [IsFirst, ← tests]

/-- The name of the element that carries a tag beside others. -/
def tagElement : Text := "value"

/-- What an annotation gives: the value of its first pair with the name of the tag element, or,
where no pair has that name, the value of its only pair. -/
inductive Annotation.Gives (a : Annotation) : ElementValue → Prop where
  | named (pair : Text × ElementValue)
      (first : IsFirst (fun pair => pair.1 = tagElement) a.pairs pair) : a.Gives pair.2
  | only (pair : Text × ElementValue) (single : a.pairs = [pair])
      (unnamed : pair.1 ≠ tagElement) : a.Gives pair.2

/-- A field has a tag: the first of its annotations of the tag type gives an integer. -/
def Field.HasTag (tagType : Text) (f : Field) (tag : Int) : Prop :=
  ∃ a, IsFirst (fun a : Annotation => a.desc = tagType) f.annotations a ∧ a.Gives (.int tag)

/-- A pair with the name of the element for tags is the one whose value is looked up. -/
theorem Annotation.tagValue?_of_named {a : Annotation} {pair : Text × ElementValue}
    (found : (a.pairs.find? fun pair => pair.1 == tagElement) = some pair) :
    a.tagValue? = some pair.2 := by
  have looked : a.get? "value" = some pair.2 := congrArg (Option.map Prod.snd) found
  rw [tagValue?, looked]

/-- If there is none it is the only pair, if there is just one. -/
theorem Annotation.tagValue?_of_unnamed {a : Annotation}
    (absent : (a.pairs.find? fun pair => pair.1 == tagElement) = none) :
    a.tagValue? = if a.pairs.length = 1 then a.pairs.head?.map Prod.snd else none := by
  have looked : a.get? "value" = none := congrArg (Option.map Prod.snd) absent
  rw [tagValue?, looked]
  rcases a.pairs with _ | ⟨pair, _ | _⟩ <;> rfl

/-- The value that is looked up in an annotation is the one that it gives. -/
theorem Annotation.tagValue?_eq_some_iff (a : Annotation) (value : ElementValue) :
    a.tagValue? = some value ↔ a.Gives value := by
  have named (pair : Text × ElementValue) : (pair.1 == tagElement) = true ↔ pair.1 = tagElement :=
    beq_iff_eq
  cases found : a.pairs.find? fun pair => pair.1 == tagElement with
  | some pair =>
    have first := (find?_eq_some_iff_isFirst named _ _).mp found
    rw [tagValue?_of_named found]
    constructor
    · rintro ⟨⟩
      exact .named pair first
    · rintro (⟨other, firstToo⟩ | ⟨other, single, unnamed⟩)
      · have foundToo := (find?_eq_some_iff_isFirst named _ _).mpr firstToo
        exact congrArg (Option.map Prod.snd) (found.symm.trans foundToo)
      · simp [single, unnamed] at found
  | none =>
    have absent : ∀ pair ∈ a.pairs, pair.1 ≠ tagElement := by simpa using found
    rw [tagValue?_of_unnamed found]
    constructor
    · intro looked
      split at looked
      · rename_i alone
        obtain ⟨pair, single⟩ := List.length_eq_one_iff.mp alone
        rw [single] at looked
        cases looked
        exact .only pair single (absent pair (by rw [single]; exact List.mem_cons_self))
      · cases looked
    · rintro (⟨pair, named, before, after, split, -⟩ | ⟨pair, single, -⟩)
      · exact (absent pair (by rw [split]; simp) named).elim
      · rw [single]
        rfl

/-- The tag that is found for a field is the one that it has. -/
theorem Field.tag?_eq_some_iff (tagType : Text) (f : Field) (tag : Int) :
    f.tag? tagType = some tag ↔ f.HasTag tagType tag := by
  have integer (value : ElementValue) : value.int? = some tag ↔ value = .int tag := by
    cases value <;> simp [ElementValue.int?]
  have looked (a : Annotation) : f.findAnnotation? tagType = some a ↔
      IsFirst (fun a => a.desc = tagType) f.annotations a :=
    find?_eq_some_iff_isFirst (fun _ => beq_iff_eq) _ _
  simp only [Field.tag?, Option.bind_eq_some_iff, integer, looked,
    Annotation.tagValue?_eq_some_iff]
  constructor
  · rintro ⟨_, ⟨a, first, given⟩, rfl⟩
    exact ⟨a, first, given⟩
  · rintro ⟨a, first, given⟩
    exact ⟨_, ⟨a, first, given⟩, rfl⟩

/-- The field at a place is an instance field that has a tag. -/
def HoldsTag (tagType : Text) (fields : List Field) (place : Nat) (tag : Int) : Prop :=
  ∃ f, fields[place]? = some f ∧ f.isStatic = false ∧ f.HasTag tagType tag

/-- The field at a place is the second one that has a tag. -/
def IsSecondHolder (tagType : Text) (fields : List Field) (place : Nat) (tag : Int) : Prop :=
  HoldsTag tagType fields place tag ∧ ∃ first < place, HoldsTag tagType fields first tag ∧
    ∀ other < place, HoldsTag tagType fields other tag → other = first

/-- The field at a place is the last one that has a tag. -/
def IsLastHolder (tagType : Text) (fields : List Field) (place : Nat) (tag : Int) : Prop :=
  HoldsTag tagType fields place tag ∧ ∀ other, HoldsTag tagType fields other tag → other ≤ place

section
variable {tagType : Text} {fields : List Field} {place : Nat} {tag : Int}

/-- What a place holds is what the field there contributes. -/
theorem holdsTag_iff : HoldsTag tagType fields place tag ↔
    ∃ f, fields[place]? = some f ∧ f.ownTag? tagType = some tag := by
  simp only [HoldsTag, Field.ownTag?_eq_some_iff, Field.tag?_eq_some_iff]

/-- Only places within the class hold tags. -/
theorem HoldsTag.lt_length (holds : HoldsTag tagType fields place tag) :
    place < fields.length := by
  obtain ⟨f, there, -⟩ := holds
  exact (List.getElem?_eq_some_iff.mp there).1

/-- A place holds one tag at most. -/
theorem HoldsTag.unique {other : Int} (holds : HoldsTag tagType fields place tag)
    (holdsToo : HoldsTag tagType fields place other) : tag = other := by
  obtain ⟨f, there, own⟩ := holdsTag_iff.mp holds
  obtain ⟨g, thereToo, ownToo⟩ := holdsTag_iff.mp holdsToo
  obtain rfl := Option.some.inj (there.symm.trans thereToo)
  exact Option.some.inj (own.symm.trans ownToo)

/-- A tag occurs among the tags of the fields exactly if some place holds it. -/
theorem mem_tags_iff : tag ∈ fields.filterMap (Field.ownTag? tagType) ↔
    ∃ place, HoldsTag tagType fields place tag := by
  rw [List.mem_filterMap]
  constructor
  · rintro ⟨f, member, own⟩
    obtain ⟨place, there⟩ := List.mem_iff_getElem?.mp member
    exact ⟨place, holdsTag_iff.mpr ⟨f, there, own⟩⟩
  · rintro ⟨place, holds⟩
    obtain ⟨f, there, own⟩ := holdsTag_iff.mp holds
    exact ⟨f, List.mem_of_getElem? there, own⟩

/-- One more field holds its tag at its own place, and all others hold what they held. -/
theorem holdsTag_append_iff (f : Field) : HoldsTag tagType (fields ++ [f]) place tag ↔
    HoldsTag tagType fields place tag ∨ place = fields.length ∧ f.ownTag? tagType = some tag := by
  rw [holdsTag_iff, holdsTag_iff]
  rcases Nat.lt_trichotomy place fields.length with inside | rfl | outside
  · rw [List.getElem?_append_left inside]
    simp [Nat.ne_of_lt inside]
  · simp
  · have absent : (fields ++ [f])[place]? = none := by
      rw [List.getElem?_eq_none_iff, List.length_append]
      exact outside
    rw [absent, List.getElem?_eq_none (Nat.le_of_lt outside)]
    simp [Nat.ne_of_gt outside]

/-- A field keeps its tag when another one follows. -/
theorem HoldsTag.append (holds : HoldsTag tagType fields place tag) (f : Field) :
    HoldsTag tagType (fields ++ [f]) place tag :=
  (holdsTag_append_iff f).mpr (.inl holds)

/-- A tag that the last field does not have is held by those before it. -/
theorem HoldsTag.of_append {f : Field} (holds : HoldsTag tagType (fields ++ [f]) place tag)
    (other : f.ownTag? tagType ≠ some tag) : HoldsTag tagType fields place tag := by
  rcases (holdsTag_append_iff f).mp holds with held | ⟨-, own⟩
  · exact held
  · exact (other own).elim

/-- The place of the last field is the last one that holds a tag. -/
theorem HoldsTag.le_of_append {f : Field} (holds : HoldsTag tagType (fields ++ [f]) place tag) :
    place ≤ fields.length := by
  have inside := holds.lt_length
  rw [List.length_append, List.length_singleton] at inside
  exact Nat.lt_succ_iff.mp inside

/-- A second field with a tag stays the second one. -/
theorem IsSecondHolder.append (second : IsSecondHolder tagType fields place tag) (f : Field) :
    IsSecondHolder tagType (fields ++ [f]) place tag := by
  obtain ⟨holds, first, before, holdsFirst, only⟩ := second
  refine ⟨holds.append f, first, before, holdsFirst.append f, ?_⟩
  intro other early holdsOther
  rcases (holdsTag_append_iff f).mp holdsOther with held | ⟨rfl, -⟩
  · exact only other early held
  · exact (Nat.lt_asymm early holds.lt_length).elim

/-- Where two fields have a tag, one of them is the second. -/
theorem exists_isSecondHolder {i j : Nat} (ordered : i < j) (holds : HoldsTag tagType fields i tag)
    (holdsToo : HoldsTag tagType fields j tag) :
    ∃ place, IsSecondHolder tagType fields place tag := by
  classical
  have held : ∃ place, HoldsTag tagType fields place tag := ⟨i, holds⟩
  -- the first place that holds the tag, and the first one after that
  have again : ∃ place, Nat.find held < place ∧ HoldsTag tagType fields place tag :=
    ⟨j, Nat.lt_of_le_of_lt (Nat.find_min' held holds) ordered, holdsToo⟩
  obtain ⟨after, holdsAgain⟩ := Nat.find_spec again
  refine ⟨Nat.find again, holdsAgain, Nat.find held, after, Nat.find_spec held, ?_⟩
  intro other early holdsOther
  by_contra different
  have later : Nat.find held < other :=
    Nat.lt_of_le_of_ne (Nat.find_min' held holdsOther) (Ne.symm different)
  exact Nat.find_min again early ⟨later, holdsOther⟩

/-- The last field with a tag stays the last one if the next field does not have that tag. -/
theorem IsLastHolder.append (lastHolder : IsLastHolder tagType fields place tag) {f : Field}
    (other : f.ownTag? tagType ≠ some tag) : IsLastHolder tagType (fields ++ [f]) place tag :=
  ⟨lastHolder.1.append f, fun later holds => lastHolder.2 later (holds.of_append other)⟩

end

end ClassFile

namespace Conflicts

/-- The last of several tagged fields is recorded if its tag was seen before it. -/
theorem collect_append_singleton (className : Text) (seen : List Int) (conflicts : Conflicts)
    (tagged : List (Text × Int)) (name : Text) (tag : Int) :
    collect className seen conflicts (tagged ++ [(name, tag)]) =
      if tag ∈ seen ∨ tag ∈ tagged.map Prod.snd then
        Keyed.put tag ⟨className, name, tag⟩ (collect className seen conflicts tagged)
      else collect className seen conflicts tagged := by
  induction tagged generalizing seen conflicts with
  | nil => simp [collect]
  | cons entry rest inductionHypothesis =>
    obtain ⟨first, own⟩ := entry
    rw [List.cons_append, collect, collect]
    by_cases repeated : own ∈ seen
    · rw [if_pos repeated, if_pos repeated, inductionHypothesis]
      have atOnce : tag = own → tag ∈ seen := fun same => same ▸ repeated
      have sameTest : (tag ∈ seen ∨ tag ∈ rest.map Prod.snd) ↔
          (tag ∈ seen ∨ tag ∈ ((first, own) :: rest).map Prod.snd) := by
        rw [List.map_cons, List.mem_cons]
        tauto
      simp only [sameTest]
    · rw [if_neg repeated, if_neg repeated, inductionHypothesis]
      have sameTest : (tag ∈ own :: seen ∨ tag ∈ rest.map Prod.snd) ↔
          (tag ∈ seen ∨ tag ∈ ((first, own) :: rest).map Prod.snd) := by
        rw [List.map_cons, List.mem_cons, List.mem_cons]
        tauto
      simp only [sameTest]

/-- The conflicts of a class with fields. -/
def ofFields (tagType className : Text) (fields : List Field) : Conflicts :=
  collect className [] [] (fields.filterMap fun f =>
    (f.ownTag? tagType).map fun tag => (f.name, tag))

/-- The fields that are gone through are those that contribute a tag. -/
theorem ofClass_eq_ofFields (tagType : Text) (c : ClassDescriptor) :
    ofClass tagType c = ofFields tagType c.dottedName c.fields := by
  have contributing : taggedFields tagType c = c.fields.filterMap fun f =>
      (f.ownTag? tagType).map fun tag => (f.name, tag) := by
    rw [taggedFields, ClassDescriptor.instanceFields, List.filterMap_filter]
    congr 1
    funext f
    cases static : f.isStatic <;> simp [Field.ownTag?, static]
  rw [ofClass, contributing, ofFields]

/-- What one more field does: it is recorded under its tag if some field before it has that. -/
theorem ofFields_append_singleton (tagType className : Text) (fields : List Field) (f : Field) :
    (f.ownTag? tagType = none → ofFields tagType className (fields ++ [f]) =
        ofFields tagType className fields) ∧
    ∀ tag, f.ownTag? tagType = some tag →
      ((∀ place, ¬HoldsTag tagType fields place tag) →
        ofFields tagType className (fields ++ [f]) = ofFields tagType className fields) ∧
      (∀ place, HoldsTag tagType fields place tag →
        ofFields tagType className (fields ++ [f]) =
          Keyed.put tag ⟨className, f.name, tag⟩ (ofFields tagType className fields)) := by
  have tags : (fields.filterMap fun f => (f.ownTag? tagType).map fun tag => (f.name, tag)).map
      Prod.snd = fields.filterMap (Field.ownTag? tagType) := by
    rw [List.map_filterMap]
    congr 1
    funext f
    cases f.ownTag? tagType <;> rfl
  constructor
  · intro untagged
    simp [ofFields, untagged]
  · intro tag own
    have split : ofFields tagType className (fields ++ [f]) =
        if tag ∈ fields.filterMap (Field.ownTag? tagType) then
          Keyed.put tag ⟨className, f.name, tag⟩ (ofFields tagType className fields)
        else ofFields tagType className fields := by
      rw [ofFields, List.filterMap_append]
      simp only [List.filterMap_cons, own, Option.map_some, List.filterMap_nil]
      rw [collect_append_singleton, tags]
      simp [ofFields]
    rw [split]
    constructor
    · intro fresh
      rw [if_neg]
      rintro seen
      obtain ⟨place, holds⟩ := mem_tags_iff.mp seen
      exact fresh place holds
    · intro place holds
      rw [if_pos (mem_tags_iff.mpr ⟨place, holds⟩)]

/-- What conflicts tell of the fields of a class, by the places of these. -/
structure Tells (tagType className : Text) (fields : List Field) (conflicts : Conflicts) :
    Prop where
  /-- A tag is recorded if fields at two places have it. -/
  recorded (tag : Int) : tag ∈ Keyed.keys conflicts ↔
    ∃ i j, i < j ∧ HoldsTag tagType fields i tag ∧ HoldsTag tagType fields j tag
  /-- A record names the last field that has its tag. -/
  last (tag : Int) (conflict : Conflict) (held : Keyed.get? tag conflicts = some conflict) :
    ∃ place f, fields[place]? = some f ∧ IsLastHolder tagType fields place tag ∧
      conflict = ⟨className, f.name, tag⟩
  /-- Records stand in the order of the second fields that have their tags. -/
  ordered : (Keyed.keys conflicts).Pairwise fun earlier later =>
    ∃ i j, i < j ∧ IsSecondHolder tagType fields i earlier ∧
      IsSecondHolder tagType fields j later

section
variable {tagType className : Text} {fields : List Field} {conflicts : Conflicts} {f : Field}

/-- The order of the records does not depend on what follows. -/
theorem Tells.ordered_append (told : Tells tagType className fields conflicts) (f : Field) :
    (Keyed.keys conflicts).Pairwise fun earlier later =>
      ∃ i j, i < j ∧ IsSecondHolder tagType (fields ++ [f]) i earlier ∧
        IsSecondHolder tagType (fields ++ [f]) j later := by
  refine told.ordered.imp ?_
  rintro earlier later ⟨i, j, ordered, second, secondToo⟩
  exact ⟨i, j, ordered, second.append f, secondToo.append f⟩

/-- Neither does a record, if what follows has another tag. -/
theorem Tells.last_append (told : Tells tagType className fields conflicts) {tag : Int}
    {conflict : Conflict} (held : Keyed.get? tag conflicts = some conflict)
    (other : f.ownTag? tagType ≠ some tag) :
    ∃ place g, (fields ++ [f])[place]? = some g ∧
      IsLastHolder tagType (fields ++ [f]) place tag ∧ conflict = ⟨className, g.name, tag⟩ := by
  obtain ⟨place, g, there, lastHolder, rfl⟩ := told.last tag conflict held
  refine ⟨place, g, ?_, lastHolder.append other, rfl⟩
  rw [List.getElem?_append_left lastHolder.1.lt_length, there]

/-- Whether a tag is recorded does not depend on fields with other tags. -/
theorem Tells.recorded_append (told : Tells tagType className fields conflicts) {tag : Int}
    (other : f.ownTag? tagType ≠ some tag) : tag ∈ Keyed.keys conflicts ↔
      ∃ i j, i < j ∧ HoldsTag tagType (fields ++ [f]) i tag ∧
        HoldsTag tagType (fields ++ [f]) j tag := by
  rw [told.recorded]
  constructor
  · rintro ⟨i, j, ordered, holds, holdsToo⟩
    exact ⟨i, j, ordered, holds.append f, holdsToo.append f⟩
  · rintro ⟨i, j, ordered, holds, holdsToo⟩
    exact ⟨i, j, ordered, holds.of_append other, holdsToo.of_append other⟩

/-- A field that has no tag, or is the first with its tag, changes nothing. -/
theorem Tells.append_fresh (told : Tells tagType className fields conflicts)
    (fresh : ∀ tag, f.ownTag? tagType = some tag → ∀ place, ¬HoldsTag tagType fields place tag) :
    Tells tagType className (fields ++ [f]) conflicts := by
  refine ⟨fun tag => ?_, fun tag conflict held => ?_, told.ordered_append f⟩
  · by_cases own : f.ownTag? tagType = some tag
    · have unheld := fresh tag own
      constructor
      · intro recorded
        obtain ⟨i, -, -, holds, -⟩ := (told.recorded tag).mp recorded
        exact (unheld i holds).elim
      · rintro ⟨i, j, ordered, holds, holdsToo⟩
        rcases (holdsTag_append_iff f).mp holds with held | ⟨rfl, -⟩
        · exact (unheld i held).elim
        · exact (Nat.not_lt.mpr holdsToo.le_of_append ordered).elim
    · exact told.recorded_append own
  · refine told.last_append held ?_
    intro own
    obtain ⟨place, -, -, lastHolder, -⟩ := told.last tag conflict held
    exact fresh tag own place lastHolder.1

/-- A field whose tag some field before it has is recorded under the tag. -/
theorem Tells.append_repeated {tag : Int} {place : Nat}
    (told : Tells tagType className fields conflicts) (own : f.ownTag? tagType = some tag)
    (before : HoldsTag tagType fields place tag) :
    Tells tagType className (fields ++ [f]) (Keyed.put tag ⟨className, f.name, tag⟩ conflicts) := by
  have atEnd : HoldsTag tagType (fields ++ [f]) fields.length tag :=
    (holdsTag_append_iff f).mpr (.inr ⟨rfl, own⟩)
  have differs {other : Int} (different : other ≠ tag) : f.ownTag? tagType ≠ some other :=
    fun ownToo => different (Option.some.inj (ownToo.symm.trans own))
  refine ⟨fun other => ?_, fun other conflict held => ?_, ?_⟩
  · rw [Keyed.mem_keys_put_iff]
    by_cases same : other = tag
    · subst same
      have twice := And.intro before.lt_length (And.intro (before.append f) atEnd)
      exact iff_of_true (.inl rfl) ⟨place, fields.length, twice⟩
    · rw [told.recorded_append (differs same)]
      exact or_iff_right same
  · by_cases same : other = tag
    · subst same
      rw [Keyed.get?_put_self] at held
      have lastHolder : IsLastHolder tagType (fields ++ [f]) fields.length other :=
        ⟨atEnd, fun _ holds => holds.le_of_append⟩
      exact ⟨fields.length, f, List.getElem?_concat_length, lastHolder, (Option.some.inj held).symm⟩
    · rw [Keyed.get?_put_of_ne tag other _ _ same] at held
      exact told.last_append held (differs same)
  · by_cases there : tag ∈ Keyed.keys conflicts
    · rw [Keyed.keys_put_of_mem _ _ _ there]
      exact told.ordered_append f
    · rw [Keyed.keys_put_of_not_mem _ _ _ there, List.pairwise_append]
      refine ⟨told.ordered_append f, List.pairwise_singleton _ _, ?_⟩
      -- the field is the second with its tag, and all that are recorded had a second one before it
      have second : IsSecondHolder tagType (fields ++ [f]) fields.length tag := by
        have single {i j : Nat} (holds : HoldsTag tagType fields i tag)
            (holdsToo : HoldsTag tagType fields j tag) : ¬i < j := fun ordered =>
          there ((told.recorded tag).mpr ⟨i, j, ordered, holds, holdsToo⟩)
        refine ⟨atEnd, place, before.lt_length, before.append f, ?_⟩
        intro other early holds
        rcases (holdsTag_append_iff f).mp holds with held | ⟨rfl, -⟩
        · exact Nat.le_antisymm (Nat.not_lt.mp (single before held))
            (Nat.not_lt.mp (single held before))
        · exact (Nat.lt_irrefl _ early).elim
      intro earlier recorded later member
      obtain rfl := List.mem_singleton.mp member
      obtain ⟨i, j, ordered, holds, holdsToo⟩ := (told.recorded earlier).mp recorded
      obtain ⟨k, secondEarlier⟩ := exists_isSecondHolder ordered holds holdsToo
      exact ⟨k, fields.length, secondEarlier.1.lt_length, secondEarlier.append f, second⟩

/-- The conflicts of a class tell of all its fields. -/
theorem tells_ofFields (tagType className : Text) (fields : List Field) :
    Tells tagType className fields (ofFields tagType className fields) := by
  induction fields using List.reverseRecOn with
  | nil =>
    have empty (place : Nat) (tag : Int) : ¬HoldsTag tagType [] place tag := by
      rintro ⟨f, there, -⟩
      cases there
    exact ⟨by simp [ofFields, collect, Keyed.keys, empty], by simp [ofFields, collect, Keyed.get?],
      List.Pairwise.nil⟩
  | append_singleton fields f inductionHypothesis =>
    obtain ⟨untagged, tagged⟩ := ofFields_append_singleton tagType className fields f
    cases own : f.ownTag? tagType with
    | none =>
      rw [untagged own]
      refine inductionHypothesis.append_fresh ?_
      simp [own]
    | some tag =>
      by_cases before : ∃ place, HoldsTag tagType fields place tag
      · obtain ⟨place, holds⟩ := before
        rw [(tagged tag own).2 place holds]
        exact inductionHypothesis.append_repeated own holds
      · rw [(tagged tag own).1 (not_exists.mp before)]
        refine inductionHypothesis.append_fresh ?_
        rintro other ownToo
        obtain rfl := Option.some.inj (own.symm.trans ownToo)
        exact not_exists.mp before

end

/-- What exactly is recorded of a class. The keys are distinct, and are the tags that instance
fields at two places have. Under each stands the name of the class, with a dot for every slash, and
that of the last field that has the tag. The keys stand in the order of the second fields that have
them. -/
theorem ofClass_exact (tagType : Text) (c : ClassDescriptor) :
    (Keyed.keys (ofClass tagType c)).Nodup ∧
    (∀ tag, tag ∈ Keyed.keys (ofClass tagType c) ↔
      ∃ i j, i < j ∧ HoldsTag tagType c.fields i tag ∧ HoldsTag tagType c.fields j tag) ∧
    (∀ tag ∈ Keyed.keys (ofClass tagType c), ∃ place f, c.fields[place]? = some f ∧
      IsLastHolder tagType c.fields place tag ∧
      Keyed.get? tag (ofClass tagType c) =
        some ⟨c.name.map fun point : CodePoint => if point = '/' then ('.' : CodePoint) else point,
          f.name, tag⟩) ∧
    (Keyed.keys (ofClass tagType c)).Pairwise fun earlier later =>
      ∃ i j, i < j ∧ IsSecondHolder tagType c.fields i earlier ∧
        IsSecondHolder tagType c.fields j later := by
  have told : Tells tagType c.dottedName c.fields (ofClass tagType c) := by
    rw [ofClass_eq_ofFields]
    exact tells_ofFields tagType c.dottedName c.fields
  refine ⟨nodup_keys_ofClass tagType c, told.recorded, fun tag recorded => ?_, told.ordered⟩
  obtain ⟨conflict, held⟩ := Keyed.exists_get?_of_mem_keys recorded
  obtain ⟨place, f, there, lastHolder, rfl⟩ := told.last tag conflict held
  exact ⟨place, f, there, lastHolder, held⟩

end Conflicts

end TagAudit
