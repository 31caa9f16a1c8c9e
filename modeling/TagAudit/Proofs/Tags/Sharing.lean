import TagAudit.Tags.Report

/-!
# Shared tags

Two instance fields of a class share a tag when they stand at different places and have the same
one. Conflicts are collected in one pass with a list of the tags seen so far. That pass records
something exactly when two fields share a tag, wherever they stand and whatever stands between them.

A report is built class by class, and a class may take the place of another one of the same name.
It takes the place with conflicts of its own, so a report that has become dirty stays dirty.
-/

namespace TagAudit

open ClassFile

namespace ClassFile

/-- The tag that a field contributes to its class; a static field contributes none. -/
def Field.ownTag? (tagType : Text) (f : Field) : Option Int :=
  if f.isStatic then none else f.tag? tagType

/-- Two instance fields at different places of a class have the same tag. -/
def ClassDescriptor.SharesTag (tagType : Text) (c : ClassDescriptor) : Prop :=
  ∃ (i j : Nat) (f g : Field) (tag : Int), i ≠ j ∧ c.fields[i]? = some f ∧ c.fields[j]? = some g ∧
    f.isStatic = false ∧ g.isStatic = false ∧
    f.tag? tagType = some tag ∧ g.tag? tagType = some tag

/-- The tags of a class, in the order of its fields. -/
def ClassDescriptor.tags (tagType : Text) (c : ClassDescriptor) : List Int :=
  c.fields.filterMap (Field.ownTag? tagType)

/-- A field contributes a tag when it is an instance field that has it. -/
theorem Field.ownTag?_eq_some_iff (tagType : Text) (f : Field) (tag : Int) :
    f.ownTag? tagType = some tag ↔ f.isStatic = false ∧ f.tag? tagType = some tag := by
  cases static : f.isStatic with
  | true => simp [ownTag?, static]
  | false => simp [ownTag?, static]

/-- Fields share a tag exactly when some tag of the class occurs twice. -/
theorem ClassDescriptor.sharesTag_iff (tagType : Text) (c : ClassDescriptor) :
    c.SharesTag tagType ↔ ¬ (c.tags tagType).Nodup := by
  have distinct : (c.tags tagType).Nodup ↔ ∀ (i j : Nat) (f g : Field), i < j →
      c.fields[i]? = some f → c.fields[j]? = some g →
      ∀ tag, f.ownTag? tagType = some tag → g.ownTag? tagType ≠ some tag := by
    rw [tags, List.nodup_iff_pairwise_ne, List.pairwise_filterMap, List.pairwise_iff_getElem]
    constructor
    · intro apart i j f g ordered first second tag own other
      obtain ⟨inside, rfl⟩ := List.getElem?_eq_some_iff.mp first
      obtain ⟨within, rfl⟩ := List.getElem?_eq_some_iff.mp second
      exact apart i j inside within ordered tag own tag other rfl
    · intro apart i j inside within ordered tag own tag' other same
      subst same
      exact apart i j _ _ ordered (List.getElem?_eq_getElem inside)
        (List.getElem?_eq_getElem within) tag own other
  rw [distinct]
  constructor
  · rintro ⟨i, j, f, g, tag, different, first, second, ofInstance, ofOther, own, other⟩ apart
    have ownTag := (Field.ownTag?_eq_some_iff tagType f tag).mpr ⟨ofInstance, own⟩
    have otherTag := (Field.ownTag?_eq_some_iff tagType g tag).mpr ⟨ofOther, other⟩
    rcases Nat.lt_or_gt_of_ne different with before | behind
    · exact apart i j f g before first second tag ownTag otherTag
    · exact apart j i g f behind second first tag otherTag ownTag
  · intro together
    apply Classical.byContradiction
    intro none
    apply together
    intro i j f g ordered first second tag own other
    obtain ⟨ofInstance, tagged⟩ := (Field.ownTag?_eq_some_iff tagType f tag).mp own
    obtain ⟨ofOther, alsoTagged⟩ := (Field.ownTag?_eq_some_iff tagType g tag).mp other
    exact none ⟨i, j, f, g, tag, Nat.ne_of_lt ordered, first, second, ofInstance, ofOther, tagged,
      alsoTagged⟩

end ClassFile

/-- A table into which something has been put is not empty. -/
theorem Keyed.put_ne_nil {κ ν : Type} [BEq κ] (key : κ) (value : ν) (table : Keyed κ ν) :
    table.put key value ≠ [] := by
  cases table with
  | nil => simp [Keyed.put]
  | cons entry rest =>
    rw [Keyed.put]
    split <;> simp

namespace Conflicts

/-- The tags of the fields that are gone through. -/
theorem map_taggedFields (tagType : Text) (c : ClassDescriptor) :
    (taggedFields tagType c).map Prod.snd = c.tags tagType := by
  rw [taggedFields, ClassDescriptor.instanceFields, ClassDescriptor.tags]
  induction c.fields with
  | nil => rfl
  | cons f rest inductionHypothesis =>
    cases static : f.isStatic with
    | true => simpa [static, Field.ownTag?] using inductionHypothesis
    | false =>
      cases tagged : f.tag? tagType with
      | none => simpa [static, tagged, Field.ownTag?] using inductionHypothesis
      | some tag => simpa [static, tagged, Field.ownTag?] using inductionHypothesis

/-- The pass records nothing exactly when nothing was recorded before and every tag is new. -/
theorem collect_eq_nil_iff (className : Text) (seen : List Int) (conflicts : Conflicts)
    (tagged : List (Text × Int)) :
    collect className seen conflicts tagged = [] ↔
      conflicts = [] ∧ (tagged.map Prod.snd).Nodup ∧ ∀ entry ∈ tagged, entry.2 ∉ seen := by
  induction tagged generalizing seen conflicts with
  | nil => simp [collect]
  | cons entry rest inductionHypothesis =>
    obtain ⟨name, tag⟩ := entry
    rw [collect]
    split
    · rename_i repeated
      rw [inductionHypothesis]
      constructor
      · rintro ⟨empty, _⟩
        exact absurd empty (Keyed.put_ne_nil tag _ conflicts)
      · rintro ⟨_, _, fresh⟩
        exact absurd repeated (fresh (name, tag) List.mem_cons_self)
    · rename_i unseen
      rw [inductionHypothesis, List.map_cons, List.nodup_cons, List.forall_mem_cons]
      simp only [List.mem_cons, List.mem_map, not_or, not_exists, not_and]
      constructor
      · rintro ⟨empty, distinct, fresh⟩
        exact ⟨empty, ⟨fun other member => (fresh other member).1, distinct⟩, unseen,
          fun other member => (fresh other member).2⟩
      · rintro ⟨empty, ⟨apart, distinct⟩, _, fresh⟩
        exact ⟨empty, distinct, fun other member => ⟨apart other member, fresh other member⟩⟩

/-- A class has conflicts exactly when two of its fields share a tag. -/
theorem ofClass_ne_nil_iff (tagType : Text) (c : ClassDescriptor) :
    ofClass tagType c ≠ [] ↔ c.SharesTag tagType := by
  rw [ClassDescriptor.sharesTag_iff, ofClass, ne_eq, collect_eq_nil_iff, map_taggedFields]
  simp

end Conflicts

namespace Report

/-- Adding a class leaves a report empty exactly when it was and the class has no conflicts. -/
theorem add_eq_nil_iff (tagType : Text) (report : Report) (c : ClassDescriptor) :
    add tagType report c = [] ↔ report = [] ∧ ¬ c.SharesTag tagType := by
  rw [← Conflicts.ofClass_ne_nil_iff, add]
  split
  · rename_i none
    simp [none]
  · rename_i conflicts some
    constructor
    · intro empty
      exact absurd empty (Keyed.put_ne_nil _ _ report)
    · rintro ⟨_, none⟩
      exact absurd some none

/-- A report is empty exactly when no class examined has fields that share a tag. -/
theorem ofClasses_eq_nil_iff (tagType : Text) (classes : List ClassDescriptor) :
    ofClasses tagType classes = [] ↔ ∀ c ∈ classes, ¬ c.SharesTag tagType := by
  -- The report so far is empty, or it never will be again.
  have onwards (report : Report) : classes.foldl (add tagType) report = [] ↔
      report = [] ∧ ∀ c ∈ classes, ¬ c.SharesTag tagType := by
    induction classes generalizing report with
    | nil => simp
    | cons c rest inductionHypothesis =>
      rw [List.foldl_cons, inductionHypothesis, add_eq_nil_iff, List.forall_mem_cons, and_assoc]
  rw [ofClasses, onwards]
  simp

/-- A report holds something exactly when fields of some class examined share a tag. -/
theorem ofClasses_ne_nil_iff (tagType : Text) (classes : List ClassDescriptor) :
    ofClasses tagType classes ≠ [] ↔ ∃ c ∈ classes, c.SharesTag tagType := by
  simp only [ne_eq, ofClasses_eq_nil_iff, Classical.not_forall, Classical.not_not, exists_prop]

end Report

end TagAudit
