import TagAudit.Proofs.Keyed
import TagAudit.Tags.Report
import Mathlib.Data.Finset.Card
import Mathlib.Data.List.Induction
import Mathlib.Data.List.Nodup

/-!
# What a report keeps

Classes are examined one after another, and a class with conflicts takes the place of every class of
the same dotted name before it. So a report holds, under each name, the conflicts of the last class
of that name that has some, and nothing of the others: where a class and a variant of it for another
release are both examined, a conflict that only the first of them has is lost.

Nothing is lost exactly when, of the classes of one name, the last with conflicts has those of all.
The number of conflicts that a report counts tells the same.
-/

namespace TagAudit

open ClassFile

namespace Conflicts

/-- The keys of what is collected are distinct. -/
theorem nodup_keys_collect (className : Text) (seen : List Int) (conflicts : Conflicts)
    (tagged : List (Text × Int)) (distinct : (Keyed.keys conflicts).Nodup) :
    (Keyed.keys (collect className seen conflicts tagged)).Nodup := by
  induction tagged generalizing seen conflicts with
  | nil => exact distinct
  | cons entry rest inductionHypothesis =>
    rw [collect]
    split
    · exact inductionHypothesis seen _ (Keyed.nodup_keys_put _ _ conflicts distinct)
    · exact inductionHypothesis _ conflicts distinct

/-- The conflicts of a class are recorded under distinct tags. -/
theorem nodup_keys_ofClass (tagType : Text) (c : ClassDescriptor) :
    (Keyed.keys (ofClass tagType c)).Nodup :=
  nodup_keys_collect _ _ _ _ List.nodup_nil

/-- The tags in conflict in a class, each with the dotted name of the class. -/
def pairs (tagType : Text) (c : ClassDescriptor) : List (Text × Int) :=
  (Keyed.keys (ofClass tagType c)).map fun tag => (c.dottedName, tag)

end Conflicts

namespace Report

/-- A report has an entry for a tag under the dotted name of a class. -/
def Records (report : Report) (className : Text) (tag : Int) : Prop :=
  ∃ conflicts, Keyed.get? className report = some conflicts ∧ tag ∈ Keyed.keys conflicts

/-- The dotted names of classes with the tags in conflict in one of them. -/
def pairsInConflict (tagType : Text) (classes : List ClassDescriptor) : Finset (Text × Int) :=
  (classes.flatMap (Conflicts.pairs tagType)).toFinset

/-- The last class of a dotted name that has conflicts, if there is one. -/
def lastInConflict? (tagType name : Text) (classes : List ClassDescriptor) :
    Option ClassDescriptor :=
  (classes.filter fun c =>
    c.dottedName == name && !(Conflicts.ofClass tagType c).isEmpty).getLast?

/-- Of the classes of one dotted name, the last that has conflicts has those of all. -/
def LastTellsAll (tagType : Text) (classes : List ClassDescriptor) : Prop :=
  ∀ c ∈ classes, ∀ last, lastInConflict? tagType c.dottedName classes = some last →
    Keyed.keys (Conflicts.ofClass tagType c) ⊆ Keyed.keys (Conflicts.ofClass tagType last)

/-- The pairs of names and tags that a report has entries for, in its order. -/
def recordedPairs (report : Report) : List (Text × Int) :=
  report.flatMap fun entry => (Keyed.keys entry.2).map fun tag => (entry.1, tag)

section
variable (tagType : Text)

/-- One more class is added to the report on those before it. -/
theorem ofClasses_append_singleton (classes : List ClassDescriptor) (c : ClassDescriptor) :
    ofClasses tagType (classes ++ [c]) = add tagType (ofClasses tagType classes) c := by
  rw [ofClasses, List.foldl_append]
  rfl

/-- A class without conflicts is passed over when the last class with conflicts is looked for, and
so is a class of another name. -/
theorem lastInConflict?_append_singleton (name : Text) (classes : List ClassDescriptor)
    (c : ClassDescriptor) :
    lastInConflict? tagType name (classes ++ [c]) =
      if c.dottedName = name ∧ Conflicts.ofClass tagType c ≠ [] then some c
      else lastInConflict? tagType name classes := by
  rw [lastInConflict?, List.filter_append, List.getLast?_append]
  by_cases chosen : c.dottedName = name ∧ Conflicts.ofClass tagType c ≠ []
  · simp [chosen]
  · have passed : (c.dottedName == name && !(Conflicts.ofClass tagType c).isEmpty) = false := by
      simpa [not_and] using chosen
    simp [chosen, passed, lastInConflict?]

/-- A report holds under a name the conflicts of the last class of that name that has some. -/
theorem get?_ofClasses (name : Text) (classes : List ClassDescriptor) :
    Keyed.get? name (ofClasses tagType classes) =
      (lastInConflict? tagType name classes).map (Conflicts.ofClass tagType) := by
  induction classes using List.reverseRecOn with
  | nil => rfl
  | append_singleton classes c inductionHypothesis =>
    rw [ofClasses_append_singleton, lastInConflict?_append_singleton, add]
    split
    · rename_i none
      rw [if_neg (fun chosen => chosen.2 none), inductionHypothesis]
    · rename_i conflicts some
      by_cases named : c.dottedName = name
      · rw [if_pos ⟨named, some⟩, ← named, Keyed.get?_put_self]
        rfl
      · rw [if_neg (fun chosen => named chosen.1), ← inductionHypothesis]
        exact Keyed.get?_put_of_ne _ _ _ _ (Ne.symm named)

/-- The names in a report are distinct, and the tags under each of them are. -/
theorem nodup_keys_ofClasses (classes : List ClassDescriptor) :
    (Keyed.keys (ofClasses tagType classes)).Nodup := by
  induction classes using List.reverseRecOn with
  | nil => exact List.nodup_nil
  | append_singleton classes c inductionHypothesis =>
    rw [ofClasses_append_singleton, add]
    split
    · exact inductionHypothesis
    · exact Keyed.nodup_keys_put _ _ _ inductionHypothesis

/-- Every class that a report tells of has conflicts. -/
theorem conflicts_ne_nil (classes : List ClassDescriptor) :
    ∀ entry ∈ ofClasses tagType classes, entry.2 ≠ [] := by
  induction classes using List.reverseRecOn with
  | nil => simp [ofClasses]
  | append_singleton classes c inductionHypothesis =>
    rw [ofClasses_append_singleton, add]
    split
    · exact inductionHypothesis
    · rename_i conflicts some
      intro entry held
      rcases Keyed.mem_of_mem_put _ _ _ _ held with rfl | before
      · exact some
      · exact inductionHypothesis entry before

/-- A report in which every class has conflicts counts some exactly if it tells of some class. -/
theorem total_pos_iff_of_filled {report : Report} (filled : ∀ entry ∈ report, entry.2 ≠ []) :
    0 < report.total ↔ report ≠ [] := by
  rw [total, List.length_pos_iff, ne_eq, List.flatMap_eq_nil_iff, not_iff_not]
  constructor
  · intro empty
    rw [List.eq_nil_iff_forall_not_mem]
    exact fun entry held => filled entry held (empty entry held)
  · intro empty
    simp [empty]

/-- A report counts conflicts exactly if it tells of some class. -/
theorem total_pos_iff (classes : List ClassDescriptor) :
    0 < (ofClasses tagType classes).total ↔ ofClasses tagType classes ≠ [] :=
  total_pos_iff_of_filled (conflicts_ne_nil tagType classes)

/-- What a report holds under a name are the conflicts of a class of that name. -/
theorem exists_of_get?_ofClasses (name : Text) (classes : List ClassDescriptor)
    (conflicts : Conflicts)
    (held : Keyed.get? name (ofClasses tagType classes) = some conflicts) :
    ∃ c ∈ classes, c.dottedName = name ∧ conflicts = Conflicts.ofClass tagType c := by
  rw [get?_ofClasses] at held
  obtain ⟨c, last, rfl⟩ := Option.map_eq_some_iff.mp held
  have member := List.mem_of_getLast? last
  simp only [List.mem_filter, Bool.and_eq_true, beq_iff_eq] at member
  exact ⟨c, member.1, member.2.1, rfl⟩

/-- Under the name of a class with conflicts there is a last class that has some. -/
theorem exists_lastInConflict (classes : List ClassDescriptor) (c : ClassDescriptor)
    (member : c ∈ classes) (some : Conflicts.ofClass tagType c ≠ []) :
    ∃ last, lastInConflict? tagType c.dottedName classes = Option.some last := by
  have kept : c ∈ classes.filter fun other =>
      other.dottedName == c.dottedName && !(Conflicts.ofClass tagType other).isEmpty := by
    simp [member, some]
  exact ⟨_, List.getLast?_eq_some_getLast (List.ne_nil_of_mem kept)⟩

/-- A report has entries for exactly its recorded pairs. -/
theorem mem_recordedPairs_iff (classes : List ClassDescriptor) (pair : Text × Int) :
    pair ∈ recordedPairs (ofClasses tagType classes) ↔
      (ofClasses tagType classes).Records pair.1 pair.2 := by
  have found (conflicts : Conflicts) :=
    Keyed.get?_eq_some_iff pair.1 conflicts _ (nodup_keys_ofClasses tagType classes)
  simp only [recordedPairs, Records, List.mem_flatMap, List.mem_map, found]
  constructor
  · rintro ⟨entry, member, tag, recorded, rfl⟩
    exact ⟨entry.2, member, recorded⟩
  · rintro ⟨conflicts, member, recorded⟩
    exact ⟨_, member, pair.2, recorded, rfl⟩

/-- Pairs in conflict are those of some class. -/
theorem mem_pairsInConflict_iff (classes : List ClassDescriptor) (pair : Text × Int) :
    pair ∈ pairsInConflict tagType classes ↔ ∃ c ∈ classes,
      c.dottedName = pair.1 ∧ pair.2 ∈ Keyed.keys (Conflicts.ofClass tagType c) := by
  simp only [pairsInConflict, List.mem_toFinset, List.mem_flatMap, Conflicts.pairs, List.mem_map]
  constructor
  · rintro ⟨c, member, tag, reused, rfl⟩
    exact ⟨c, member, rfl, reused⟩
  · rintro ⟨c, member, named, reused⟩
    exact ⟨c, member, pair.2, reused, by rw [named]⟩

/-- The recorded pairs are distinct. -/
theorem nodup_recordedPairs (classes : List ClassDescriptor) :
    (recordedPairs (ofClasses tagType classes)).Nodup := by
  have distinct := nodup_keys_ofClasses tagType classes
  rw [recordedPairs, List.nodup_flatMap]
  constructor
  · intro entry member
    have held := (Keyed.get?_eq_some_iff entry.1 entry.2 _ distinct).mpr member
    obtain ⟨c, -, -, same⟩ := exists_of_get?_ofClasses tagType entry.1 classes entry.2 held
    rw [same]
    exact (Conflicts.nodup_keys_ofClass tagType c).map fun _ _ => And.right ∘ Prod.mk.inj
  · refine (List.pairwise_map.mp distinct).imp ?_
    intro left right apart pair inLeft inRight
    obtain ⟨_, -, rfl⟩ := List.mem_map.mp inLeft
    obtain ⟨_, -, same⟩ := List.mem_map.mp inRight
    exact apart (congrArg Prod.fst same).symm

/-- The number of conflicts in a report is that of the recorded pairs. -/
theorem total_eq_card (classes : List ClassDescriptor) :
    (ofClasses tagType classes).total =
      (recordedPairs (ofClasses tagType classes)).toFinset.card := by
  rw [List.toFinset_card_of_nodup (nodup_recordedPairs tagType classes), total, recordedPairs]
  simp [List.length_flatMap, Keyed.keys]

/-- A report records nothing but what is in conflict. -/
theorem recordedPairs_subset (classes : List ClassDescriptor) :
    (recordedPairs (ofClasses tagType classes)).toFinset ⊆ pairsInConflict tagType classes := by
  intro pair recorded
  obtain ⟨conflicts, held, reused⟩ :=
    (mem_recordedPairs_iff tagType classes pair).mp (List.mem_toFinset.mp recorded)
  obtain ⟨c, member, named, rfl⟩ := exists_of_get?_ofClasses tagType _ classes conflicts held
  exact (mem_pairsInConflict_iff tagType classes pair).mpr ⟨c, member, named, reused⟩

/-- Every conflict of every class is recorded exactly when the last classes tell all. -/
theorem records_all_iff (classes : List ClassDescriptor) :
    (∀ c ∈ classes, ∀ tag ∈ Keyed.keys (Conflicts.ofClass tagType c),
        (ofClasses tagType classes).Records c.dottedName tag) ↔ LastTellsAll tagType classes := by
  constructor
  · intro recorded c member last chosen tag reused
    obtain ⟨conflicts, held, kept⟩ := recorded c member tag reused
    rw [get?_ofClasses, chosen] at held
    rwa [Option.some.inj held]
  · intro tells c member tag reused
    obtain ⟨last, chosen⟩ := exists_lastInConflict tagType classes c member
      (fun none => by simp [none, Keyed.keys] at reused)
    exact ⟨_, by rw [get?_ofClasses, chosen]; rfl, tells c member last chosen reused⟩

/-- All pairs in conflict are recorded exactly when all conflicts of all classes are. -/
theorem pairsInConflict_subset_iff (classes : List ClassDescriptor) :
    pairsInConflict tagType classes ⊆ (recordedPairs (ofClasses tagType classes)).toFinset ↔
      LastTellsAll tagType classes := by
  rw [← records_all_iff]
  constructor
  · intro within c member tag reused
    have pair := (mem_pairsInConflict_iff tagType classes (c.dottedName, tag)).mpr
      ⟨c, member, rfl, reused⟩
    exact (mem_recordedPairs_iff tagType classes _).mp (List.mem_toFinset.mp (within pair))
  · intro recorded pair inConflict
    obtain ⟨c, member, named, reused⟩ :=
      (mem_pairsInConflict_iff tagType classes pair).mp inConflict
    rw [List.mem_toFinset, mem_recordedPairs_iff, ← named]
    exact recorded c member pair.2 reused

/-- A report holds under each name the conflicts of the last class of that name that has some. So
it has an entry for every conflict of every class examined exactly when of the classes of one name
the last with conflicts has those of all, and exactly then it counts no fewer conflicts than there
are pairs of a dotted name and a tag in conflict. -/
theorem nothing_lost_iff (classes : List ClassDescriptor) :
    (∀ name, Keyed.get? name (ofClasses tagType classes) =
      (lastInConflict? tagType name classes).map (Conflicts.ofClass tagType)) ∧
    ((∀ c ∈ classes, ∀ tag ∈ Keyed.keys (Conflicts.ofClass tagType c),
        (ofClasses tagType classes).Records c.dottedName tag) ↔ LastTellsAll tagType classes) ∧
    ((pairsInConflict tagType classes).card ≤ (ofClasses tagType classes).total ↔
      LastTellsAll tagType classes) := by
  refine ⟨fun name => get?_ofClasses tagType name classes, records_all_iff tagType classes, ?_⟩
  rw [total_eq_card, ← pairsInConflict_subset_iff]
  constructor
  · intro many
    exact (Finset.eq_of_subset_of_card_le (recordedPairs_subset tagType classes) many).superset
  · exact Finset.card_le_card

end

/-- Two fields of a class that carry one tag. -/
def twice (tag : Int) : List Field :=
  [⟨"first", "I", 0, [⟨"LTag;", [("value", .int tag)]⟩]⟩,
    ⟨"second", "I", 0, [⟨"LTag;", [("value", .int tag)]⟩]⟩]

/-- A class and its variant for a later release, which have one name and a conflict each. -/
def releases : List ClassDescriptor :=
  [⟨"acme/Order", 33, twice 1⟩, ⟨"acme/Order", 33, twice 2⟩]

/-- The conflict of the first release is lost, and two pairs in conflict are counted as one. -/
theorem releases_lose_conflict :
    (∃ c ∈ releases, ∃ tag ∈ Keyed.keys (Conflicts.ofClass "LTag;" c),
      ¬ (ofClasses "LTag;" releases).Records c.dottedName tag) ∧
    (ofClasses "LTag;" releases).total < (pairsInConflict "LTag;" releases).card := by
  have kept : (Keyed.get? (ClassDescriptor.dottedName ⟨"acme/Order", 33, twice 1⟩)
      (ofClasses "LTag;" releases)).map Keyed.keys = some [2] := by decide +kernel
  refine ⟨⟨⟨"acme/Order", 33, twice 1⟩, List.mem_cons_self, 1, by decide +kernel, ?_⟩,
    by decide +kernel⟩
  rintro ⟨conflicts, held, recorded⟩
  rw [held] at kept
  have only : Keyed.keys conflicts = [2] := Option.some.inj kept
  simp [only] at recorded

end Report

end TagAudit
