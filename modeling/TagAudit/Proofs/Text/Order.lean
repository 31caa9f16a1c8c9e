import TagAudit.Path

/-!
# The order of paths

Lists are ordered as far as their items are: of any two one precedes the other, only equal lists
precede each other, and what precedes what precedes precedes. The order of texts is one of lists of
code points, and that of paths one of lists of texts. So paths with the same leading slashes have
one order only, and leaving some of them out leaves the others in theirs.
-/

namespace TagAudit

namespace Text

/-- Items are ordered: of two that differ one comes before the other, and not both do. -/
structure OrdersItems {α : Type} (before : α → α → Bool) : Prop where
  total : ∀ a b, a ≠ b → before a b = true ∨ before b a = true
  antisymm : ∀ a b, before a b = true → before b a = true → a = b
  trans : ∀ a b c, before a b = true → before b c = true → before a c = true

/-- Code points are ordered by their numbers. -/
theorem ordersItems_before : OrdersItems CodePoint.before where
  total a b different := by
    have apart : a.val ≠ b.val := fun same => different (Fin.ext same)
    simp only [CodePoint.before, Nat.blt_eq]
    omega
  antisymm a b first second := by
    simp only [CodePoint.before, Nat.blt_eq] at first second
    omega
  trans a b c first second := by
    simp only [CodePoint.before, Nat.blt_eq] at first second ⊢
    omega

section
variable {α : Type} [DecidableEq α] {before : α → α → Bool}

/-- Lists with the same first item are ordered as what follows it. -/
theorem listPrecedes_cons_self (a : α) (rest others : List α) :
    listPrecedes before (a :: rest) (a :: others) = listPrecedes before rest others := by
  simp [listPrecedes]

/-- Of lists with different first items these decide. -/
theorem listPrecedes_cons_of_ne {a b : α} (different : a ≠ b) (rest others : List α) :
    listPrecedes before (a :: rest) (b :: others) = before a b := by
  simp [listPrecedes, different]

/-- Of two lists of ordered items one precedes the other. -/
theorem OrdersItems.listPrecedes_total (orders : OrdersItems before) (first second : List α) :
    listPrecedes before first second = true ∨ listPrecedes before second first = true := by
  induction first generalizing second with
  | nil => exact .inl (by rw [listPrecedes])
  | cons a rest inductionHypothesis =>
    cases second with
    | nil => exact .inr (by rw [listPrecedes])
    | cons b others =>
      by_cases same : a = b
      · subst same
        simpa only [listPrecedes_cons_self] using inductionHypothesis others
      · simpa only [listPrecedes_cons_of_ne same, listPrecedes_cons_of_ne (Ne.symm same)] using
          orders.total a b same

/-- Only equal lists of ordered items precede each other. -/
theorem OrdersItems.listPrecedes_antisymm (orders : OrdersItems before) (first second : List α)
    (forth : listPrecedes before first second = true)
    (back : listPrecedes before second first = true) : first = second := by
  induction first generalizing second with
  | nil =>
    cases second with
    | nil => rfl
    | cons b others => simp [listPrecedes] at back
  | cons a rest inductionHypothesis =>
    cases second with
    | nil => simp [listPrecedes] at forth
    | cons b others =>
      by_cases same : a = b
      · subst same
        rw [listPrecedes_cons_self] at forth back
        rw [inductionHypothesis others forth back]
      · rw [listPrecedes_cons_of_ne same] at forth
        rw [listPrecedes_cons_of_ne (Ne.symm same)] at back
        exact (same (orders.antisymm a b forth back)).elim

/-- What precedes a list of ordered items that precedes another precedes that one as well. -/
theorem OrdersItems.listPrecedes_trans (orders : OrdersItems before) (first second third : List α)
    (forth : listPrecedes before first second = true)
    (further : listPrecedes before second third = true) :
    listPrecedes before first third = true := by
  induction first generalizing second third with
  | nil => rw [listPrecedes]
  | cons a rest inductionHypothesis =>
    cases second with
    | nil => simp [listPrecedes] at forth
    | cons b others =>
      cases third with
      | nil => simp [listPrecedes] at further
      | cons c more =>
        by_cases same : a = b
        · subst same
          rw [listPrecedes_cons_self] at forth
          by_cases again : a = c
          · subst again
            rw [listPrecedes_cons_self] at further ⊢
            exact inductionHypothesis others more forth further
          · rw [listPrecedes_cons_of_ne again] at further ⊢
            exact further
        · rw [listPrecedes_cons_of_ne same] at forth
          by_cases again : b = c
          · subst again
            rw [listPrecedes_cons_of_ne same]
            exact forth
          · rw [listPrecedes_cons_of_ne again] at further
            have apart : a ≠ c := by
              rintro rfl
              exact same (orders.antisymm a b forth further)
            rw [listPrecedes_cons_of_ne apart]
            exact orders.trans a b c forth further

/-- What precedes a list and is another one is less, if of different items the one before is. -/
theorem lt_of_listPrecedes [LT α] (less : ∀ a b, a ≠ b → before a b = true → a < b)
    {first second : List α} (forth : listPrecedes before first second = true)
    (different : first ≠ second) : first < second := by
  induction first generalizing second with
  | nil =>
    cases second with
    | nil => exact (different rfl).elim
    | cons b others => exact List.nil_lt_cons b others
  | cons a rest inductionHypothesis =>
    cases second with
    | nil => simp [listPrecedes] at forth
    | cons b others =>
      rw [List.cons_lt_cons_iff]
      by_cases same : a = b
      · subst same
        rw [listPrecedes_cons_self] at forth
        exact .inr ⟨rfl, inductionHypothesis forth fun same => different (same ▸ rfl)⟩
      · rw [listPrecedes_cons_of_ne same] at forth
        exact .inl (less a b same forth)

/-- Lists of ordered items are ordered. -/
theorem OrdersItems.listPrecedes (orders : OrdersItems before) :
    OrdersItems (listPrecedes before) where
  total first second _ := orders.listPrecedes_total first second
  antisymm := orders.listPrecedes_antisymm
  trans := orders.listPrecedes_trans

end

/-- Texts are ordered. -/
theorem ordersItems_precedes : OrdersItems precedes := ordersItems_before.listPrecedes

/-- Of two different texts the one that precedes the other is less by code points. -/
theorem lt_of_precedes {first second : Text} (forth : precedes first second = true)
    (different : first ≠ second) : first < second :=
  lt_of_listPrecedes (fun _ _ _ before => Fin.lt_def.mpr (Nat.blt_eq.mp before)) forth different

end Text

namespace Path

/-- Of paths in order each precedes those behind it. -/
theorem pairwise_mergeSort_precedes (paths : List Path) :
    (paths.mergeSort precedes).Pairwise fun first second => precedes first second = true := by
  refine List.pairwise_mergeSort ?_ ?_ paths
  · intro first second third forth further
    exact Text.ordersItems_precedes.listPrecedes_trans _ _ _ forth further
  · intro first second
    rw [Bool.or_eq_true]
    exact Text.ordersItems_precedes.listPrecedes_total first.parts second.parts

/-- Paths that are in order are all the same paths in order, if all have the same leading
slashes. -/
theorem eq_mergeSort_of_perm {sorted paths : List Path} {slashes : Nat}
    (alike : ∀ path ∈ paths, path.slashes = slashes)
    (inOrder : sorted.Pairwise fun first second => precedes first second = true)
    (same : sorted.Perm paths) : sorted = paths.mergeSort precedes := by
  refine List.Perm.eq_of_pairwise ?_ inOrder (pairwise_mergeSort_precedes paths)
    (same.trans (List.mergeSort_perm paths precedes).symm)
  intro first second among amongToo forth back
  have sameSlashes : first.slashes = second.slashes := by
    rw [alike first (same.mem_iff.mp among), alike second (List.mem_mergeSort.mp amongToo)]
  have sameParts : first.parts = second.parts :=
    Text.ordersItems_precedes.listPrecedes_antisymm _ _ forth back
  cases first
  cases second
  exact congr (congrArg Path.mk sameSlashes) sameParts

/-- Some of the paths in order are in order, if all have the same leading slashes. -/
theorem mergeSort_filter (keep : Path → Bool) (paths : List Path) (slashes : Nat)
    (alike : ∀ path ∈ paths, path.slashes = slashes) :
    (paths.filter keep).mergeSort precedes = (paths.mergeSort precedes).filter keep := by
  have alikeStill : ∀ path ∈ paths.filter keep, path.slashes = slashes :=
    fun path among => alike path (List.mem_filter.mp among).1
  have kept : ((paths.mergeSort precedes).filter keep).Perm (paths.filter keep) :=
    (List.mergeSort_perm paths precedes).filter keep
  exact (eq_mergeSort_of_perm alikeStill ((pairwise_mergeSort_precedes paths).filter _) kept).symm

/-- Paths of which the first precedes the second, and whose components differ, are ordered by their
components, and these by their code points. -/
theorem parts_lt_of_precedes {first second : Path} (forth : precedes first second = true)
    (different : first.parts ≠ second.parts) : first.parts < second.parts := by
  refine Text.lt_of_listPrecedes (fun name other apart before => ?_) forth different
  exact Text.lt_of_precedes before apart

end Path

end TagAudit
