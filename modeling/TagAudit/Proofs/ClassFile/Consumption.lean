import Mathlib.Algebra.GroupWithZero.Nat
import TagAudit.Proofs.ClassFile.Levels

/-!
# What element values use up

Values nest and are counted by words that the input declares. Neither makes a reading go on for
longer than there are bytes: a value begins with a byte of its own and has two more at least, so a
value of some number of values, itself among them, is spelled with three times that number of bytes.
A run that fails has begun no more values than the bytes allow either.

So nesting may be cut off at any depth that the bytes cannot reach, and whatever would be done there
is never done.
-/

namespace TagAudit.ClassFile

namespace ElementValue

mutual
/-- The number of values that a value consists of, itself among them. -/
def nodes : ElementValue → Nat
  | nested _ pairs => 1 + pairNodes pairs
  | array items => 1 + itemNodes items
  | _ => 1

/-- The number of values that pairs of a name and a value consist of. -/
def pairNodes : List (Text × ElementValue) → Nat
  | [] => 0
  | (_, value) :: rest => nodes value + pairNodes rest

/-- The number of values that values in a row consist of. -/
def itemNodes : List ElementValue → Nat
  | [] => 0
  | value :: rest => nodes value + itemNodes rest
end

mutual
/-- The number of values on the longest way down from a value, itself among them. -/
def depth : ElementValue → Nat
  | nested _ pairs => 1 + pairDepth pairs
  | array items => 1 + itemDepth items
  | _ => 1

/-- The longest way down from the values in pairs. -/
def pairDepth : List (Text × ElementValue) → Nat
  | [] => 0
  | (_, value) :: rest => max (depth value) (pairDepth rest)

/-- The longest way down from values in a row. -/
def itemDepth : List ElementValue → Nat
  | [] => 0
  | value :: rest => max (depth value) (itemDepth rest)
end

mutual
/-- A way down leads through different values. -/
theorem depth_le_nodes : (value : ElementValue) → value.depth ≤ value.nodes
  | .nested _ pairs => Nat.add_le_add_left (pairDepth_le pairs) 1
  | .array items => Nat.add_le_add_left (itemDepth_le items) 1
  | .null | .int _ | .bool _ | .real _ | .text _ | .enum _ _ | .classLiteral _ => Nat.le_refl 1

/-- A way down from pairs leads through values of one of them. -/
theorem pairDepth_le : (pairs : List (Text × ElementValue)) → pairDepth pairs ≤ pairNodes pairs
  | [] => Nat.le_refl 0
  | (_, value) :: rest => by
    have first := depth_le_nodes value
    have others := pairDepth_le rest
    rw [pairDepth, pairNodes]
    omega

/-- A way down from values in a row leads through one of them. -/
theorem itemDepth_le : (items : List ElementValue) → itemDepth items ≤ itemNodes items
  | [] => Nat.le_refl 0
  | value :: rest => by
    have first := depth_le_nodes value
    have others := itemDepth_le rest
    rw [itemDepth, itemNodes]
    omega
end

/-- Values in pairs are counted pair by pair. -/
theorem pairNodes_eq (pairs : List (Text × ElementValue)) :
    pairNodes pairs = (pairs.map fun pair => pair.2.nodes).sum := by
  induction pairs with
  | nil => rfl
  | cons pair rest inductionHypothesis =>
    rw [pairNodes, inductionHypothesis, List.map_cons, List.sum_cons]

/-- Values in a row are counted one by one. -/
theorem itemNodes_eq (items : List ElementValue) : itemNodes items = (items.map nodes).sum := by
  induction items with
  | nil => rfl
  | cons value rest inductionHypothesis =>
    rw [itemNodes, inductionHypothesis, List.map_cons, List.sum_cons]

end ElementValue

/-- The number of values that an annotation consists of, at all depths. -/
def Annotation.nodes (a : Annotation) : Nat := ElementValue.pairNodes a.pairs

namespace Reading

variable {α β : Type}

/-- The number of single bytes that a walk takes, also if it fails in the end. In annotations these
are the tags of element values, one for each value that is begun. -/
def singles (r : Reading α) (c : Cursor) : Nat :=
  match r with
  | .done _ => 0
  | .fail _ => 0
  | .take width next =>
    match c.take width with
    | .ok (taken, after) => (if width = 1 then 1 else 0) + (next taken).singles after
    | .error _ => 0
  | .skip width next =>
    match c.take width with
    | .ok (_, after) => next.singles after
    | .error _ => 0
  | .position next => (next c.offset).singles c

/-- A bind takes the single bytes of its first part and, behind it, those of the other. -/
theorem singles_bind (r : Reading α) (f : α → Reading β) (c : Cursor) :
    (r.bind f).singles c = r.singles c + match r.walk c with
      | (.ok value, after) => (f value).singles after
      | (.error _, _) => 0 := by
  induction r generalizing c with
  | done value => simp [bind, singles, walk]
  | fail defect => rfl
  | take width next inductionHypothesis =>
    rw [bind, singles, singles, walk]
    cases c.take width with
    | error defect => rfl
    | ok step =>
      dsimp only
      rw [inductionHypothesis step.1 step.2, Nat.add_assoc]
  | skip width next inductionHypothesis =>
    rw [bind, singles, singles, walk]
    cases c.take width with
    | error defect => rfl
    | ok step => exact inductionHypothesis step.2
  | position next inductionHypothesis => exact inductionHypothesis c.offset c

/-- Wherever fewer bytes than a bound are left, a reading spends three bytes on each single one that
it takes. If it succeeds, what it has read counts those taken `before` and by itself, and it has
spent some bytes to `spare` on top. If it fails, some `slack` of the bytes may be missing. -/
def Spends (bound before spare slack : Nat) (count : α → Nat) (r : Reading α) : Prop :=
  ∀ c : Cursor, c.rest.length < bound →
    (∀ value after, r.walk c = (.ok value, after) →
      count value = before + r.singles c ∧
        after.rest.length + 3 * r.singles c + spare ≤ c.rest.length) ∧
    (∀ defect after, r.walk c = (.error defect, after) →
      3 * r.singles c ≤ c.rest.length + slack)

section
variable {bound before spare slack : Nat} {count : α → Nat}

/-- A value that is there spends nothing. -/
theorem spends_done {value : α} (counted : count value = before) :
    (Reading.done value).Spends bound before 0 slack count := by
  intro c _
  constructor
  · intro found after walked
    obtain ⟨rfl, rfl⟩ : value = found ∧ c = after := by simpa [walk] using walked
    exact ⟨counted, Nat.le_refl _⟩
  · intro defect after walked
    simp [walk] at walked

/-- A failure spends nothing. -/
theorem spends_fail (defect : Defect) :
    (Reading.fail defect : Reading α).Spends bound before spare slack count := by
  intro c _
  constructor
  · intro value after walked
    simp [walk] at walked
  · intro reported after walked
    exact Nat.zero_le _

/-- A decided result spends nothing. -/
theorem spends_ofExcept (result : Except Defect α) :
    (Reading.ofExcept result).Spends bound before 0 slack fun _ => before := by
  cases result with
  | ok value => exact spends_done rfl
  | error defect => exact spends_fail defect

/-- A word is spent to spare. -/
theorem spends_u2 : Reading.u2.Spends bound before 2 slack fun _ => before := by
  intro c _
  have none : Reading.u2.singles c = 0 := by
    rw [u2, singles]
    split <;> rfl
  rw [none]
  constructor
  · intro n after walked
    obtain ⟨word, -, joined⟩ := run_u2_eq_ok (walk_eq_ok_iff.mp walked)
    rw [joined, List.length_append, bytesOf_length]
    exact ⟨rfl, by omega⟩
  · intro defect after walked
    exact Nat.zero_le _

/-- Whether it succeeds or fails, a run takes no more than a third of the bytes as single ones, up
to the slack. -/
theorem Spends.singles_le {r : Reading α} (own : r.Spends bound before spare slack count)
    {c : Cursor} (short : c.rest.length < bound) : 3 * r.singles c ≤ c.rest.length + slack := by
  cases walked : r.walk c with
  | mk outcome after =>
    cases outcome with
    | ok value =>
      obtain ⟨-, spent⟩ := (own c short).1 value after walked
      omega
    | error defect => exact (own c short).2 defect after walked

/-- More may be missing. -/
theorem Spends.mono {r : Reading α} {more : Nat} (own : r.Spends bound before spare slack count)
    (enough : slack ≤ more) : r.Spends bound before spare more count := by
  intro c short
  refine ⟨(own c short).1, fun defect after walked => ?_⟩
  have spent := (own c short).2 defect after walked
  omega

/-- What is counted may start from a later number. -/
theorem Spends.later {r : Reading α} (own : r.Spends bound before spare slack count) (more : Nat) :
    r.Spends bound (more + before) spare slack fun value => more + count value := by
  intro c short
  refine ⟨fun value after walked => ?_, (own c short).2⟩
  obtain ⟨counted, spent⟩ := (own c short).1 value after walked
  refine ⟨?_, spent⟩
  dsimp only
  rw [counted, Nat.add_assoc]

/-- A bind spends what its parts spend. What the first has spent to spare makes up for what may be
missing where the other fails. -/
theorem Spends.bind {r : Reading α} {f : α → Reading β} {first : Nat} {total : β → Nat}
    (one : r.Spends bound before first slack count) (second : Nat)
    (enough : spare ≤ first + second)
    (next : ∀ value, (f value).Spends bound (count value) second (slack + first) total) :
    (r.bind f).Spends bound before spare slack total := by
  intro c short
  rw [walk_bind, singles_bind]
  cases walked : r.walk c with
  | mk outcome mid =>
    cases outcome with
    | error reported =>
      have spent := (one c short).2 reported mid walked
      refine ⟨fun value after further => ?_, fun _ _ _ => spent⟩
      cases further
    | ok value =>
      obtain ⟨counted, spent⟩ := (one c short).1 value mid walked
      obtain ⟨accepts, refuses⟩ := next value mid (by omega)
      constructor
      · intro result after further
        have others := accepts result after further
        dsimp only
        omega
      · intro defect after further
        have others := refuses defect after further
        dsimp only
        omega

/-- Repeated readings spend as each of them does. -/
theorem Spends.timesOnto {r : Reading α} (step : r.Spends bound 0 0 slack count) (times : Nat)
    (reversed : List α) :
    (Reading.timesOnto r times reversed).Spends bound (reversed.map count).sum 0 slack
      fun values => (values.map count).sum := by
  induction times generalizing reversed with
  | zero => exact spends_done (by rw [List.map_reverse, List.sum_reverse])
  | succ times inductionHypothesis =>
    refine (step.later (reversed.map count).sum).bind 0 (Nat.le_refl 0) fun value => ?_
    have rest := inductionHypothesis (value :: reversed)
    rw [List.map_cons, List.sum_cons, Nat.add_comm] at rest
    exact rest

/-- The count of a counted repetition is spent to spare. -/
theorem Spends.counted {r : Reading α} (step : r.Spends bound 0 0 (slack + 2) count) :
    (Reading.counted r).Spends bound 0 2 slack fun values => (values.map count).sum :=
  spends_u2.bind 0 (Nat.le_refl 2) fun times => step.timesOnto times []

/-- Finding out the position spends nothing. -/
theorem Spends.behind_offset {f : Nat → Reading α}
    (next : ∀ offset, (f offset).Spends bound before spare slack count) :
    (Reading.offset.bind f).Spends bound before spare slack count :=
  fun c => next c.offset c

/-- A single byte in front is one of the three that are spent on it. The others are spent behind it,
or are missing. -/
theorem Spends.behind_u1 {f : Nat → Reading α}
    (next : ∀ tag, (f tag).Spends bound (before + 1) 2 0 count) :
    (Reading.u1.bind f).Spends (bound + 1) before 0 2 count := by
  intro c short
  have opened : Reading.u1.bind f = .take 1 fun taken => f (bigEndian taken) := rfl
  rw [opened, walk, singles]
  cases found : c.take (1 : Nat) with
  | error defect =>
    refine ⟨fun value after walked => ?_, fun _ _ _ => Nat.zero_le _⟩
    cases walked
  | ok step =>
    obtain ⟨one, joined, -⟩ := (Cursor.take_eq_ok_iff c 1 step.1 step.2).mp found
    have fewer := congrArg List.length joined
    rw [List.length_append, one] at fewer
    obtain ⟨accepts, refuses⟩ := next (bigEndian step.1) step.2 (by omega)
    dsimp only
    rw [if_pos rfl]
    constructor
    · intro value after walked
      obtain ⟨counted, spent⟩ := accepts value after walked
      omega
    · intro defect after walked
      have spent := refuses defect after walked
      omega

end

end Reading

open Reading ElementValue

variable (pool : ConstantPool)

/-- An index and what is found there are two bytes to spare. -/
theorem spends_index {α : Type} {bound before slack : Nat} (find : Nat → Except Defect α) :
    (Reading.u2.bind fun index => .ofExcept (find index)).Spends bound before 2 slack
      fun _ => before :=
  spends_u2.bind 0 (Nat.le_refl 2) fun index => spends_ofExcept (find index)

/-- A value of no other values is made of what an index names. -/
theorem spends_leaf {α : Type} {bound slack : Nat} (find : Nat → Except Defect α)
    (make : α → ElementValue) (leaf : ∀ found, (make found).nodes = 1) :
    ((Reading.u2.bind fun index => .ofExcept (find index)).bind fun found =>
      .done (make found)).Spends bound 1 2 slack nodes :=
  (spends_index find).bind 0 (Nat.le_refl 2) fun found => spends_done (leaf found)

section
variable {bound : Nat} {inner : Reading ElementValue}

/-- An annotation spends what its values spend, and four bytes to spare. -/
theorem annotationOver_spends (values : inner.Spends bound 0 0 2 nodes) :
    (annotationOver pool inner).Spends bound 0 4 0 Annotation.nodes := by
  have pair : ((textReading pool).bind fun name => inner.bind fun value =>
      .done (name, value)).Spends bound 0 0 0 fun pair => pair.2.nodes := by
    refine (spends_index pool.text).bind 0 (Nat.zero_le 2) fun name => ?_
    exact values.bind 0 (Nat.le_refl 0) fun value => spends_done rfl
  rw [annotationOver_eq]
  refine (spends_index pool.text).bind 2 (Nat.le_refl 4) fun desc => ?_
  have pairs := (pair.mono (Nat.zero_le 4)).counted
  exact pairs.bind 0 (Nat.le_refl 2) fun found => spends_done (pairNodes_eq found)

/-- Behind its tag, every form of value spends two bytes to spare. -/
theorem bodyReading_spends (values : inner.Spends bound 0 0 2 nodes) (form : ElementForm) :
    (bodyReading pool inner form).Spends bound 1 2 0 nodes := by
  cases form with
  | enum =>
    refine (spends_index pool.text).bind 2 (Nat.le_add_left 2 2) fun desc => ?_
    exact spends_leaf pool.text (.enum desc) fun _ => rfl
  | nested =>
    have annotation := (annotationOver_spends pool values).later 1
    exact annotation.bind 0 (Nat.le_add_left 2 2) fun a => spends_done rfl
  | array =>
    refine (values.counted.later 1).bind 0 (Nat.le_refl 2) fun items => spends_done ?_
    rw [nodes, itemNodes_eq]
  | _ => exact spends_leaf _ _ fun _ => rfl

/-- One level more spends three bytes on its value, or as many as there are. -/
theorem elementValueOver_spends (values : inner.Spends bound 0 0 2 nodes) :
    (elementValueOver pool fun _ => inner).Spends (bound + 1) 0 0 2 nodes := by
  rw [elementValueOver_eq]
  apply Spends.behind_offset
  intro offset
  apply Spends.behind_u1
  intro tag
  cases ElementForm.ofTag? tag with
  | none => exact spends_fail _
  | some form => exact bodyReading_spends pool values form

/-- A value spends three bytes on each of the values that it consists of. Where there are no more
levels there are no more bytes. -/
theorem elementValue_spends (levels : Nat) :
    (elementValue pool levels).Spends (levels + 1) 0 0 2 nodes := by
  induction levels with
  | zero =>
    intro c short
    have none : c.take (1 : Nat) = .error (.truncated c.offset 1 c.rest.length) :=
      (Cursor.take_eq_error_iff c 1 _).mpr ⟨short, rfl⟩
    rw [elementValue, walk, singles, none]
    refine ⟨fun value after walked => ?_, fun _ _ _ => Nat.zero_le _⟩
    cases walked
  | succ levels inductionHypothesis => exact elementValueOver_spends pool inductionHypothesis

end

/-- Element values and annotations are read to an end on all bytes. With more levels than bytes,
what would be done beyond them makes no difference to the outcome nor to where the run ends. A value
that is read takes three bytes for each value in it, so it is no deeper than a third of them; an
annotation takes four more. And a run that fails has begun no more values than the bytes allow. -/
theorem annotations_consume (c : Cursor) (levels : Nat) (enough : c.remaining ≤ levels) :
    let value := elementValue pool levels
    let annotation := annotationReading pool levels
    (∀ (beyond : Reading ElementValue) (more : Nat), c.remaining < more →
      (elementValueWithin pool beyond more).walk c = value.walk c ∧
        (annotationOver pool (elementValueWithin pool beyond more)).walk c = annotation.walk c) ∧
    (∀ found after, value.walk c = (.ok found, after) →
      c.Reaches after ∧ c.offset + 3 * found.nodes ≤ after.offset ∧
        found.depth ≤ (after.offset - c.offset) / 3 ∧ value.singles c = found.nodes) ∧
    (∀ found after, annotation.walk c = (.ok found, after) →
      c.Reaches after ∧ c.offset + 4 + 3 * found.nodes ≤ after.offset ∧
        annotation.singles c = found.nodes) ∧
    3 * value.singles c ≤ c.remaining + 2 ∧ 3 * annotation.singles c ≤ c.remaining := by
  intro value annotation
  have short : c.rest.length < levels + 1 := Nat.lt_succ_of_le enough
  have valueSpends := elementValue_spends pool levels
  have annotationSpends := annotationOver_spends pool valueSpends
  refine ⟨?_, ?_, ?_, valueSpends.singles_le short, annotationSpends.singles_le short⟩
  · intro beyond more further
    have agree := elementValueWithin_agrees pool beyond c.remaining more levels further enough
    exact ⟨agree c (Nat.le_refl _), annotationOver_agrees pool agree c (Nat.le_refl _)⟩
  · intro found after walked
    have reached := reaches_of_walk walked
    have total := reached.total
    have deep := found.depth_le_nodes
    obtain ⟨counted, spent⟩ := (valueSpends c short).1 found after walked
    rw [Nat.zero_add] at counted
    have used : c.offset + 3 * found.nodes ≤ after.offset := by omega
    exact ⟨reached, used, by omega, counted.symm⟩
  · intro found after walked
    have reached := reaches_of_walk walked
    have total := reached.total
    obtain ⟨counted, spent⟩ := (annotationSpends c short).1 found after walked
    rw [Nat.zero_add] at counted
    exact ⟨reached, by omega, counted.symm⟩

/-- An array of two numbers in an annotation consists of four values on three levels, and is spelled
with sixteen bytes. Cut off below the numbers it would be refused, but the bytes do not let that
happen. -/
theorem nestedArray_consumed :
    let pool : ConstantPool := ⟨#[none, some (.text [0x41]), some (.integer 7)]⟩
    let spelled : List UInt8 :=
      [0x40, 0, 1, 0, 1, 0, 1, 0x5B, 0, 2, 0x49, 0, 2, 0x49, 0, 2]
    let found : ElementValue := .nested "A" [("A", .array [.int 7, .int 7])]
    Cursor.remaining ⟨9, spelled⟩ ≤ 16 ∧
      (elementValueWithin pool (.fail (.undecodableText 0)) 17).walk ⟨9, spelled⟩ =
        (.ok found, ⟨25, []⟩) ∧
      9 + 3 * found.nodes ≤ 25 ∧ found.nodes = 4 ∧ found.depth ≤ 16 / 3 := by
  intro pool spelled found
  have enough : Cursor.remaining ⟨9, spelled⟩ ≤ 16 := by decide
  obtain ⟨within, values, -⟩ := annotations_consume pool ⟨9, spelled⟩ 16 enough
  have walked : (elementValue pool 16).walk ⟨9, spelled⟩ = (.ok found, ⟨25, []⟩) := rfl
  obtain ⟨-, used, deep, -⟩ := values found _ walked
  exact ⟨enough, (within _ 17 (by decide)).1.trans walked, used, rfl, deep⟩

end TagAudit.ClassFile
