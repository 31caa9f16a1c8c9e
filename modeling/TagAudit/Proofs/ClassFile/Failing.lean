import TagAudit.Proofs.ClassFile.Spells

/-!
# How a run fails

A run goes from cursor to cursor and uses up what lies in between. Where it fails, the defect tells
of the bytes at the place that was reached, so a claim about the defects of a reading is shown by
following the runs of its parts: what a part has used up is known when the next one begins.

Bytes that are missing are the one defect that every reading may have, wherever it stands. They are
accounted for once, and only the failures that a reading decides on by itself are left.
-/

namespace TagAudit.ClassFile

/-- Using up bytes leads from one cursor to another. -/
def Cursor.Passes (c : Cursor) (used : List UInt8) (d : Cursor) : Prop :=
  c.rest = used ++ d.rest ∧ d.offset = c.offset + used.length

/-- A cursor is reached from another one by using up bytes. -/
def Cursor.Reaches (c d : Cursor) : Prop := ∃ used, c.Passes used d

namespace Cursor

variable {c d e : Cursor} {used more : List UInt8}

/-- Bytes that are used up one after the other are used up together. -/
theorem Passes.trans (first : c.Passes used d) (second : d.Passes more e) :
    c.Passes (used ++ more) e := by
  obtain ⟨joined, moved⟩ := first
  obtain ⟨joinedToo, movedToo⟩ := second
  refine ⟨by rw [joined, joinedToo, List.append_assoc], ?_⟩
  rw [movedToo, moved, List.length_append, Nat.add_assoc]

/-- What is left is what was there without what is used up. -/
theorem Passes.length_eq (passed : c.Passes used d) :
    c.rest.length = used.length + d.rest.length := by
  rw [passed.1, List.length_append]

/-- A cursor is reached where it stands. -/
theorem Reaches.here (c : Cursor) : c.Reaches c := ⟨[], rfl, rfl⟩

/-- What is reached from a cursor that is reached is reached. -/
theorem Reaches.trans (first : c.Reaches d) (second : d.Reaches e) : c.Reaches e := by
  obtain ⟨used, passed⟩ := first
  obtain ⟨more, passedToo⟩ := second
  exact ⟨used ++ more, passed.trans passedToo⟩

/-- Bytes passed and bytes left are together as many as before. -/
theorem Reaches.total (reached : c.Reaches d) :
    d.offset + d.rest.length = c.offset + c.rest.length := by
  obtain ⟨used, joined, moved⟩ := reached
  rw [joined, moved, List.length_append, Nat.add_assoc]

end Cursor

namespace Reading

variable {α β : Type} {r : Reading α} {c after : Cursor} {value : α} {sort : Defect → Prop}

/-- If the run from a cursor fails, it does so with a defect of a sort. -/
def FailsAs (sort : Defect → Prop) (r : Reading α) (c : Cursor) : Prop :=
  ∀ defect, r.run c = .error defect → sort defect

/-- A reading that is done does not fail. -/
theorem failsAs_done (result : α) : (Reading.done result).FailsAs sort c :=
  fun _ failed => nomatch failed

/-- A reading that fails has the one defect. -/
theorem failsAs_fail {defect : Defect} (sorted : sort defect) :
    (Reading.fail defect : Reading α).FailsAs sort c := by
  rintro reported failed
  obtain rfl := Except.error.inj failed
  exact sorted

/-- A decided result fails as it was decided. -/
theorem failsAs_ofExcept {result : Except Defect α}
    (sorted : ∀ defect, result = .error defect → sort defect) :
    (Reading.ofExcept result).FailsAs sort c := by
  cases result with
  | ok result => exact failsAs_done result
  | error defect => exact failsAs_fail (sorted defect rfl)

/-- A bind fails as its first part does, or as the second one does behind the bytes from which the
first has read its value. -/
theorem FailsAs.bind {f : α → Reading β} (first : r.FailsAs sort c)
    (next : ∀ used value after, c.Passes used after → r.Reads c.offset used value →
      (f value).FailsAs sort after) :
    (r.bind f).FailsAs sort c := by
  intro defect failed
  rw [run_bind] at failed
  cases ran : r.run c with
  | error reported =>
    rw [ran] at failed
    obtain rfl := Except.error.inj failed
    exact first reported ran
  | ok step =>
    rw [ran] at failed
    obtain ⟨used, joined, moved, accepted⟩ := (run_eq_ok_iff r c step.2 step.1).mp ran
    exact next used step.1 step.2 ⟨joined, moved⟩ accepted defect failed

/-- Finding out the position neither fails nor uses up anything. -/
theorem FailsAs.bindOffset {f : Nat → Reading β} (next : (f c.offset).FailsAs sort c) :
    (Reading.offset.bind f).FailsAs sort c := by
  intro defect failed
  rw [run_bind] at failed
  exact next defect failed

/-- Wherever a reading is run behind a cursor, it fails with a defect of a sort. -/
def FailsBehind (origin : Cursor) (sort : Defect → Prop) (r : Reading α) : Prop :=
  ∀ c, origin.Reaches c → r.FailsAs sort c

/-- Behind a cursor, every report of missing bytes is of a sort. -/
def MissingIs (origin : Cursor) (sort : Defect → Prop) : Prop :=
  ∀ (c : Cursor) (width : Nat), origin.Reaches c → c.rest.length < width →
    sort (.truncated c.offset width c.rest.length)

section
variable {origin : Cursor}

/-- What holds behind a cursor holds behind those that are reached from it. -/
theorem MissingIs.onward (missing : MissingIs origin sort) (reached : origin.Reaches after) :
    MissingIs after sort :=
  fun c width further => missing c width (reached.trans further)

/-- Behind a cursor, a reading that is done does not fail. -/
theorem failsBehind_done (result : α) : (Reading.done result).FailsBehind origin sort :=
  fun _ _ => failsAs_done result

/-- Behind a cursor, a bind fails as its parts do. -/
theorem FailsBehind.bind {f : α → Reading β} (first : r.FailsBehind origin sort)
    (next : ∀ value, (f value).FailsBehind origin sort) : (r.bind f).FailsBehind origin sort :=
  fun c reached => (first c reached).bind fun used value after passed _ =>
    next value after (reached.trans ⟨used, passed⟩)

/-- Making something of what is read adds no failure. -/
theorem FailsBehind.map {f : α → β} (first : r.FailsBehind origin sort) :
    (r.bind fun value => .done (f value)).FailsBehind origin sort :=
  first.bind fun value => failsBehind_done (f value)

/-- A repetition fails as its step does. -/
theorem FailsBehind.timesOnto (step : r.FailsBehind origin sort) (count : Nat)
    (reversed : List α) : (Reading.timesOnto r count reversed).FailsBehind origin sort := by
  induction count generalizing reversed with
  | zero => exact failsBehind_done reversed.reverse
  | succ count inductionHypothesis =>
    exact step.bind fun value => inductionHypothesis (value :: reversed)

/-- Taking bytes fails only where they are missing. -/
theorem MissingIs.take (missing : MissingIs origin sort) (width : Nat) (f : List UInt8 → α) :
    (Reading.take width fun taken => .done (f taken)).FailsBehind origin sort := by
  intro c reached defect failed
  rw [run] at failed
  cases found : c.take width with
  | error reported =>
    rw [found] at failed
    obtain rfl := Except.error.inj failed
    obtain ⟨short, rfl⟩ := (Cursor.take_eq_error_iff c width reported).mp found
    exact missing c width reached short
  | ok step => simp [found, run] at failed

/-- Passing over bytes fails only where they are missing. -/
theorem MissingIs.pass (missing : MissingIs origin sort) (width : Nat) :
    (Reading.pass width).FailsBehind origin sort := by
  intro c reached defect failed
  rw [Reading.pass, run_skip] at failed
  exact missing.take width (fun _ => ()) c reached defect failed

/-- A counted repetition fails as its step does, or for missing bytes of the count. -/
theorem MissingIs.counted (missing : MissingIs origin sort) (step : r.FailsBehind origin sort) :
    (Reading.counted r).FailsBehind origin sort :=
  (missing.take 2 bigEndian).bind fun count => step.timesOnto count []

end

/-- Places in what is read: behind these bytes stands an index that has to name a constant of a
kind. -/
abbrev Site := List UInt8 → ConstantKind → Prop

/-- The one site at which a reading of an index asks for a constant of a kind. -/
def Site.here (kind : ConstantKind) : Site := fun used asked => used = [] ∧ asked = kind

/-- The bytes before the next of some items: their count, and those of the items that come first. -/
def Amid {ι : Type} (valid : ι → Prop) (spelling : ι → List UInt8) (before : List UInt8) : Prop :=
  ∃ (count : Nat) (items : List ι), count < 65536 ∧ items.length < count ∧
    (∀ item ∈ items, valid item) ∧ before = bytesOf 2 count ++ items.flatMap spelling

/-- The sites of the next of some items. -/
def Site.amid {ι : Type} (valid : ι → Prop) (spelling : ι → List UInt8) (site : Site) : Site :=
  fun used kind => ∃ before inner, Amid valid spelling before ∧ site inner kind ∧
    used = before ++ inner

/-- A run that starts behind known bytes, with no more than a number of bytes left, fails with a
defect of a sort, if its sites are among the sites behind a cursor. -/
def FailsWithin (origin : Cursor) (sort : Defect → Prop) (asked : Site) (bound : Nat) (site : Site)
    (r : Reading α) : Prop :=
  ∀ front c, origin.Passes front c → c.rest.length ≤ bound →
    (∀ used kind, site used kind → asked (front ++ used) kind) → r.FailsAs sort c

section
variable {origin : Cursor} {asked site : Site} {bound : Nat}

/-- What fails alike everywhere does so within any sites. -/
theorem FailsBehind.within (fails : r.FailsBehind origin sort) :
    r.FailsWithin origin sort asked bound site :=
  fun front c passed _ _ => fails c ⟨front, passed⟩

/-- What fails within sites does so within more of them. -/
theorem FailsWithin.mono {wider : Site} (fails : r.FailsWithin origin sort asked bound site)
    (inside : ∀ used kind, site used kind → wider used kind) :
    r.FailsWithin origin sort asked bound wider :=
  fun front c passed short among =>
    fails front c passed short fun used kind isSite => among used kind (inside used kind isSite)

/-- A reading has its sites, and what goes on from its value has its own behind the item that was
read. -/
theorem FailsWithin.bind {ι : Type} {f : α → Reading β} {valid : ι → Prop}
    {spelling : ι → List UInt8} {value : ι → α} {firstSite : Site} {nextSite : ι → Site}
    (first : r.FailsWithin origin sort asked bound firstSite)
    (spells : r.Spells bound valid spelling value)
    (next : ∀ item, valid item → (f (value item)).FailsWithin origin sort asked bound
      (nextSite item))
    (here : ∀ used kind, firstSite used kind → site used kind)
    (there : ∀ item, valid item → ∀ used kind, nextSite item used kind →
      site (spelling item ++ used) kind) :
    (r.bind f).FailsWithin origin sort asked bound site := by
  intro front c passed short among
  refine FailsAs.bind (first front c passed short fun used kind isSite =>
    among used kind (here used kind isSite)) fun used result after step accepted => ?_
  have counted := step.length_eq
  obtain ⟨item, isValid, rfl, rfl⟩ := (spells _ used result (by omega)).mp accepted
  refine next item isValid _ after (passed.trans step) (by omega) fun used kind isSite => ?_
  rw [List.append_assoc]
  exact among _ kind (there item isValid used kind isSite)

/-- A reading without sites has those of what goes on from its value. -/
theorem FailsBehind.bindWithin {ι : Type} {f : α → Reading β} {valid : ι → Prop}
    {spelling : ι → List UInt8} {value : ι → α} {nextSite : ι → Site}
    (first : r.FailsBehind origin sort) (spells : r.Spells bound valid spelling value)
    (next : ∀ item, valid item → (f (value item)).FailsWithin origin sort asked bound
      (nextSite item))
    (there : ∀ item, valid item → ∀ used kind, nextSite item used kind →
      site (spelling item ++ used) kind) :
    (r.bind f).FailsWithin origin sort asked bound site := by
  have without : r.FailsWithin origin sort asked bound fun _ _ => False := first.within
  exact without.bind spells next (fun _ _ absurd => absurd.elim) there

/-- Making something of what is read adds no site. -/
theorem FailsWithin.map (fails : r.FailsWithin origin sort asked bound site) (f : α → β) :
    (r.bind fun value => .done (f value)).FailsWithin origin sort asked bound site :=
  fun front c passed short among =>
    (fails front c passed short among).bind fun _ value _ _ _ => failsAs_done (f value)

/-- A repetition fails as its step does at its sites, behind the items that come first. -/
theorem FailsWithin.timesOnto {ι : Type} {valid : ι → Prop} {spelling : ι → List UInt8}
    {value : ι → α} {stepSite : Site} (step : r.FailsWithin origin sort asked bound stepSite)
    (spells : r.Spells bound valid spelling value) (count : Nat) (reversed : List α) :
    (Reading.timesOnto r count reversed).FailsWithin origin sort asked bound fun used kind =>
      ∃ (items : List ι) (inner : List UInt8), items.length < count ∧
        (∀ item ∈ items, valid item) ∧ stepSite inner kind ∧
          used = items.flatMap spelling ++ inner := by
  induction count generalizing reversed with
  | zero => exact (failsBehind_done reversed.reverse).within
  | succ count inductionHypothesis =>
    refine step.bind spells (fun item _ => inductionHypothesis (value item :: reversed)) ?_ ?_
    · intro used kind isSite
      exact ⟨[], used, Nat.succ_pos count, by simp, isSite, rfl⟩
    · rintro item isValid used kind ⟨items, inner, fewer, each, isSite, rfl⟩
      refine ⟨item :: items, inner, Nat.succ_lt_succ fewer,
        List.forall_mem_cons.mpr ⟨isValid, each⟩, isSite, ?_⟩
      rw [List.flatMap_cons, List.append_assoc]

/-- A counted repetition fails as its step does at its sites, amid the items, or for missing bytes of
the count. -/
theorem FailsWithin.counted {ι : Type} {valid : ι → Prop} {spelling : ι → List UInt8}
    {value : ι → α} {stepSite : Site} (step : r.FailsWithin origin sort asked bound stepSite)
    (missing : MissingIs origin sort) (spells : r.Spells bound valid spelling value) :
    (Reading.counted r).FailsWithin origin sort asked bound (.amid valid spelling stepSite) := by
  refine (missing.take 2 bigEndian).bindWithin (u2_spells bound)
    (fun count _ => step.timesOnto spells count.toNat []) ?_
  rintro count - used kind ⟨items, inner, fewer, each, isSite, rfl⟩
  exact ⟨_, inner, ⟨count.toNat, items, count.toNat_lt, fewer, each, rfl⟩, isSite,
    (List.append_assoc _ _ _).symm⟩

end

/-- A word that is read is spelled between the cursors. -/
theorem run_u2_eq_ok {n : Nat} (completed : u2.run c = .ok (n, after)) :
    ∃ word : UInt16, word.toNat = n ∧ c.rest = bytesOf 2 word.toNat ++ after.rest := by
  obtain ⟨used, joined, _, accepted⟩ := (run_eq_ok_iff u2 c after n).mp completed
  obtain ⟨word, rfl, same⟩ := (reads_u2 c.offset used n).mp accepted
  exact ⟨word, same, joined⟩

end Reading

end TagAudit.ClassFile
