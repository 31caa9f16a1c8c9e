import TagAudit.Yaml
import TagAudit.Proofs.Data.Overlay

/-!
# Tables in documents

A table that is read from a document holds no key twice, however often the document says it, and at
whatever depth the table stands. The reader builds every table by putting its entries one after the
other, and what it has built stays as it is; a scalar never means a table.
-/

namespace TagAudit.Yaml

/-- A scalar means no table. -/
theorem Scalar.table?_eq_none_of_toData {t : Text} {kind : Kind} {value : Data}
    (means : Scalar.toData t kind = .ok value) : value.table? = none := by
  cases kind with
  | null => cases means; rfl
  | bool =>
    rw [toData] at means
    split at means <;> cases means
    rfl
  | integer =>
    rw [toData] at means
    cases read : Number.integer t <;> rw [read] at means <;> cases means
    rfl
  | real =>
    rw [toData] at means
    cases read : Number.real t <;> rw [read] at means <;> cases means
    rfl
  | timestamp =>
    rw [toData] at means
    cases read : moment t <;> rw [read] at means <;> cases means
    rfl
  | binary =>
    rw [toData] at means
    split at means <;> cases means
    rfl
  | text => cases means; rfl
  | sequence | mapping | set | pairs | merge | defaultKey | unknown => cases means

/-- A meaning in which no key is held twice: a table's keys are distinct, and a scalar is no table. -/
def Meaning.IsDistinct : Meaning → Prop
  | .scalar value => value.table? = none
  | .table entries => Keyed.IsDistinct entries
  | .list _ | .pairs _ | .set _ => True

/-- Every meaning so far holds no key twice. -/
def Reader.IsDistinct (r : Reader) : Prop :=
  ∀ (number : Nat) (meaning : Meaning), r.meanings[number]?.join = some meaning → meaning.IsDistinct

namespace Read

/-- A reading that never makes a table hold a key twice, and whose result is of a kind. -/
def Yields {α : Type} (read : Read α) (kind : α → Prop) : Prop :=
  ∀ r : Reader, r.IsDistinct → ∀ result later, read r = .ok (result, later) →
    later.IsDistinct ∧ kind result

/-- A reading that never makes a table hold a key twice. -/
abbrev Keeps {α : Type} (read : Read α) : Prop := read.Yields fun _ => True

section
variable {α β : Type}

theorem yields_pure {kind : α → Prop} {result : α} (fits : kind result) :
    Yields (pure result) kind := by
  intro r distinct _ later done
  cases done
  exact ⟨distinct, fits⟩

theorem yields_fail {kind : α → Prop} (problem : Problem) : Yields (fail problem) kind := by
  intro r distinct _ later done
  cases done

/-- What a first reading yields the second may rely on. -/
theorem Yields.bind {read : Read α} {next : α → Read β} {first : α → Prop} {last : β → Prop}
    (yields : read.Yields first) (yieldsNext : ∀ a, first a → (next a).Yields last) :
    Yields (read >>= next) last := by
  intro r distinct result later done
  cases before : read r with
  | error problem =>
    have stopped : (read >>= next) r = .error problem := by
      change (read r >>= fun taken => next taken.1 taken.2) = _
      rw [before]
      rfl
    cases stopped.symm.trans done
  | ok taken =>
    have went : (read >>= next) r = next taken.1 taken.2 := by
      change (read r >>= fun taken => next taken.1 taken.2) = _
      rw [before]
      rfl
    obtain ⟨still, fits⟩ := yields r distinct taken.1 taken.2 before
    exact yieldsNext taken.1 fits taken.2 still result later (went.symm.trans done)

/-- A reading that looks at something yields what can be seen. -/
theorem yields_get {kind : Reader → Prop} (fits : ∀ r : Reader, r.IsDistinct → kind r) :
    Yields (get : Read Reader) kind := by
  intro r distinct _ later done
  cases done
  exact ⟨distinct, fits r distinct⟩

/-- A change that leaves the meanings alone. -/
theorem keeps_modify (change : Reader → Reader)
    (same : ∀ r, (change r).meanings = r.meanings) : Keeps (modify change) := by
  intro r distinct _ later done
  cases done
  refine ⟨fun number meaning means => distinct number meaning ?_, trivial⟩
  rw [← same r]
  exact means

/-- Something that is worked out without reading on. -/
theorem yields_lift {worked : Reader → Except Problem α} {kind : α → Prop}
    (fits : ∀ r a, worked r = .ok a → kind a) :
    Yields (fun r => (worked r).map (·, r)) kind := by
  intro r distinct result later done
  change (worked r).map (·, r) = _ at done
  cases out : worked r with
  | error problem =>
    rw [out] at done
    cases done
  | ok a =>
    rw [out] at done
    cases done
    exact ⟨distinct, fits r _ out⟩

end

/-- A meaning without a key twice may be given to a node. -/
theorem keeps_mean (number : Nat) {meaning : Meaning} (fits : meaning.IsDistinct) :
    Keeps (mean number meaning) := by
  intro r distinct _ later done
  cases done
  refine ⟨fun other found means => ?_, trivial⟩
  rw [Array.getElem?_setIfInBounds] at means
  split at means
  · split at means
    · cases means
      exact fits
    · cases means
  · exact distinct other found means

theorem keeps_meaning? (number : Nat) : Keeps (meaning? number) :=
  (yields_get fun _ _ => trivial).bind fun _ _ => yields_pure trivial

/-- A node that is read as a scalar is no table. -/
theorem table?_eq_none_of_scalarValue {nodes : Nodes} {number : Nat} {value : Data}
    (means : scalarValue nodes number = .ok value) : value.table? = none := by
  rw [scalarValue] at means
  split at means
  · cases means
  · split at means
    · cases means
    · exact Scalar.table?_eq_none_of_toData means

/-- A collection without anything in it holds no key twice. -/
theorem isDistinct_of_emptyCollection? {kind : Kind} {meaning : Meaning}
    (empty : emptyCollection? kind = some meaning) : meaning.IsDistinct := by
  cases kind <;> cases empty <;> first | trivial | exact Keyed.isDistinct_nil

theorem keeps_meet (number : Nat) : Keeps (meet number) := by
  refine (keeps_meaning? number).bind fun found _ => ?_
  split
  · refine (yields_get fun _ _ => trivial).bind fun r _ => ?_
    dsimp only
    split
    · rename_i meaning empty
      exact (keeps_mean number (isDistinct_of_emptyCollection? empty)).bind fun _ _ =>
        keeps_modify _ fun _ => rfl
    · exact (yields_lift fun _ _ means => table?_eq_none_of_scalarValue means).bind
        fun value single => keeps_mean number single
  · exact yields_pure trivial

theorem keeps_meetKey (number : Nat) : Keeps (meetKey number) := by
  refine (keeps_meet number).bind fun _ _ => (keeps_meaning? number).bind fun found _ => ?_
  split
  · split
    · exact yields_pure trivial
    · exact yields_fail _
  · exact yields_fail _

theorem keeps_meetEntries (entries : List (Nat × Nat)) : Keeps (meetEntries entries) := by
  induction entries with
  | nil => exact yields_pure trivial
  | cons entry rest inductionHypothesis =>
    exact (keeps_meetKey entry.1).bind fun _ _ => (keeps_meet entry.2).bind fun _ _ =>
      inductionHypothesis.bind fun _ _ => yields_pure trivial

theorem keeps_meetPairs (items : List Nat) : Keeps (meetPairs items) := by
  induction items with
  | nil => exact yields_pure trivial
  | cons item rest inductionHypothesis =>
    refine (yields_get fun _ _ => trivial).bind fun r _ => ?_
    split
    · exact (keeps_meet _).bind fun _ _ => (keeps_meet _).bind fun _ _ =>
        inductionHypothesis.bind fun _ _ => yields_pure trivial
    · exact yields_fail _

theorem keeps_mergedEntries (number : Nat) : Keeps (mergedEntries number) := by
  refine (yields_get fun _ _ => trivial).bind fun r _ => ?_
  split
  · exact (yields_lift fun _ _ _ => trivial).bind fun nodes _ =>
      (keeps_modify (fun r => { r with nodes }) fun _ => rfl).bind fun _ _ => yields_pure trivial
  · exact yields_fail _

theorem keeps_meetAll (items : List Nat) : Keeps (items.forM meet) := by
  induction items with
  | nil => exact yields_pure trivial
  | cons item rest inductionHypothesis => exact (keeps_meet item).bind fun _ _ => inductionHypothesis

theorem keeps_takeTurn (number : Nat) : Keeps (takeTurn number) := by
  refine (yields_get fun _ _ => trivial).bind fun r _ => ?_
  dsimp only
  split
  · exact (keeps_meetAll _).bind fun _ _ => keeps_mean number trivial
  · exact (keeps_meetPairs _).bind fun _ _ => keeps_mean number trivial
  · exact (keeps_mergedEntries number).bind fun merged _ => (keeps_meetEntries merged).bind
      fun entries _ => keeps_mean number (Keyed.isDistinct_ofPairs entries)
  · exact (keeps_mergedEntries number).bind fun merged _ => (keeps_meetEntries merged).bind
      fun entries _ => keeps_mean number trivial
  · exact yields_fail _

theorem keeps_takeTurns (bound : Nat) : Keeps (takeTurns bound) := by
  induction bound with
  | zero => exact yields_pure trivial
  | succ bound inductionHypothesis =>
    refine (yields_get fun _ _ => trivial).bind fun r _ => ?_
    split
    · exact yields_pure trivial
    · rename_i number rest waiting
      exact (keeps_modify (fun r => { r with waiting := rest }) fun _ => rfl).bind fun _ _ =>
        (keeps_takeTurn number).bind fun _ _ => inductionHypothesis

end Read

/-- What is laid out holds no key twice, and all that a table holds is laid out in turn. -/
theorem Web.isDistinct_laidOut {r : Reader} (distinct : r.IsDistinct) {isKnotted : Bool}
    {unrolling bound : Nat} {around : List Nat} {number : Nat} {entries : Keyed Key Data}
    (table : (laidOut r.meanings isKnotted unrolling bound around number).table? = some entries) :
    entries.IsDistinct ∧ ∀ entry ∈ entries, ∃ bound around number,
      entry.2 = laidOut r.meanings isKnotted unrolling bound around number := by
  cases bound with
  | zero => cases table
  | succ bound =>
    unfold laidOut at table
    dsimp only at table
    cases means : r.meanings[number]?.join with
    | none =>
      rw [means] at table
      cases isKnotted <;> cases table
    | some meaning =>
      rw [means] at table
      have fits := distinct number meaning means
      cases meaning with
      | scalar value =>
        have single : value.table? = some entries := by
          cases isKnotted with
          | false => exact table
          | true => cases value <;> exact table
        cases (show value.table? = none from fits).symm.trans single
      | list _ | pairs _ | set _ => cases isKnotted <;> cases table
      | table held =>
        have held : (if (isKnotted && decide (unrolling ≤ List.count number around)) = true then []
            else held.map fun entry =>
              (entry.1, laidOut r.meanings isKnotted unrolling bound (number :: around) entry.2)) =
                entries := by
          cases isKnotted <;> exact Option.some.inj table
        subst held
        split
        · exact ⟨Keyed.isDistinct_nil, nofun⟩
        · refine ⟨?_, fun entry among => ?_⟩
          · rw [Keyed.IsDistinct, Keyed.keys, List.map_map]
            exact fits
          · obtain ⟨⟨key, inner⟩, -, rfl⟩ := List.mem_map.mp among
            exact ⟨_, _, _, rfl⟩

/-- What a document means is read with no key held twice. -/
theorem Document.exists_reader_of_web {document : Document} {web : Web}
    (means : document.web = .ok web) :
    ∃ r : Reader, r.IsDistinct ∧ web.meanings = r.meanings := by
  have start : Reader.IsDistinct
      ⟨document.nodes, Array.replicate document.nodes.size none, []⟩ := by
    intro number meaning means
    rw [Array.getElem?_replicate] at means
    split at means <;> cases means
  have keeps : Read.Keeps (Read.meet document.root >>= fun _ =>
      Read.takeTurns document.nodes.size) :=
    (Read.keeps_meet _).bind fun _ _ => Read.keeps_takeTurns _
  rw [Document.web] at means
  cases taken : (Read.meet document.root >>= fun _ => Read.takeTurns document.nodes.size)
      ⟨document.nodes, Array.replicate document.nodes.size none, []⟩ with
  | error problem =>
    rw [StateT.run, taken] at means
    cases means
  | ok result =>
    rw [StateT.run, taken] at means
    cases means
    exact ⟨result.2, (keeps _ start result.1 result.2 taken).1, rfl⟩

/-- A web that means no table has no entries. -/
theorem Web.entries_of_notTable {web : Web} {levels : Nat}
    (noTable : (web.toData levels).table? = none) : web.entries levels = [] := by
  rw [entries, noTable, Option.getD_none]

/-- The entries that a stream means hold no key twice, and neither does a table among them, however
deep they are laid out. -/
theorem isDistinctWithin_of_read {t : Text} {web : Web} (means : read t = .ok web) (levels : Nat) :
    Data.IsDistinctWithin (web.entries levels) := by
  rw [read] at means
  split at means
  · cases means
  · cases composed : Document.ofTokens (Token.ofText (unifiedLines false t)) with
    | error problem =>
      rw [composed] at means
      cases means
    | ok document =>
      rw [composed] at means
      obtain ⟨r, distinct, same⟩ := Document.exists_reader_of_web means
      cases isTable : (web.toData levels).table? with
      | none =>
        rw [Web.entries_of_notTable isTable]
        exact Data.isDistinctWithin_nil
      | some entries =>
        rw [Web.entries, isTable, Option.getD_some]
        rw [Web.toData, same] at isTable
        obtain ⟨outer, within⟩ := Web.isDistinct_laidOut distinct isTable
        refine ⟨outer, fun {key value inner} found innerTable => ?_⟩
        obtain ⟨held, -, among⟩ := Keyed.exists_mem_of_get?_eq_some found
        obtain ⟨bound, around, number, rfl⟩ := within (held, value) among
        exact (Web.isDistinct_laidOut distinct innerTable).1

end TagAudit.Yaml
