import TagAudit.Proofs.Data.Overlay

/-!
# Laws of laying data over other data

Documents are combined table by table, at whatever depth tables stand in tables. What holds of one
level is said where the combination of two tables is. Here it is carried down every path of keys
that leads through tables of both, by induction on how the tables are nested.

Three documents may be combined in either order as long as no path of keys leads to a table in one
and to other data in another. Other data in the middle can take the place of a table below it before
a table above is combined with that, and then keys are lost.
-/

namespace TagAudit

namespace Data

/-- The data to which a path of keys leads, from table to table. -/
def at? : List Key → Data → Option Data
  | [], value => some value
  | key :: path, value => (value.table?.bind fun entries => entries.get? key).bind (at? path)

/-- The table to which a path of keys leads. -/
def tableAt? (path : List Key) (value : Data) : Option (Keyed Key Data) :=
  (value.at? path).bind table?

/-- Neither data that is a table nor any table to which keys lead in it holds a key twice or stands
within itself. Data of any other kind may be whatever it is. -/
inductive IsNested : Data → Prop
  | single {value : Data} (noTable : value.table? = none) : IsNested value
  | table {entries : Keyed Key Data} (distinct : entries.IsDistinct)
      (inner : ∀ entry ∈ entries, IsNested entry.2) : IsNested (table entries)

/-- Wherever a path of keys leads to a table in one of two, it leads to no other data in the
other. -/
def Agree (first second : Data) : Prop :=
  ∀ path value other, first.at? path = some value → second.at? path = some other →
    (value.table?.isSome ↔ other.table?.isSome)

/-- A path of keys that leads to tables above and below leads to other data in between. -/
def Parts (middle upper lower : Data) : Prop :=
  ∃ path between, middle.at? path = some between ∧ between.table? = none ∧
    (tableAt? path upper).isSome ∧ (tableAt? path lower).isSome

/-- A table laid over a table. -/
theorem laidOver_table (upper lower : Keyed Key Data) :
    (table upper).laidOver (table lower) = table (overEntries upper lower) := by
  rw [laidOver, table?]

/-- Nested tables hold no key twice, and what they hold is nested. -/
theorem IsNested.parts {value : Data} {entries : Keyed Key Data} (nested : IsNested value)
    (isTable : value.table? = some entries) :
    value = .table entries ∧ entries.IsDistinct ∧
      ∀ key held, entries.get? key = some held → IsNested held := by
  cases nested with
  | single noTable => cases noTable.symm.trans isTable
  | table distinct inner =>
    obtain rfl := Option.some.inj isTable
    refine ⟨rfl, distinct, fun key held found => ?_⟩
    obtain ⟨other, -, among⟩ := Keyed.exists_mem_of_get?_eq_some found
    exact inner _ among

/-- Laid over itself, data is as it was. -/
theorem laidOver_self {value : Data} (nested : IsNested value) : value.laidOver value = value := by
  induction nested with
  | single noTable => exact laidOver_of_single (.inl noTable)
  | @table entries distinct inner inductionHypothesis =>
    rw [laidOver_table]
    refine congrArg table (Keyed.eq_of_get? (isDistinct_overEntries _ _ distinct) ?_ ?_)
    · exact keys_overEntries_of_held _ _ distinct fun key => Keyed.has_of_mem_keys
    · intro key _
      rw [get?_overEntries key _ _ distinct]
      cases found : entries.get? key with
      | none => rfl
      | some value =>
        obtain ⟨held, -, among⟩ := Keyed.exists_mem_of_get?_eq_some found
        exact congrArg some (inductionHypothesis _ among)

/-- What has been laid over data changes nothing when it is laid over it again. -/
theorem laidOver_again {upper lower : Data} (nested : IsNested upper) (nested' : IsNested lower) :
    upper.laidOver (upper.laidOver lower) = upper.laidOver lower := by
  induction nested generalizing lower with
  | single noTable => rw [laidOver_of_single (.inl noTable), laidOver_of_single (.inl noTable)]
  | @table upper distinct inner inductionHypothesis =>
    have nested : IsNested (.table upper) := .table distinct inner
    cases nested' with
    | single noTable => rw [laidOver_of_single (.inr noTable), laidOver_self nested]
    | @table lower distinct' inner' =>
      simp only [laidOver_table]
      refine congrArg table (Keyed.eq_of_get? ?_ ?_ ?_)
      · exact isDistinct_overEntries _ _ (isDistinct_overEntries _ _ distinct')
      · refine keys_overEntries_of_held _ _ distinct fun key among => ?_
        rw [has_overEntries _ _ _ distinct, Keyed.has_of_mem_keys among, Bool.or_true]
      · intro key _
        rw [get?_overEntries key _ _ distinct, get?_overEntries key _ _ distinct]
        cases found : upper.get? key with
        | none => rw [Option.merge_none_left, Option.merge_none_left]
        | some value =>
          obtain ⟨held, -, among⟩ := Keyed.exists_mem_of_get?_eq_some found
          cases below : lower.get? key with
          | none => exact congrArg some (laidOver_self (inner _ among))
          | some other =>
            obtain ⟨held', -, among'⟩ := Keyed.exists_mem_of_get?_eq_some below
            exact congrArg some (inductionHypothesis _ among (inner' _ among'))

/-- Nested data laid over nested data is nested. -/
theorem IsNested.laidOver {upper lower : Data} (nested : IsNested upper) (nested' : IsNested lower) :
    IsNested (upper.laidOver lower) := by
  induction nested generalizing lower with
  | single noTable =>
    rw [laidOver_of_single (.inl noTable)]
    exact .single noTable
  | @table upper distinct inner inductionHypothesis =>
    cases nested' with
    | single noTable =>
      rw [laidOver_of_single (.inr noTable)]
      exact .table distinct inner
    | @table lower distinct' inner' =>
      rw [laidOver_table]
      have together := isDistinct_overEntries upper lower distinct'
      refine .table together fun entry among => ?_
      have found := Keyed.get?_of_mem together among
      rw [get?_overEntries _ _ _ distinct, Option.merge_eq_some_iff] at found
      rcases found with ⟨above, -⟩ | ⟨-, below⟩ | ⟨value, other, above, below, same⟩
      · obtain ⟨held, -, among⟩ := Keyed.exists_mem_of_get?_eq_some above
        exact inner (held, _) among
      · obtain ⟨held, -, among⟩ := Keyed.exists_mem_of_get?_eq_some below
        exact inner' (held, _) among
      · obtain ⟨_, -, among⟩ := Keyed.exists_mem_of_get?_eq_some above
        obtain ⟨_, -, among'⟩ := Keyed.exists_mem_of_get?_eq_some below
        rw [← same]
        exact inductionHypothesis _ among (inner' _ among')

/-- A path of keys through a table leads to where the rest of it leads from what stands under the
first key. -/
theorem at?_table_cons (key : Key) (path : List Key) (entries : Keyed Key Data) :
    (table entries).at? (key :: path) = (entries.get? key).bind (at? path) := rfl

/-- What parts two tables under a key parts the tables that hold them. -/
theorem Parts.of_inner {upper middle lower : Keyed Key Data} {key : Key} {above between below : Data}
    (upperHolds : upper.get? key = some above) (middleHolds : middle.get? key = some between)
    (lowerHolds : lower.get? key = some below) (parts : Parts between above below) :
    Parts (table middle) (table upper) (table lower) := by
  obtain ⟨path, data, leads, noTable, aboveTable, belowTable⟩ := parts
  refine ⟨key :: path, data, ?_, noTable, ?_, ?_⟩
  · rw [at?_table_cons, middleHolds, Option.bind_some, leads]
  · rwa [tableAt?, at?_table_cons, upperHolds, Option.bind_some]
  · rwa [tableAt?, at?_table_cons, lowerHolds, Option.bind_some]

/-- It makes no difference which two of three are laid over one another first, unless the one in the
middle parts tables of the others. -/
theorem laidOver_assoc {upper middle lower : Data} (nested : IsNested upper)
    (nested' : IsNested middle) (nested'' : IsNested lower) (together : ¬Parts middle upper lower) :
    upper.laidOver (middle.laidOver lower) = (upper.laidOver middle).laidOver lower := by
  induction nested generalizing middle lower with
  | single noTable => simp only [laidOver_of_single (.inl noTable)]
  | @table upper distinct inner inductionHypothesis =>
    cases nested' with
    | single noTable =>
      rw [laidOver_of_single (.inl noTable), laidOver_of_single (.inr noTable)]
      have noTable' : lower.table? = none :=
        Option.not_isSome_iff_eq_none.mp fun isTable => together ⟨[], _, rfl, noTable, rfl, isTable⟩
      rw [laidOver_of_single (.inr noTable')]
    | @table middle distinct' inner' =>
      cases nested'' with
      | single noTable =>
        rw [laidOver_of_single (.inr noTable), laidOver_table, laidOver_of_single (.inr noTable)]
      | @table lower distinct'' inner'' =>
        simp only [laidOver_table]
        have upperMiddle := isDistinct_overEntries upper middle distinct'
        refine congrArg table (Keyed.eq_of_get? ?_ ?_ ?_)
        · exact isDistinct_overEntries _ _ (isDistinct_overEntries _ _ distinct'')
        · simp only [keys_overEntries _ _ distinct, keys_overEntries _ _ distinct',
            keys_overEntries _ _ upperMiddle, has_overEntries _ _ _ distinct', List.filter_append,
            List.filter_filter, List.append_assoc, Bool.not_or]
        · intro key _
          simp only [get?_overEntries key _ _ distinct, get?_overEntries key _ _ distinct',
            get?_overEntries key _ _ upperMiddle]
          cases above : upper.get? key with
          | none => simp only [Option.merge_none_left]
          | some value =>
            cases between : middle.get? key with
            | none => simp only [Option.merge_none_left, Option.merge_none_right]
            | some value' =>
              cases below : lower.get? key with
              | none => simp only [Option.merge_none_right]
              | some value'' =>
                obtain ⟨_, -, among⟩ := Keyed.exists_mem_of_get?_eq_some above
                obtain ⟨_, -, among'⟩ := Keyed.exists_mem_of_get?_eq_some between
                obtain ⟨_, -, among''⟩ := Keyed.exists_mem_of_get?_eq_some below
                exact congrArg some (inductionHypothesis _ among (inner' _ among')
                  (inner'' _ among'') fun parts => together (parts.of_inner above between below))

/-- Where a path of keys leads in both of two, it leads in their combination to the combination of
what it leads to. -/
theorem at?_laidOver {path : List Key} {upper lower above below : Data} (nested : IsNested upper)
    (upperLeads : upper.at? path = some above) (lowerLeads : lower.at? path = some below) :
    (upper.laidOver lower).at? path = some (above.laidOver below) := by
  induction path generalizing upper lower with
  | nil =>
    obtain rfl := Option.some.inj upperLeads
    obtain rfl := Option.some.inj lowerLeads
    rfl
  | cons key path inductionHypothesis =>
    simp only [at?, Option.bind_eq_some_iff] at upperLeads lowerLeads
    obtain ⟨value, ⟨entries, isTable, found⟩, onward⟩ := upperLeads
    obtain ⟨value', ⟨entries', isTable', found'⟩, onward'⟩ := lowerLeads
    obtain ⟨-, distinct, inner⟩ := nested.parts isTable
    rw [at?, table?_laidOver isTable isTable', Option.bind_some, get?_overEntries _ _ _ distinct,
      found, found']
    exact inductionHypothesis (inner key value found) onward onward'

/-- Where a path of keys leads to tables in both of two, it leads to their combination. -/
theorem tableAt?_laidOver {path : List Key} {upper lower : Data} {above below : Keyed Key Data}
    (nested : IsNested upper) (upperLeads : tableAt? path upper = some above)
    (lowerLeads : tableAt? path lower = some below) :
    tableAt? path (upper.laidOver lower) = some (overEntries above below) := by
  obtain ⟨value, leads, isTable⟩ := Option.bind_eq_some_iff.mp upperLeads
  obtain ⟨value', leads', isTable'⟩ := Option.bind_eq_some_iff.mp lowerLeads
  rw [tableAt?, at?_laidOver nested leads leads', Option.bind_some, table?_laidOver isTable isTable']

/-- What keys lead to in nested data is nested. -/
theorem IsNested.at? {path : List Key} {value held : Data} (nested : IsNested value)
    (leads : value.at? path = some held) : IsNested held := by
  induction path generalizing value with
  | nil =>
    obtain rfl := Option.some.inj leads
    exact nested
  | cons key path inductionHypothesis =>
    simp only [Data.at?, Option.bind_eq_some_iff] at leads
    obtain ⟨inner, ⟨entries, isTable, found⟩, onward⟩ := leads
    exact inductionHypothesis ((nested.parts isTable).2.2 key inner found) onward

/-- Laid over nothing, a table is as it was. -/
theorem overEntries_nil {upper : Keyed Key Data} (distinct : upper.IsDistinct) :
    overEntries upper [] = upper := by
  refine Keyed.eq_of_get? (isDistinct_overEntries _ _ Keyed.isDistinct_nil) ?_ fun key _ => ?_
  · rw [keys_overEntries _ _ distinct]
    exact List.filter_eq_self.mpr fun _ _ => rfl
  · rw [get?_overEntries key _ _ distinct, Keyed.get?, Option.merge_none_right]

/-- Where two agree, the second parts no tables of the first from others. -/
theorem not_parts_of_agree {upper middle lower : Data} (agree : Agree middle upper) :
    ¬Parts middle upper lower := by
  rintro ⟨path, between, leads, noTable, above, -⟩
  obtain ⟨entries, isTable⟩ := Option.isSome_iff_exists.mp above
  obtain ⟨value, leads', isTable⟩ := Option.bind_eq_some_iff.mp isTable
  have both := (agree path between value leads leads').mpr (Option.isSome_of_eq_some isTable)
  rw [noTable] at both
  cases both

/-- Data in the middle that parts a table below from one above that lacks one of its keys makes a
difference: if it is laid over the lower one first, the key is lost. -/
theorem laidOver_ne_of_parts {upper middle lower between : Data} {path : List Key} {key : Key}
    {above below : Keyed Key Data} (nested : IsNested upper) (nested' : IsNested middle)
    (upperLeads : tableAt? path upper = some above) (middleLeads : middle.at? path = some between)
    (lowerLeads : tableAt? path lower = some below) (noTable : between.table? = none)
    (held : below.has key = true) (lacking : above.has key = false) :
    upper.laidOver (middle.laidOver lower) ≠ (upper.laidOver middle).laidOver lower := by
  obtain ⟨value, leads, isTable⟩ := Option.bind_eq_some_iff.mp upperLeads
  obtain ⟨value', leads', -⟩ := Option.bind_eq_some_iff.mp lowerLeads
  have lowerFirst : tableAt? path (upper.laidOver (middle.laidOver lower)) = some above := by
    have covered := at?_laidOver nested' middleLeads leads'
    rw [laidOver_of_single (.inl noTable)] at covered
    rw [tableAt?, at?_laidOver nested leads covered, laidOver_of_single (.inr noTable),
      Option.bind_some, isTable]
  have upperFirst : tableAt? path ((upper.laidOver middle).laidOver lower) =
      some (overEntries above below) := by
    refine tableAt?_laidOver (nested.laidOver nested') ?_ lowerLeads
    rw [tableAt?, at?_laidOver nested leads middleLeads, laidOver_of_single (.inr noTable),
      Option.bind_some, isTable]
  intro same
  rw [same, upperFirst, Option.some.injEq] at lowerFirst
  have distinct := ((nested.at? leads).parts isTable).2.1
  have keptToo := has_overEntries key above below distinct
  rw [lowerFirst, held, lacking] at keptToo
  cases keptToo

/-- How tables are laid over one another, at whatever depth they hold tables in turn. An empty table
changes nothing above or below another, and neither does a table that is there already. Where keys
lead to tables in both, they lead to a table with the keys of the lower one in their order and behind
them the new ones of the upper in theirs, and under each key stands what the upper one holds there,
or else the lower one, unless both hold tables. Of three it makes no difference which two are
combined first, if no path of keys leads to a table in one and to other data in another; it does if
such data in the middle parts a table below from one above that lacks one of its keys. -/
theorem laying_over_laws {lower upper : Keyed Key Data} (nested : IsNested (table lower))
    (nested' : IsNested (table upper)) :
    overEntries [] lower = lower ∧ overEntries lower [] = lower ∧ overEntries lower lower = lower ∧
    overEntries upper (overEntries upper lower) = overEntries upper lower ∧
    (∀ path above below, tableAt? path (table upper) = some above →
      tableAt? path (table lower) = some below →
      ∃ merged, tableAt? path (table (overEntries upper lower)) = some merged ∧
        merged.IsDistinct ∧
        merged.keys = below.keys ++ (above.keys.filter fun key => !below.has key) ∧
        ∀ key, ¬(((above.get? key).bind table?).isSome ∧ ((below.get? key).bind table?).isSome) →
          merged.get? key = (above.get? key).or (below.get? key)) ∧
    ∀ last, IsNested (table last) →
      (Agree (table lower) (table upper) → Agree (table upper) (table last) →
        Agree (table lower) (table last) →
        overEntries last (overEntries upper lower) = overEntries (overEntries last upper) lower) ∧
      ∀ path above between below key, tableAt? path (table last) = some above →
        (table upper).at? path = some between → tableAt? path (table lower) = some below →
        between.table? = none → below.has key = true → above.has key = false →
        overEntries last (overEntries upper lower) ≠ overEntries (overEntries last upper) lower := by
  obtain ⟨-, distinct, -⟩ := nested.parts rfl
  have self := laidOver_self nested
  have again := laidOver_again nested' nested
  simp only [laidOver_table, table.injEq] at self again
  refine ⟨rfl, overEntries_nil distinct, self, again, ?_, ?_⟩
  · intro path above below upperLeads lowerLeads
    obtain ⟨value, leads, isTable⟩ := Option.bind_eq_some_iff.mp upperLeads
    obtain ⟨value', leads', isTable'⟩ := Option.bind_eq_some_iff.mp lowerLeads
    have aboveDistinct := ((nested'.at? leads).parts isTable).2.1
    have belowDistinct := ((nested.at? leads').parts isTable').2.1
    have combined := tableAt?_laidOver nested' upperLeads lowerLeads
    rw [laidOver_table] at combined
    refine ⟨_, combined, isDistinct_overEntries _ _ belowDistinct,
      keys_overEntries _ _ aboveDistinct, fun key notBoth => ?_⟩
    rw [get?_overEntries key _ _ aboveDistinct]
    cases above : above.get? key with
    | none => rw [Option.merge_none_left, Option.none_or]
    | some value =>
      cases below : below.get? key with
      | none => rw [Option.merge_none_right, Option.or_none]
      | some value' =>
        rw [above, below, Option.bind_some, Option.bind_some] at notBoth
        have single := (Decidable.not_and_iff_or_not.mp notBoth).imp
          Option.not_isSome_iff_eq_none.mp Option.not_isSome_iff_eq_none.mp
        rw [Option.merge_some_some, laidOver_of_single single, Option.some_or]
  · intro last nested''
    constructor
    · intro _ agree _
      have same := laidOver_assoc nested'' nested' nested (not_parts_of_agree agree)
      simpa only [laidOver_table, table.injEq] using same
    · intro path above between below key upperLeads middleLeads lowerLeads noTable held lacking
      have differ := laidOver_ne_of_parts nested'' nested' upperLeads middleLeads lowerLeads noTable
        held lacking
      simpa only [laidOver_table, ne_eq, table.injEq] using differ

/-- Data of which neither is a table agrees. -/
theorem agree_of_single {first second : Data} (single : first.table? = none)
    (single' : second.table? = none) : Agree first second := by
  intro path value other leads leads'
  cases path with
  | nil =>
    obtain rfl := Option.some.inj leads
    obtain rfl := Option.some.inj leads'
    rw [single, single']
  | cons key path =>
    rw [at?, single] at leads
    cases leads

/-- A table that holds nothing agrees with every table. -/
theorem agree_nil (second : Keyed Key Data) : Agree (table []) (table second) := by
  intro path value other leads leads'
  cases path with
  | nil =>
    obtain rfl := Option.some.inj leads
    obtain rfl := Option.some.inj leads'
    exact Iff.rfl
  | cons key path => cases leads

/-- One more key makes no difference if what stands under it agrees with all that the other table
holds there. -/
theorem Agree.cons {key : Key} {value : Data} {rest second : Keyed Key Data}
    (held : ∀ other ∈ second.get? key, Agree value other)
    (agree : Agree (.table rest) (.table second)) :
    Agree (.table ((key, value) :: rest)) (.table second) := by
  intro path data other leads leads'
  cases path with
  | nil =>
    obtain rfl := Option.some.inj leads
    exact agree [] (.table rest) other rfl leads'
  | cons sought path =>
    rw [at?_table_cons, Keyed.get?] at leads
    split at leads
    · rename_i same
      rw [at?_table_cons, ← Keyed.get?_congr same, Option.bind_eq_some_iff] at leads'
      obtain ⟨value', found, onward⟩ := leads'
      exact held value' found path data other leads onward
    · exact agree (sought :: path) data other leads leads'

/-- What the document of a user says. -/
def userSays : Keyed Key Data :=
  [(.text "scan", .table [(.text "max_workers", .int 4), (.text "extension", .text ".class")]),
    (.text "level", .text "INFO")]

/-- What the document of a project says. -/
def projectSays : Keyed Key Data :=
  [(.text "scan", .table [(.text "extension", .text ".kt"), (.text "skip_invalid", .bool true)])]

/-- What a caller says. -/
def callerSays : Keyed Key Data :=
  [(.text "level", .text "DEBUG"), (.text "scan", .table [(.text "max_workers", .int 2)])]

/-- A document that says nothing about a section but names it. -/
def nullSays : Keyed Key Data := [(.text "scan", .null)]

/-- The table that says nothing is nested. -/
theorem isNested_nil : IsNested (table []) := .table Keyed.isDistinct_nil (List.forall_mem_nil _)

/-- A nested table with one more key is nested if what stands under the key is. -/
theorem IsNested.cons {key : Key} {value : Data} {rest : Keyed Key Data} (held : IsNested value)
    (nested : IsNested (.table rest)) (apart : ∀ other ∈ rest.keys, (key == other) = false) :
    IsNested (.table ((key, value) :: rest)) := by
  obtain ⟨-, distinct, -⟩ := nested.parts rfl
  refine .table (List.pairwise_cons.mpr ⟨apart, distinct⟩) fun entry among => ?_
  rcases List.mem_cons.mp among with rfl | among
  · exact held
  · cases nested with
    | single noTable => cases noTable
    | table _ inner => exact inner entry among

/-- What a user, a project and a caller say agrees, and may be combined in either order. A document
in the middle that names a section without saying anything about it makes a difference. -/
theorem documents_combined :
    IsNested (table userSays) ∧ IsNested (table projectSays) ∧ IsNested (table callerSays) ∧
    overEntries projectSays (overEntries projectSays userSays) = overEntries projectSays userSays ∧
    (Agree (table userSays) (table projectSays) ∧ Agree (table projectSays) (table callerSays) ∧
      Agree (table userSays) (table callerSays)) ∧
    overEntries callerSays (overEntries projectSays userSays) =
      overEntries (overEntries callerSays projectSays) userSays ∧
    overEntries callerSays (overEntries nullSays userSays) ≠
      overEntries (overEntries callerSays nullSays) userSays := by
  have user : IsNested (table userSays) :=
    .cons (.cons (.single rfl) (.cons (.single rfl) isNested_nil (by decide)) (by decide))
      (.cons (.single rfl) isNested_nil (by decide)) (by decide)
  have project : IsNested (table projectSays) :=
    .cons (.cons (.single rfl) (.cons (.single rfl) isNested_nil (by decide)) (by decide))
      isNested_nil (by decide)
  have caller : IsNested (table callerSays) :=
    .cons (.single rfl) (.cons (.cons (.single rfl) isNested_nil (by decide)) isNested_nil
      (by decide)) (by decide)
  have nothing : IsNested (table nullSays) := .cons (.single rfl) isNested_nil (by decide)
  have single {first second : Data} (single : first.table? = none) (single' : second.table? = none) :
      ∀ other ∈ some second, Agree first other := by
    rintro _ ⟨⟩
    exact agree_of_single single single'
  have userProject : Agree (table userSays) (table projectSays) := by
    refine .cons ?_ (.cons nofun (agree_nil _))
    rintro _ ⟨⟩
    exact .cons nofun (.cons (single rfl rfl) (agree_nil _))
  have projectCaller : Agree (table projectSays) (table callerSays) := by
    refine .cons ?_ (agree_nil _)
    rintro _ ⟨⟩
    exact .cons nofun (.cons nofun (agree_nil _))
  have userCaller : Agree (table userSays) (table callerSays) := by
    refine .cons ?_ (.cons (single rfl rfl) (agree_nil _))
    rintro _ ⟨⟩
    exact .cons (single rfl rfl) (.cons nofun (agree_nil _))
  obtain ⟨-, -, -, again, -, three⟩ := laying_over_laws user project
  obtain ⟨-, -, -, -, -, parted⟩ := laying_over_laws user nothing
  exact ⟨user, project, caller, again, ⟨userProject, projectCaller, userCaller⟩,
    (three callerSays caller).1 userProject projectCaller userCaller,
    (parted callerSays caller).2 [.text "scan"] _ _ _ (.text "extension") rfl rfl rfl rfl
      (by decide) (by decide)⟩

end Data

end TagAudit
