import TagAudit.Keyed

/-!
# Looking things up in tables

What a table holds under a key after something was put: the new value under the key itself, and
under every other key what was there before. Putting keeps the keys distinct. In a table with
distinct keys a pair is found by its key, so looking up and being held are the same.

Two keys may be the same without being equal. Then looking up finds either under the other, and a
table that was built by putting holds no two that are the same.

A table to which pairs were put holds none but its own and these, and whoever looks only at some of
the keys sees what would be there if only pairs with such keys had been put.
-/

namespace TagAudit.Keyed

section
variable {κ ν : Type} [BEq κ]

/-- What is found in a table is held under a key that is the same. -/
theorem exists_mem_of_get?_eq_some {key : κ} {value : ν} {table : Keyed κ ν}
    (found : get? key table = some value) : ∃ held, (held == key) = true ∧ (held, value) ∈ table := by
  induction table with
  | nil => cases found
  | cons entry rest inductionHypothesis =>
    obtain ⟨held, first⟩ := entry
    rw [get?] at found
    split at found
    · rename_i same
      obtain rfl := Option.some.inj found
      exact ⟨held, same, List.mem_cons_self⟩
    · obtain ⟨other, same, among⟩ := inductionHypothesis found
      exact ⟨other, same, List.mem_cons_of_mem _ among⟩

/-- Nothing is found under a key that is not the same as any that is held. -/
theorem get?_eq_none {key : κ} {table : Keyed κ ν}
    (apart : ∀ held ∈ keys table, (held == key) = false) : get? key table = none := by
  induction table with
  | nil => rfl
  | cons entry rest inductionHypothesis =>
    obtain ⟨held, first⟩ := entry
    rw [get?, apart held List.mem_cons_self, if_neg Bool.false_ne_true]
    exact inductionHypothesis fun other among => apart other (List.mem_cons_of_mem _ among)

/-- A table holds a key exactly if something is found under it. -/
theorem has_eq (key : κ) (table : Keyed κ ν) : has key table = (get? key table).isSome := by
  induction table with
  | nil => rfl
  | cons entry rest inductionHypothesis =>
    rw [has, List.any_cons, get?]
    split
    · rename_i same
      rw [same]
      rfl
    · rename_i different
      rw [Bool.eq_false_iff.mpr different]
      exact inductionHypothesis

/-- Where keys are renamed and stay apart, a value is found under the new name of its key. -/
theorem get?_map {κ' μ : Type} [BEq κ'] (rename : κ → κ') (f : ν → μ)
    (apart : ∀ a b, (rename a == rename b) = (a == b)) (key : κ) (table : Keyed κ ν) :
    get? (rename key) (table.map fun entry => (rename entry.1, f entry.2)) =
      (get? key table).map f := by
  induction table with
  | nil => rfl
  | cons entry rest inductionHypothesis =>
    rw [List.map_cons, get?, get?, apart, inductionHypothesis]
    split <;> rfl

/-- No two keys of a table are the same. -/
def IsDistinct (table : Keyed κ ν) : Prop := (keys table).Pairwise fun a b => (a == b) = false

/-- In a table without anything in it no two keys are the same. -/
theorem isDistinct_nil : IsDistinct ([] : Keyed κ ν) := List.Pairwise.nil

/-- Every key after something was put is the one that was put or one from before. -/
theorem mem_keys_of_mem_keys_put {key other : κ} {value : ν} {table : Keyed κ ν}
    (among : other ∈ keys (put key value table)) : other = key ∨ other ∈ keys table := by
  induction table with
  | nil => exact .inl (List.mem_singleton.mp among)
  | cons entry rest inductionHypothesis =>
    obtain ⟨held, first⟩ := entry
    rw [put] at among
    split at among
    · exact .inr among
    · rcases List.mem_cons.mp among with rfl | later
      · exact .inr List.mem_cons_self
      · exact (inductionHypothesis later).imp_right (List.mem_cons_of_mem _)

/-- Putting makes no two keys the same. -/
theorem IsDistinct.put {table : Keyed κ ν} (distinct : IsDistinct table) (key : κ) (value : ν) :
    IsDistinct (Keyed.put key value table) := by
  induction table with
  | nil => exact List.pairwise_singleton _ _
  | cons entry rest inductionHypothesis =>
    obtain ⟨held, first⟩ := entry
    obtain ⟨apart, later⟩ := List.pairwise_cons.mp distinct
    rw [Keyed.put]
    split
    · exact distinct
    · rename_i different
      refine List.pairwise_cons.mpr ⟨fun other among => ?_, inductionHypothesis later⟩
      rcases mem_keys_of_mem_keys_put among with rfl | before
      · exact Bool.eq_false_iff.mpr different
      · exact apart other before

/-- A table built from pairs holds no key twice. -/
theorem isDistinct_ofPairs (pairs : List (κ × ν)) : IsDistinct (ofPairs pairs) := by
  have step : ∀ table : Keyed κ ν, IsDistinct table → IsDistinct (putAll table pairs) := by
    induction pairs with
    | nil => exact fun _ distinct => distinct
    | cons entry rest inductionHypothesis =>
      exact fun table distinct => inductionHypothesis _ (distinct.put entry.1 entry.2)
  exact step [] isDistinct_nil

/-- Puts a pair unless its key is there already. -/
def putNew (table : Keyed κ ν) (entry : κ × ν) : Keyed κ ν :=
  if table.has entry.1 then table else table.put entry.1 entry.2

/-- Putting pairs whose keys are new makes no two keys the same. -/
theorem IsDistinct.foldl_putNew {table : Keyed κ ν} (distinct : IsDistinct table)
    (added : List (κ × ν)) : IsDistinct (added.foldl putNew table) := by
  induction added generalizing table with
  | nil => exact distinct
  | cons entry rest inductionHypothesis =>
    refine inductionHypothesis ?_
    rw [putNew]
    split
    · exact distinct
    · exact distinct.put entry.1 entry.2

/-- Every key after new pairs were put is one of theirs or one from before. -/
theorem mem_keys_of_mem_keys_foldl_putNew {key : κ} {table added : Keyed κ ν}
    (among : key ∈ keys (added.foldl putNew table)) : key ∈ keys table ∨ key ∈ keys added := by
  induction added generalizing table with
  | nil => exact .inl among
  | cons entry rest inductionHypothesis =>
    rcases inductionHypothesis among with before | later
    · rw [putNew] at before
      split at before
      · exact .inl before
      · rcases mem_keys_of_mem_keys_put before with rfl | before
        · exact .inr List.mem_cons_self
        · exact .inl before
    · exact .inr (List.mem_cons_of_mem _ later)

/-- The keys after something was put: those from before, and behind them the new one unless it was
there. -/
theorem keys_put (key : κ) (value : ν) (table : Keyed κ ν) :
    keys (put key value table) = if has key table then keys table else keys table ++ [key] := by
  induction table with
  | nil => rfl
  | cons entry rest inductionHypothesis =>
    obtain ⟨held, old⟩ := entry
    rw [put, has, List.any_cons]
    by_cases same : (held == key) = true
    · rw [if_pos same, same, Bool.true_or, if_pos rfl]
      rfl
    · rw [if_neg same, Bool.eq_false_iff.mpr same, Bool.false_or]
      change held :: keys (put key value rest) = if has key rest then _ else _
      rw [inductionHypothesis]
      split <;> rfl

variable [EquivBEq κ]

/-- Keys that are the same find the same. -/
theorem get?_congr {key other : κ} (same : (key == other) = true) (table : Keyed κ ν) :
    get? key table = get? other table := by
  induction table with
  | nil => rfl
  | cons entry rest inductionHypothesis =>
    rw [get?, get?, BEq.congr_right same, inductionHypothesis]

/-- After something was put it is found under its key, and under every other key what was found
there before. -/
theorem get?_put (key other : κ) (value : ν) (table : Keyed κ ν) :
    get? other (put key value table) = if key == other then some value else get? other table := by
  induction table with
  | nil => simp [put, get?]
  | cons entry rest inductionHypothesis =>
    obtain ⟨held, old⟩ := entry
    rw [put]
    split
    · rename_i same
      rw [get?, get?, BEq.congr_left same]
      split <;> rfl
    · rename_i different
      rw [get?, get?, inductionHypothesis]
      split
      · rename_i sought
        rw [if_neg fun same => different (BEq.trans sought (BEq.symm same))]
      · rfl

/-- After pairs with new keys were put, a key finds what it found before, and what it finds among the
pairs if it found nothing. -/
theorem get?_foldl_putNew (key : κ) (table added : Keyed κ ν) :
    get? key (added.foldl putNew table) = (get? key table).or (get? key added) := by
  induction added generalizing table with
  | nil => rw [List.foldl_nil, get?, Option.or_none]
  | cons entry rest inductionHypothesis =>
    obtain ⟨held, value⟩ := entry
    rw [List.foldl_cons, inductionHypothesis, putNew, get?]
    by_cases there : (get? held table).isSome = true
    · rw [if_pos (by rw [has_eq, there])]
      split
      · rename_i same
        obtain ⟨old, found⟩ := Option.isSome_iff_exists.mp there
        rw [← get?_congr same, found, Option.some_or, Option.some_or]
      · rfl
    · rw [if_neg (by rwa [has_eq]), get?_put]
      split
      · rename_i same
        have nothing : get? key table = none :=
          (get?_congr same table).symm.trans (Option.not_isSome_iff_eq_none.mp there)
        rw [nothing, Option.none_or, Option.some_or]
      · rfl

/-- A key is held after something was put if it was before, or is the same as the one that was put. -/
theorem has_put (key other : κ) (value : ν) (table : Keyed κ ν) :
    has other (put key value table) = ((key == other) || has other table) := by
  rw [has_eq, has_eq, get?_put]
  cases key == other <;> rfl

/-- A table holds its keys. -/
theorem has_of_mem_keys {key : κ} {table : Keyed κ ν} (among : key ∈ keys table) :
    has key table = true := by
  obtain ⟨entry, held, rfl⟩ := List.mem_map.mp among
  exact List.any_eq_true.mpr ⟨entry, held, BEq.rfl⟩

/-- Tables with the same keys in the same order, none of them twice, are equal if they hold the same
under each. -/
theorem eq_of_get? {first second : Keyed κ ν} (distinct : first.IsDistinct)
    (sameKeys : keys first = keys second)
    (same : ∀ key ∈ keys first, get? key first = get? key second) : first = second := by
  induction first generalizing second with
  | nil => exact (List.map_eq_nil_iff.mp sameKeys.symm).symm
  | cons entry rest inductionHypothesis =>
    obtain ⟨_, value⟩ := entry
    obtain ⟨⟨held, other⟩, rest', rfl, rfl, restKeys⟩ := List.map_eq_cons_iff.mp sameKeys.symm
    obtain ⟨apart, later⟩ := List.pairwise_cons.mp distinct
    have sameValue : value = other := by
      simpa [get?] using same _ List.mem_cons_self
    subst sameValue
    rw [inductionHypothesis later restKeys.symm fun key among => ?_]
    have found := same key (List.mem_cons_of_mem _ among)
    have different : ¬(held == key) = true := by
      rw [apart key among]
      exact Bool.false_ne_true
    rwa [get?, get?, if_neg different, if_neg different] at found

/-- In a table without a key twice each pair is found by its key. -/
theorem get?_of_mem {table : Keyed κ ν} (distinct : table.IsDistinct) {entry : κ × ν}
    (among : entry ∈ table) : get? entry.1 table = some entry.2 := by
  induction table with
  | nil => cases among
  | cons first rest inductionHypothesis =>
    obtain ⟨apart, later⟩ := List.pairwise_cons.mp distinct
    rcases List.mem_cons.mp among with rfl | among
    · rw [get?, if_pos BEq.rfl]
    · have different : ¬(first.1 == entry.1) = true := by
        rw [apart entry.1 (List.mem_map_of_mem among)]
        exact Bool.false_ne_true
      rw [get?, if_neg different]
      exact inductionHypothesis later among

end

section
variable {κ ν : Type} [BEq κ] [LawfulBEq κ]

/-- What was put under a key is found there. -/
@[simp]
theorem get?_put_self (key : κ) (value : ν) (table : Keyed κ ν) :
    get? key (put key value table) = some value := by
  rw [get?_put, if_pos BEq.rfl]

/-- Under another key nothing changes. -/
theorem get?_put_of_ne (key other : κ) (value : ν) (table : Keyed κ ν) (different : other ≠ key) :
    get? other (put key value table) = get? other table := by
  rw [get?_put, if_neg fun same => different (beq_iff_eq.mp same).symm]

/-- Pairs that are put under other keys change nothing under a key. -/
theorem get?_putAll_of_not_mem {key : κ} {table added : Keyed κ ν} (absent : key ∉ keys added) :
    get? key (putAll table added) = get? key table := by
  induction added generalizing table with
  | nil => rfl
  | cons entry rest inductionHypothesis =>
    obtain ⟨different, later⟩ := not_or.mp (mt List.mem_cons.mpr absent)
    exact (inductionHypothesis later).trans (get?_put_of_ne entry.1 key entry.2 table different)

/-- The keys after something was put are those before and the key that was put. -/
@[simp]
theorem mem_keys_put_iff (key other : κ) (value : ν) (table : Keyed κ ν) :
    other ∈ keys (put key value table) ↔ other = key ∨ other ∈ keys table := by
  induction table with
  | nil => simp [put, keys]
  | cons entry rest inductionHypothesis =>
    obtain ⟨held, old⟩ := entry
    rw [put]
    split
    · rename_i same
      simp [keys, beq_iff_eq.mp same]
    · have later : other ∈ keys (put key value rest) ↔ other = key ∨ other ∈ keys rest :=
        inductionHypothesis
      simp only [keys, List.map_cons, List.mem_cons] at later ⊢
      rw [later]
      exact or_left_comm

/-- Putting under a key that is there moves no key. -/
theorem keys_put_of_mem (key : κ) (value : ν) (table : Keyed κ ν) (there : key ∈ keys table) :
    keys (put key value table) = keys table := by
  induction table with
  | nil => cases there
  | cons entry rest inductionHypothesis =>
    obtain ⟨held, old⟩ := entry
    by_cases same : held = key
    · simp [put, keys, same]
    · have later : key ∈ keys rest := (List.mem_cons.mp there).resolve_left (Ne.symm same)
      simpa [put, same, keys] using inductionHypothesis later

/-- A new key comes after all others. -/
theorem keys_put_of_not_mem (key : κ) (value : ν) (table : Keyed κ ν)
    (absent : key ∉ keys table) : keys (put key value table) = keys table ++ [key] := by
  induction table with
  | nil => rfl
  | cons entry rest inductionHypothesis =>
    obtain ⟨held, old⟩ := entry
    have parts : key ≠ held ∧ key ∉ keys rest := by simpa [keys] using absent
    simpa [put, Ne.symm parts.1, keys] using inductionHypothesis parts.2

/-- Putting keeps the keys distinct. -/
theorem nodup_keys_put (key : κ) (value : ν) (table : Keyed κ ν) (distinct : (keys table).Nodup) :
    (keys (put key value table)).Nodup := by
  have kept : IsDistinct (put key value table) :=
    IsDistinct.put (distinct.imp fun apart => beq_eq_false_iff_ne.mpr apart) key value
  exact List.Pairwise.imp (fun apart => beq_eq_false_iff_ne.mp apart) kept

/-- Looking only at some of the keys makes no difference to what is put under the others. -/
theorem filter_put (keep : κ → Bool) (key : κ) (value : ν) (table : Keyed κ ν) :
    (put key value table).filter (fun entry => keep entry.1) =
      if keep key then put key value (table.filter fun entry => keep entry.1)
      else table.filter fun entry => keep entry.1 := by
  induction table with
  | nil => cases kept : keep key <;> simp [put, kept]
  | cons entry rest inductionHypothesis =>
    obtain ⟨held, old⟩ := entry
    by_cases same : held = key
    · subst same
      cases kept : keep held <;> simp [put, kept]
    · cases kept : keep held <;> cases sought : keep key <;>
        simp [put, same, kept, sought, inductionHypothesis]

/-- The same holds of several pairs that are put: those under other keys do not count. -/
theorem filter_putAll (keep : κ → Bool) (table added : Keyed κ ν) :
    (putAll table added).filter (fun entry => keep entry.1) =
      putAll (table.filter fun entry => keep entry.1) (added.filter fun entry => keep entry.1) := by
  induction added generalizing table with
  | nil => rfl
  | cons entry rest inductionHypothesis =>
    have step : putAll table (entry :: rest) = putAll (put entry.1 entry.2 table) rest := rfl
    rw [step, inductionHypothesis, filter_put]
    cases kept : keep entry.1 with
    | true => simp [kept, putAll]
    | false => simp [kept]

/-- A pair that is held after something was put was held before, or was put. -/
theorem mem_of_mem_put (key : κ) (value : ν) (table : Keyed κ ν) (entry : κ × ν)
    (held : entry ∈ put key value table) : entry = (key, value) ∨ entry ∈ table := by
  induction table with
  | nil => exact .inl (List.mem_singleton.mp held)
  | cons first rest inductionHypothesis =>
    rw [put] at held
    split at held
    · rename_i same
      rw [beq_iff_eq.mp same] at held
      exact (List.mem_cons.mp held).imp_right (List.mem_cons_of_mem first)
    · rcases List.mem_cons.mp held with rfl | later
      · exact .inr List.mem_cons_self
      · exact (inductionHypothesis later).imp_right (List.mem_cons_of_mem first)

/-- A table built from pairs holds none but these. -/
theorem mem_of_mem_putAll (table added : Keyed κ ν) (entry : κ × ν)
    (held : entry ∈ putAll table added) : entry ∈ table ∨ entry ∈ added := by
  induction added generalizing table with
  | nil => exact .inl held
  | cons first rest inductionHypothesis =>
    rcases inductionHypothesis (put first.1 first.2 table) held with before | later
    · exact (mem_of_mem_put _ _ _ _ before).symm.imp_right fun same => by simp [same]
    · exact .inr (List.mem_cons_of_mem first later)

/-- A first pair stays first, and stays as it is if nothing else is put under its key. -/
theorem putAll_cons (key : κ) (value : ν) (table added : Keyed κ ν)
    (same : ∀ other, (key, other) ∈ added → other = value) :
    putAll ((key, value) :: table) added =
      (key, value) :: putAll table (added.filter fun entry => entry.1 != key) := by
  induction added generalizing table with
  | nil => rfl
  | cons entry rest inductionHypothesis =>
    obtain ⟨put, other⟩ := entry
    have later := fun other among => same other (List.mem_cons_of_mem _ among)
    by_cases again : put = key
    · subst again
      obtain rfl := same other List.mem_cons_self
      have step : putAll ((put, other) :: table) ((put, other) :: rest) =
          putAll ((put, other) :: table) rest := by
        simp [putAll, Keyed.put]
      rw [step, inductionHypothesis table later]
      simp
    · have step : putAll ((key, value) :: table) ((put, other) :: rest) =
          putAll ((key, value) :: Keyed.put put other table) rest := by
        simp [putAll, Keyed.put, Ne.symm again]
      rw [step, inductionHypothesis _ later]
      simp [again, putAll]

/-- What is found under a key is held with it. -/
theorem mem_of_get?_eq_some (key : κ) (value : ν) (table : Keyed κ ν)
    (found : get? key table = some value) : (key, value) ∈ table := by
  induction table with
  | nil => cases found
  | cons entry rest inductionHypothesis =>
    obtain ⟨held, first⟩ := entry
    by_cases same : held = key
    · subst same
      obtain rfl : first = value := by simpa [get?] using found
      exact List.mem_cons_self
    · exact List.mem_cons_of_mem _ (inductionHypothesis (by simpa [get?, same] using found))

/-- Under every key there is something to be found. -/
theorem exists_get?_of_mem_keys {key : κ} {table : Keyed κ ν} (there : key ∈ keys table) :
    ∃ value, get? key table = some value := by
  induction table with
  | nil => cases there
  | cons entry rest inductionHypothesis =>
    obtain ⟨held, first⟩ := entry
    by_cases same : held = key
    · exact ⟨first, by simp [get?, same]⟩
    · have later : key ∈ keys rest := (List.mem_cons.mp there).resolve_left (Ne.symm same)
      obtain ⟨value, found⟩ := inductionHypothesis later
      exact ⟨value, by simpa [get?, same] using found⟩

/-- A pair of a table with distinct keys is found by its key. -/
theorem get?_eq_some_iff (key : κ) (value : ν) (table : Keyed κ ν)
    (distinct : (keys table).Nodup) : get? key table = some value ↔ (key, value) ∈ table := by
  induction table with
  | nil => simp [get?]
  | cons entry rest inductionHypothesis =>
    obtain ⟨held, old⟩ := entry
    have parts : held ∉ keys rest ∧ (keys rest).Nodup := List.nodup_cons.mp distinct
    by_cases same : held = key
    · subst same
      have absent : (held, value) ∉ rest := by
        intro member
        exact parts.1 (List.mem_map.mpr ⟨_, member, rfl⟩)
      simp [get?, absent, eq_comm]
    · simp [get?, same, Ne.symm same, inductionHypothesis parts.2]

end

end TagAudit.Keyed
