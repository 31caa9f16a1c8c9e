import TagAudit.Proofs.FileTree.Leads

/-!
# File trees with their entries in other orders

A directory has its entries in some order, which depends on the file system and means nothing. Two
trees that differ in it alone hold the same names at the same places, and a look-up leads to the
same place in both: to the same file, or to directories that again differ in the order of entries
alone.
-/

namespace TagAudit.Node

/-- Trees that differ in the order of entries in directories, at any depth. -/
inductive Rearranged : Node → Node → Prop where
  | same (node : Node) : Rearranged node node
  | shuffled {entries others : List (Text × Node)} (order : entries.Perm others) :
      Rearranged (.directory entries) (.directory others)
  | inside {name : Text} {node other : Node} (before after : List (Text × Node))
      (inner : Rearranged node other) :
      Rearranged (.directory (before ++ (name, node) :: after))
        (.directory (before ++ (name, other) :: after))
  | further {first second third : Node} (forth : Rearranged first second)
      (onward : Rearranged second third) : Rearranged first third

/-- A file system can hold entries exactly if their names are distinct and can be looked up, and it
can hold what they stand for. -/
theorem entriesProper_iff (entries : List (Text × Node)) :
    entriesProper entries = true ↔ (Keyed.keys entries).Nodup ∧
      ∀ entry ∈ entries, (entry.1 ≠ Path.up ∧ entry.1.byteCount ≤ nameLimit) ∧
        entry.2.isProper := by
  induction entries with
  | nil => simp [entriesProper, Keyed.keys]
  | cons entry rest inductionHypothesis =>
    obtain ⟨name, node⟩ := entry
    have keys : Keyed.keys ((name, node) :: rest) = name :: Keyed.keys rest := rfl
    rw [entriesProper_cons_iff, inductionHypothesis, keys, List.nodup_cons, List.forall_mem_cons]
    constructor
    · rintro ⟨usable, once, proper, distinct, others⟩
      exact ⟨⟨once, distinct⟩, ⟨usable, proper⟩, others⟩
    · rintro ⟨⟨once, distinct⟩, ⟨usable, proper⟩, others⟩
      exact ⟨usable, once, proper, distinct, others⟩

/-- The entries of a node that a file system can hold, it can hold. -/
theorem entriesProper_entries {node : Node} (proper : node.isProper) :
    entriesProper node.entries := by
  cases node with
  | file content => rfl
  | link target => rfl
  | directory entries =>
    rw [isProper] at proper
    exact proper

section
variable {first second : Node}

/-- Trees that differ in an order are directories, or they do not differ. -/
theorem Rearranged.alike (rearranged : Rearranged first second) :
    (∃ entries others, first = .directory entries ∧ second = .directory others) ∨
      first = second := by
  induction rearranged with
  | same node => exact .inr rfl
  | shuffled order => exact .inl ⟨_, _, rfl, rfl⟩
  | inside before after inner => exact .inl ⟨_, _, rfl, rfl⟩
  | further forth onward forthAlike onwardAlike =>
    rcases forthAlike with ⟨entries, others, rfl, rfl⟩ | rfl
    · rcases onwardAlike with ⟨_, more, -, rfl⟩ | rfl
      · exact .inl ⟨_, _, rfl, rfl⟩
      · exact .inl ⟨_, _, rfl, rfl⟩
    · exact onwardAlike

/-- A directory in another order is a directory. -/
theorem Rearranged.exists_others {entries : List (Text × Node)}
    (rearranged : Rearranged (.directory entries) second) :
    ∃ others, second = .directory others := by
  rcases rearranged.alike with ⟨_, others, -, rfl⟩ | rfl
  · exact ⟨others, rfl⟩
  · exact ⟨entries, rfl⟩

/-- Orders may be changed back. -/
theorem Rearranged.symm (rearranged : Rearranged first second) : Rearranged second first := by
  induction rearranged with
  | same node => exact .same node
  | shuffled order => exact .shuffled order.symm
  | inside before after inner inductionHypothesis => exact .inside before after inductionHypothesis
  | further forth onward back backOnward => exact .further backOnward back

/-- An entry is among those of the other tree, for what it stood for but for the order. -/
theorem Rearranged.exists_entry (rearranged : Rearranged first second) {name : Text} {node : Node}
    (held : (name, node) ∈ first.entries) :
    ∃ other, (name, other) ∈ second.entries ∧ Rearranged node other := by
  induction rearranged generalizing node with
  | same tree => exact ⟨node, held, .same node⟩
  | shuffled order => exact ⟨node, order.mem_iff.mp held, .same node⟩
  | @inside changed old new before after inner _ =>
    rcases List.mem_append.mp held with front | behind
    · exact ⟨node, List.mem_append.mpr (.inl front), .same node⟩
    · rcases List.mem_cons.mp behind with same | later
      · obtain ⟨rfl, rfl⟩ := Prod.mk.inj same
        exact ⟨new, List.mem_append.mpr (.inr List.mem_cons_self), inner⟩
      · exact ⟨node, List.mem_append.mpr (.inr (List.mem_cons_of_mem _ later)), .same node⟩
  | further forth onward forthEntry onwardEntry =>
    obtain ⟨between, heldBetween, toBetween⟩ := forthEntry held
    obtain ⟨other, heldToo, onward⟩ := onwardEntry heldBetween
    exact ⟨other, heldToo, .further toBetween onward⟩

/-- What a file system can hold, it can hold in every order. -/
theorem Rearranged.isProper (rearranged : Rearranged first second) (proper : first.isProper) :
    second.isProper := by
  induction rearranged with
  | same node => exact proper
  | shuffled order =>
    rw [Node.isProper, entriesProper_iff] at proper ⊢
    obtain ⟨distinct, usable⟩ := proper
    exact ⟨(order.map Prod.fst).nodup_iff.mp distinct,
      fun entry held => usable entry (order.mem_iff.mpr held)⟩
  | @inside name node other before after inner inductionHypothesis =>
    rw [Node.isProper, entriesProper_iff] at proper ⊢
    obtain ⟨distinct, usable⟩ := proper
    refine ⟨by simpa [Keyed.keys] using distinct, ?_⟩
    simp only [List.forall_mem_append, List.forall_mem_cons] at usable ⊢
    obtain ⟨front, ⟨named, properNode⟩, behind⟩ := usable
    exact ⟨front, ⟨named, inductionHypothesis properNode⟩, behind⟩
  | further forth onward forthProper onwardProper => exact onwardProper (forthProper proper)

section
variable (rearranged : Rearranged first second) (proper : first.isProper)
include rearranged proper

/-- A name stands for the same but for the order. -/
theorem Rearranged.exists_get? {name : Text} {node : Node}
    (found : Keyed.get? name first.entries = some node) :
    ∃ other, Keyed.get? name second.entries = some other ∧ Rearranged node other := by
  obtain ⟨other, held, inner⟩ :=
    rearranged.exists_entry (Keyed.mem_of_get?_eq_some name node _ found)
  have properToo := entriesProper_entries (rearranged.isProper proper)
  exact ⟨other, (of_entriesProper properToo held).1, inner⟩

/-- At a place stands the same but for the order. -/
theorem Rearranged.exists_at? {place : Place} {node : Node} (stands : first.at? place = some node) :
    ∃ other, second.at? place = some other ∧ Rearranged node other := by
  induction place generalizing first second with
  | nil =>
    obtain rfl := Option.some.inj stands
    exact ⟨second, rfl, rearranged⟩
  | cons name rest inductionHypothesis =>
    rw [at?] at stands
    obtain ⟨below, found, further⟩ := Option.bind_eq_some_iff.mp stands
    obtain ⟨other, foundToo, inner⟩ := rearranged.exists_get? proper found
    have held := Keyed.mem_of_get?_eq_some name below _ found
    have properBelow := (of_entriesProper (entriesProper_entries proper) held).2.2.2
    obtain ⟨last, furtherToo, same⟩ := inductionHypothesis inner properBelow further
    refine ⟨last, ?_, same⟩
    rw [at?, foundToo]
    exact furtherToo

/-- A directory stands where one stood. -/
theorem Rearranged.exists_directory_at? {place : Place} {entries : List (Text × Node)}
    (stands : first.at? place = some (.directory entries)) :
    ∃ others, second.at? place = some (.directory others) ∧
      Rearranged (.directory entries) (.directory others) := by
  obtain ⟨other, standsToo, inner⟩ := rearranged.exists_at? proper stands
  obtain ⟨others, rfl⟩ := inner.exists_others
  exact ⟨others, standsToo, inner⟩

/-- A name that can be looked up in a directory can be looked up there. -/
theorem Rearranged.exists_holds {place : Place} {name : Text} {node : Node}
    (holds : first.Holds place name node) :
    ∃ other, second.Holds place name other ∧ Rearranged node other := by
  obtain ⟨⟨entries, stands, held⟩, plain, short⟩ := holds
  obtain ⟨others, standsToo, inner⟩ := rearranged.exists_directory_at? proper stands
  obtain ⟨other, heldToo, same⟩ := inner.exists_get? (isProper_of_at? proper stands) held
  exact ⟨other, ⟨⟨others, standsToo, heldToo⟩, plain, short⟩, same⟩

/-- Names lead to the same place, to the same but for the order. -/
theorem Rearranged.exists_leads {links left : Nat} {place reached : Place} {names : List Text}
    {node : Node} (leads : first.Leads links place names left reached node) :
    ∃ other, second.Leads links place names left reached other ∧ Rearranged node other := by
  induction leads with
  | here stands =>
    obtain ⟨other, standsToo, same⟩ := rearranged.exists_at? proper stands
    exact ⟨other, .here standsToo, same⟩
  | up inside onward inductionHypothesis =>
    obtain ⟨others, insideToo, -⟩ := rearranged.exists_directory_at? proper inside
    obtain ⟨other, onwardToo, same⟩ := inductionHypothesis
    exact ⟨other, .up insideToo onwardToo, same⟩
  | enter holds onward inductionHypothesis =>
    obtain ⟨entered, holdsToo, inner⟩ := rearranged.exists_holds proper holds
    obtain ⟨others, rfl⟩ := inner.exists_others
    obtain ⟨other, onwardToo, same⟩ := inductionHypothesis
    exact ⟨other, .enter holdsToo onwardToo, same⟩
  | file holds =>
    obtain ⟨other, holdsToo, same⟩ := rearranged.exists_holds proper holds
    rcases same.alike with ⟨_, _, different, -⟩ | rfl
    · cases different
    · exact ⟨_, .file holdsToo, .same _⟩
  | cross holds onward inductionHypothesis =>
    obtain ⟨crossed, holdsToo, same⟩ := rearranged.exists_holds proper holds
    obtain ⟨other, onwardToo, sameEnd⟩ := inductionHypothesis
    rcases same.alike with ⟨_, _, different, -⟩ | rfl
    · cases different
    · exact ⟨other, .cross holdsToo onwardToo, sameEnd⟩

/-- A path leads to the same place, to the same but for the order. -/
theorem Rearranged.exists_find {workingPlace reached : Place} {p : Path} {node : Node}
    (found : first.find workingPlace p = .ok (reached, node)) :
    ∃ other, second.find workingPlace p = .ok (reached, other) ∧ Rearranged node other := by
  obtain ⟨spelled, left, leads⟩ := (find_eq_ok_iff first workingPlace p reached node).mp found
  obtain ⟨other, leadsToo, same⟩ := rearranged.exists_leads proper leads
  exact ⟨other, (find_eq_ok_iff second workingPlace p reached other).mpr ⟨spelled, left, leadsToo⟩,
    same⟩

end

end

end TagAudit.Node
