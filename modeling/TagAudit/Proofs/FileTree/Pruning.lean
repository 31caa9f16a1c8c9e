import TagAudit.Proofs.FileTree.Leads

/-!
# File trees from which something is gone

A tree may lose what stands at some places, with all that is below. Whatever names lead to in what
is left, they led to before. The converse holds for nodes of which none is lost, neither itself nor
as what a lost link led to: a look-up that comes to such a node has crossed no link that is gone.
-/

namespace TagAudit.Node

section
variable (gone : Place → Bool)

mutual
/-- A node that stands at a place without what is gone below it. -/
def without (place : Place) : Node → Node
  | directory entries => directory (entriesWithout place entries)
  | file content => file content
  | link target => link target

/-- The entries of a directory at a place without those that are gone. -/
def entriesWithout (place : Place) : List (Text × Node) → List (Text × Node)
  | [] => []
  | (name, node) :: rest =>
    if gone (place ++ [name]) then entriesWithout place rest
    else (name, without (place ++ [name]) node) :: entriesWithout place rest
end

/-- What is left under a name. -/
theorem get?_entriesWithout (place : Place) (name : Text) (entries : List (Text × Node)) :
    Keyed.get? name (entriesWithout gone place entries) =
      if gone (place ++ [name]) then none
      else (Keyed.get? name entries).map (without gone (place ++ [name])) := by
  induction entries with
  | nil => simp [entriesWithout, Keyed.get?]
  | cons entry rest inductionHypothesis =>
    obtain ⟨held, node⟩ := entry
    by_cases same : held = name
    · subst same
      cases lost : gone (place ++ [held]) with
      | true => simp [entriesWithout, lost, inductionHypothesis]
      | false => simp [entriesWithout, lost, Keyed.get?]
    · cases lost : gone (place ++ [held]) with
      | true => simp [entriesWithout, lost, inductionHypothesis, Keyed.get?, same]
      | false => simp [entriesWithout, lost, inductionHypothesis, Keyed.get?, same]

/-- What is left as a directory was one. -/
theorem exists_of_directory_eq_without {place : Place} {node : Node} {inner : List (Text × Node)}
    (same : directory inner = node.without gone place) :
    ∃ entries, node = .directory entries ∧ inner = entriesWithout gone place entries := by
  cases node with
  | directory entries => exact ⟨entries, rfl, Node.directory.inj same⟩
  | file content => cases same
  | link target => cases same

/-- The entries that are left of a node. -/
theorem entries_without (place : Place) (node : Node) :
    (node.without gone place).entries = entriesWithout gone place node.entries := by
  cases node <;> rfl

/-- Of the places on the way down through names, none is gone. -/
def Keeps : Place → List Text → Prop
  | _, [] => True
  | place, name :: rest => gone (place ++ [name]) = false ∧ Keeps (place ++ [name]) rest

/-- What is left below a node is what stood there, where nothing on the way is gone. -/
theorem at?_without_eq_some_iff (place names : Place) (node left : Node) :
    (node.without gone place).at? names = some left ↔
      Keeps gone place names ∧
        ∃ stood, node.at? names = some stood ∧ left = stood.without gone (place ++ names) := by
  induction names generalizing node place with
  | nil => simp [at?, Keeps, eq_comm]
  | cons name rest inductionHypothesis =>
    rw [at?, entries_without, get?_entriesWithout, at?]
    cases lost : gone (place ++ [name]) with
    | true => simp [Keeps, lost]
    | false =>
      cases held : Keyed.get? name node.entries with
      | none => simp
      | some below =>
        simp [Keeps, lost, inductionHypothesis]

/-- If no directory is gone below a node, then on the way down to what stands there nothing is gone
but what stands there itself. -/
theorem keeps_of_at? (node : Node) (place names : Place) (stood : Node)
    (files : ∀ first entries, gone (place ++ first) = true →
      node.at? first ≠ some (.directory entries))
    (stands : node.at? names = some stood) (last : names = [] ∨ gone (place ++ names) = false) :
    Keeps gone place names := by
  induction names generalizing node place with
  | nil => trivial
  | cons name rest inductionHypothesis =>
    rw [at?] at stands
    cases held : Keyed.get? name node.entries with
    | none => simp [held] at stands
    | some below =>
      have step (first : Place) : node.at? (name :: first) = below.at? first := by
        rw [at?, held]
        rfl
      have further : below.at? rest = some stood := by simpa [held] using stands
      have filesBelow : ∀ first entries, gone (place ++ [name] ++ first) = true →
          below.at? first ≠ some (.directory entries) := by
        intro first entries lost
        rw [← step]
        exact files (name :: first) entries (by simpa using lost)
      have kept : gone (place ++ [name]) = false := by
        cases rest with
        | nil => simpa using last
        | cons next rest =>
          -- What has something below it is a directory, and no directory is gone.
          cases below with
          | directory entries =>
            have lost := files [name] entries
            rw [step] at lost
            exact Bool.eq_false_iff.mpr fun gone => lost gone rfl
          | file content => simp [at?, entries, Keyed.get?] at further
          | link target => simp [at?, entries, Keyed.get?] at further
      refine ⟨kept, inductionHypothesis below (place ++ [name]) filesBelow further ?_⟩
      cases rest with
      | nil => exact .inl rfl
      | cons next rest => exact .inr (by simpa using last)

end

section
variable (tree : Node) (gone : Place → Bool)

/-- The tree without what is gone. -/
def pruned : Node := tree.without gone []

variable {tree gone}

/-- What is left at a place is what stood there. -/
theorem exists_of_at?_pruned {place : Place} {left : Node}
    (stands : (tree.pruned gone).at? place = some left) :
    ∃ stood, tree.at? place = some stood ∧ left = stood.without gone place := by
  obtain ⟨-, stood, before, rfl⟩ := (at?_without_eq_some_iff gone [] place tree left).mp stands
  exact ⟨stood, before, rfl⟩

/-- A name stands in what is left for what it stood for. -/
theorem exists_of_holds_pruned {place : Place} {name : Text} {left : Node}
    (holds : (tree.pruned gone).Holds place name left) :
    ∃ stood, tree.Holds place name stood ∧ left = stood.without gone (place ++ [name]) := by
  obtain ⟨⟨entries, inside, held⟩, plain, short⟩ := holds
  obtain ⟨stood, before, same⟩ := exists_of_at?_pruned inside
  obtain ⟨earlier, rfl, rfl⟩ := exists_of_directory_eq_without gone same
  rw [get?_entriesWithout] at held
  split at held
  · cases held
  · obtain ⟨node, heldBefore, rfl⟩ := Option.map_eq_some_iff.mp held
    exact ⟨node, ⟨⟨earlier, before, heldBefore⟩, plain, short⟩, rfl⟩

/-- Whatever names lead to in what is left, they led to before. -/
theorem Leads.of_pruned {links left : Nat} {place reached : Place} {names : List Text} {node : Node}
    (leads : (tree.pruned gone).Leads links place names left reached node) :
    ∃ stood, tree.Leads links place names left reached stood ∧
      node = stood.without gone reached := by
  induction leads with
  | here stands =>
    obtain ⟨stood, before, same⟩ := exists_of_at?_pruned stands
    exact ⟨stood, .here before, same⟩
  | up inside _ inductionHypothesis =>
    obtain ⟨above, before, same⟩ := exists_of_at?_pruned inside
    obtain ⟨entries, rfl, -⟩ := exists_of_directory_eq_without gone same
    obtain ⟨stood, onward, sameEnd⟩ := inductionHypothesis
    exact ⟨stood, .up before onward, sameEnd⟩
  | enter holds _ inductionHypothesis =>
    obtain ⟨inner, before, same⟩ := exists_of_holds_pruned holds
    obtain ⟨entries, rfl, -⟩ := exists_of_directory_eq_without gone same
    obtain ⟨stood, onward, sameEnd⟩ := inductionHypothesis
    exact ⟨stood, .enter before onward, sameEnd⟩
  | file holds =>
    obtain ⟨stood, before, same⟩ := exists_of_holds_pruned holds
    cases stood with
    | directory entries => cases same
    | file content =>
      cases same
      exact ⟨_, .file before, rfl⟩
    | link target => cases same
  | cross holds _ inductionHypothesis =>
    obtain ⟨crossed, before, same⟩ := exists_of_holds_pruned holds
    obtain ⟨stood, onward, sameEnd⟩ := inductionHypothesis
    cases crossed with
    | directory entries => cases same
    | file content => cases same
    | link target =>
      cases same
      exact ⟨stood, .cross before onward, sameEnd⟩

/-- No directory is gone. -/
def LosesNoDirectory (tree : Node) (gone : Place → Bool) : Prop :=
  ∀ place entries, gone place = true → tree.at? place ≠ some (.directory entries)

/-- If no directory is gone, what is not gone itself stands where it stood. -/
theorem LosesNoDirectory.at? (files : tree.LosesNoDirectory gone) {place : Place} {node : Node}
    (stands : tree.at? place = some node) (kept : gone place = false) :
    (tree.pruned gone).at? place = some (node.without gone place) := by
  have keeps := keeps_of_at? gone tree [] place node files stands (.inr kept)
  exact (at?_without_eq_some_iff gone [] place tree _).mpr ⟨keeps, node, stands, rfl⟩

/-- Of the nodes that are wanted, directories among them, none is lost: what is gone is none, and a
link that is gone leads to none as long as fewer links may be followed than a number. -/
structure Spares (tree : Node) (gone : Place → Bool) (wanted : Node → Prop) (links : Nat) :
    Prop where
  directories : ∀ entries, wanted (.directory entries)
  own : ∀ place node, gone place = true → tree.at? place = some node → ¬ wanted node
  across : ∀ above name target fewer left reached node, gone (above ++ [name]) = true →
    tree.Holds above name (.link target) → fewer < links →
    tree.Leads fewer (startOf above (.ofText target)) (Path.ofText target).parts left reached node →
    ¬ wanted node

section
variable {wanted : Node → Prop} {most : Nat} (spares : tree.Spares gone wanted most)
include spares

/-- Directories are wanted, so none is gone. -/
theorem Spares.losesNoDirectory : tree.LosesNoDirectory gone :=
  fun place entries lost stands => spares.own place _ lost stands (spares.directories entries)

/-- A wanted node stands where it stood. -/
theorem Spares.at? {place : Place} {node : Node} (stands : tree.at? place = some node)
    (needed : wanted node) : (tree.pruned gone).at? place = some (node.without gone place) :=
  spares.losesNoDirectory.at? stands
    (Bool.eq_false_iff.mpr fun lost => spares.own place node lost stands needed)

/-- A name that is not gone stands for what it stood for. -/
theorem Spares.holds {place : Place} {name : Text} {node : Node}
    (holds : tree.Holds place name node) (kept : gone (place ++ [name]) = false) :
    (tree.pruned gone).Holds place name (node.without gone (place ++ [name])) := by
  obtain ⟨⟨entries, inside, held⟩, plain, short⟩ := holds
  have insideStill := spares.at? inside (spares.directories entries)
  refine ⟨⟨entriesWithout gone place entries, insideStill, ?_⟩, plain, short⟩
  rw [get?_entriesWithout, kept, held]
  rfl

/-- Names that lead to a wanted node lead there still. -/
theorem Spares.leads {links left : Nat} {place reached : Place} {names : List Text} {node : Node}
    (leads : tree.Leads links place names left reached node) (few : links ≤ most)
    (needed : wanted node) :
    (tree.pruned gone).Leads links place names left reached (node.without gone reached) := by
  have keptOf {above : Place} {name : Text} {found : Node} (holds : tree.Holds above name found)
      (useful : wanted found) : gone (above ++ [name]) = false :=
    Bool.eq_false_iff.mpr fun lost => spares.own _ found lost holds.at? useful
  induction leads with
  | here stands => exact .here (spares.at? stands needed)
  | up inside _ inductionHypothesis =>
    exact .up (spares.at? inside (spares.directories _)) (inductionHypothesis few needed)
  | enter holds _ inductionHypothesis =>
    have kept := keptOf holds (spares.directories _)
    exact .enter (spares.holds holds kept) (inductionHypothesis few needed)
  | file holds => exact .file (spares.holds holds (keptOf holds needed))
  | @cross links _ place _ name target rest node holds onward inductionHypothesis =>
    have kept : gone (place ++ [name]) = false := by
      -- What the link leads to is wanted itself, or is a directory that the other names go on from.
      refine Bool.eq_false_iff.mpr fun lost => ?_
      obtain ⟨between, middle, stop, toTarget, further⟩ := onward.split
      have useful : wanted stop := by
        cases rest with
        | nil =>
          cases further with
          | here stands =>
            obtain rfl := Option.some.inj (stands.symm.trans toTarget.at?)
            exact needed
        | cons next rest =>
          obtain ⟨entries, inside⟩ := further.directory
          obtain rfl := Option.some.inj (inside.symm.trans toTarget.at?)
          exact spares.directories entries
      exact spares.across place name target links _ _ _ lost holds few toTarget useful
    exact .cross (spares.holds holds kept) (inductionHypothesis (Nat.le_of_succ_le few) needed)

end

end

end TagAudit.Node
