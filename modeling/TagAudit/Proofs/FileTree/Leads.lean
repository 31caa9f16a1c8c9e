import TagAudit.FileTree
import TagAudit.Proofs.Keyed

/-!
# Where look-ups lead

A look-up that succeeds goes from a place through names to a node: into directories, up again, to a
file under the last name, and across links, what a link holds taking the place of its name. This is
a relation between places, which also counts the links that may still be followed, and looking names
up decides it.

So look-ups may be taken apart and put together: names may be looked up in two parts, the second
from where the first leads, and a look-up that may follow more links leads to the same node.
-/

namespace TagAudit.Node

/-- What stands under the names of two places in turn. -/
theorem at?_append (tree : Node) (place names : Place) :
    tree.at? (place ++ names) = (tree.at? place).bind fun node => node.at? names := by
  induction place generalizing tree with
  | nil => rfl
  | cons name rest inductionHypothesis =>
    rw [List.cons_append, at?, at?, Option.bind_assoc]
    exact congrArg _ (funext inductionHypothesis)

/-- In a directory a name that can be looked up stands for a node. -/
structure Holds (tree : Node) (place : Place) (name : Text) (node : Node) : Prop where
  inside : ∃ entries, tree.at? place = some (.directory entries) ∧
    Keyed.get? name entries = some node
  plain : name ≠ Path.up
  short : name.byteCount ≤ nameLimit

/-- What a name stands for stands at the place with that name. -/
theorem Holds.at? {tree : Node} {place : Place} {name : Text} {node : Node}
    (holds : tree.Holds place name node) : tree.at? (place ++ [name]) = some node := by
  obtain ⟨entries, stands, held⟩ := holds.inside
  rw [at?_append, stands, Option.bind_some, Node.at?, Node.entries, held]
  rfl

/-- A name stands for one node. -/
theorem Holds.unique {tree : Node} {place : Place} {name : Text} {node other : Node}
    (holds : tree.Holds place name node) (holdsOther : tree.Holds place name other) :
    node = other :=
  Option.some.inj (holds.at?.symm.trans holdsOther.at?)

mutual
/-- Whether a file system can hold a tree as far as names go: in no directory is a name held twice,
none is the one for the directory above, and none is too long. -/
def isProper : Node → Bool
  | directory entries => entriesProper entries
  | _ => true

/-- Whether a file system can hold entries. -/
def entriesProper : List (Text × Node) → Bool
  | [] => true
  | (name, node) :: rest =>
    name != Path.up && decide (name.byteCount ≤ nameLimit) && !(Keyed.keys rest).contains name
      && node.isProper && entriesProper rest
end

/-- A file system can hold an entry before others if it can hold these, and the name stands only
for the node. -/
theorem entriesProper_cons_iff (name : Text) (node : Node) (rest : List (Text × Node)) :
    entriesProper ((name, node) :: rest) = true ↔
      (name ≠ Path.up ∧ name.byteCount ≤ nameLimit) ∧ name ∉ Keyed.keys rest ∧
        node.isProper ∧ entriesProper rest := by
  simp [entriesProper, and_assoc]

/-- Entries that a file system can hold are found by their names, and can be looked up. -/
theorem of_entriesProper {entries : List (Text × Node)} (proper : entriesProper entries)
    {name : Text} {node : Node} (held : (name, node) ∈ entries) :
    Keyed.get? name entries = some node ∧ name ≠ Path.up ∧ name.byteCount ≤ nameLimit ∧
      node.isProper := by
  induction entries with
  | nil => cases held
  | cons entry rest inductionHypothesis =>
    obtain ⟨first, found⟩ := entry
    obtain ⟨⟨plain, short⟩, once, properNode, properRest⟩ :=
      (entriesProper_cons_iff first found rest).mp proper
    rcases List.mem_cons.mp held with same | later
    · cases same
      exact ⟨by simp [Keyed.get?], plain, short, properNode⟩
    · obtain ⟨found, others⟩ := inductionHypothesis properRest later
      have different : first ≠ name := by
        rintro rfl
        exact once (List.mem_map.mpr ⟨_, later, rfl⟩)
      exact ⟨by simp [Keyed.get?, different, found], others⟩

/-- What stands in a tree that a file system can hold, it can hold as well. -/
theorem isProper_of_at? {tree node : Node} {place : Place} (proper : tree.isProper)
    (stands : tree.at? place = some node) : node.isProper := by
  induction place generalizing tree with
  | nil =>
    obtain rfl := Option.some.inj stands
    exact proper
  | cons name rest inductionHypothesis =>
    rw [Node.at?] at stands
    cases tree with
    | file content => cases stands
    | link target => cases stands
    | directory entries =>
      obtain ⟨below, found, further⟩ := Option.bind_eq_some_iff.mp stands
      rw [isProper] at proper
      have held := Keyed.mem_of_get?_eq_some name below entries found
      exact inductionHypothesis (of_entriesProper proper held).2.2.2 further

/-- An entry of a directory in such a tree can be looked up. -/
theorem holds_of_mem {tree node : Node} {place : Place} {entries : List (Text × Node)} {name : Text}
    (proper : tree.isProper) (stands : tree.at? place = some (.directory entries))
    (held : (name, node) ∈ entries) : tree.Holds place name node := by
  have properEntries := isProper_of_at? proper stands
  rw [isProper] at properEntries
  obtain ⟨found, plain, short, -⟩ := of_entriesProper properEntries held
  exact ⟨⟨entries, stands, found⟩, plain, short⟩

/-- Names lead from a place to a node at a place. The numbers are those of the links that may still
be followed at the beginning and at the end. -/
inductive Leads (tree : Node) : Nat → Place → List Text → Nat → Place → Node → Prop where
  | here {links : Nat} {place : Place} {node : Node} (stands : tree.at? place = some node) :
      Leads tree links place [] links place node
  | up {links left : Nat} {place reached : Place} {entries : List (Text × Node)}
      {rest : List Text} {node : Node} (inside : tree.at? place = some (.directory entries))
      (onward : Leads tree links place.dropLast rest left reached node) :
      Leads tree links place (Path.up :: rest) left reached node
  | enter {links left : Nat} {place reached : Place} {inner : List (Text × Node)} {name : Text}
      {rest : List Text} {node : Node} (holds : tree.Holds place name (.directory inner))
      (onward : Leads tree links (place ++ [name]) rest left reached node) :
      Leads tree links place (name :: rest) left reached node
  | file {links : Nat} {place : Place} {name : Text} {content : List UInt8}
      (holds : tree.Holds place name (.file content)) :
      Leads tree links place [name] links (place ++ [name]) (.file content)
  | cross {links left : Nat} {place reached : Place} {name target : Text} {rest : List Text}
      {node : Node} (holds : tree.Holds place name (.link target))
      (onward : Leads tree links (startOf place (.ofText target))
        ((Path.ofText target).parts ++ rest) left reached node) :
      Leads tree (links + 1) place (name :: rest) left reached node

/-- What has a directory below it is a directory. -/
theorem exists_entries_of_at? {node : Node} {names : Place} {inner : List (Text × Node)}
    (stands : node.at? names = some (.directory inner)) :
    ∃ entries, node = .directory entries := by
  cases node with
  | directory entries => exact ⟨entries, rfl⟩
  | file content => cases names <;> cases stands
  | link target => cases names <;> cases stands

section
variable {tree : Node} {links left : Nat} {place reached : Place} {names rest : List Text}
  {node : Node}

/-- The names of directories lead into one another without links. -/
theorem leads_of_at? (proper : tree.isProper) {inner : List (Text × Node)} (links : Nat)
    (stands : tree.at? (place ++ names) = some (.directory inner)) :
    tree.Leads links place names links (place ++ names) (.directory inner) := by
  induction names generalizing place with
  | nil =>
    rw [List.append_nil] at stands ⊢
    exact .here stands
  | cons name rest inductionHypothesis =>
    have behind : place ++ name :: rest = place ++ [name] ++ rest :=
      List.append_cons place name rest
    rw [behind] at stands ⊢
    have onward := inductionHypothesis stands
    rw [at?_append, at?_append] at stands
    obtain ⟨below, entered, further⟩ := Option.bind_eq_some_iff.mp stands
    obtain ⟨above, stood, named⟩ := Option.bind_eq_some_iff.mp entered
    obtain ⟨entries, rfl⟩ := exists_entries_of_at? further
    obtain ⟨others, rfl⟩ := exists_entries_of_at? named
    obtain ⟨_, found, same⟩ := Option.bind_eq_some_iff.mp named
    obtain rfl := Option.some.inj same
    exact .enter (holds_of_mem proper stood (Keyed.mem_of_get?_eq_some _ _ _ found)) onward

/-- A node that is led to stands where it is led to. -/
theorem Leads.at? (leads : tree.Leads links place names left reached node) :
    tree.at? reached = some node := by
  induction leads with
  | here stands => exact stands
  | up _ _ inductionHypothesis => exact inductionHypothesis
  | enter _ _ inductionHypothesis => exact inductionHypothesis
  | file holds => exact holds.at?
  | cross _ _ inductionHypothesis => exact inductionHypothesis

/-- Only from a directory do names lead anywhere. -/
theorem Leads.directory {name : Text}
    (leads : tree.Leads links place (name :: rest) left reached node) :
    ∃ entries, tree.at? place = some (.directory entries) := by
  cases leads with
  | up inside => exact ⟨_, inside⟩
  | enter holds => exact ⟨_, holds.inside.choose_spec.1⟩
  | file holds => exact ⟨_, holds.inside.choose_spec.1⟩
  | cross holds => exact ⟨_, holds.inside.choose_spec.1⟩

/-- Names lead to one node only, and leave one number of links. -/
theorem Leads.unique {leftToo : Nat} {reachedToo : Place} {nodeToo : Node}
    (leads : tree.Leads links place names left reached node)
    (leadsToo : tree.Leads links place names leftToo reachedToo nodeToo) :
    left = leftToo ∧ reached = reachedToo ∧ node = nodeToo := by
  induction leads with
  | here stands =>
    cases leadsToo with
    | here standsToo => exact ⟨rfl, rfl, Option.some.inj (stands.symm.trans standsToo)⟩
  | up inside _ inductionHypothesis =>
    cases leadsToo with
    | up insideToo onward => exact inductionHypothesis onward
    | enter holds => exact (holds.plain rfl).elim
    | file holds => exact (holds.plain rfl).elim
    | cross holds => exact (holds.plain rfl).elim
  | enter holds _ inductionHypothesis =>
    cases leadsToo with
    | up => exact (holds.plain rfl).elim
    | enter holdsToo onward => exact inductionHypothesis onward
    | file holdsToo => cases holds.unique holdsToo
    | cross holdsToo => cases holds.unique holdsToo
  | file holds =>
    cases leadsToo with
    | up => exact (holds.plain rfl).elim
    | enter holdsToo => cases holds.unique holdsToo
    | file holdsToo => exact ⟨rfl, rfl, holds.unique holdsToo⟩
    | cross holdsToo => cases holds.unique holdsToo
  | cross holds _ inductionHypothesis =>
    cases leadsToo with
    | up => exact (holds.plain rfl).elim
    | enter holdsToo => cases holds.unique holdsToo
    | file holdsToo => cases holds.unique holdsToo
    | cross holdsToo onward =>
      cases holds.unique holdsToo
      exact inductionHypothesis onward

/-- More links that may be followed make no difference but that more are left. -/
theorem Leads.more (leads : tree.Leads links place names left reached node) (more : Nat) :
    tree.Leads (links + more) place names (left + more) reached node := by
  induction leads with
  | here stands => exact .here stands
  | up inside _ inductionHypothesis => exact .up inside inductionHypothesis
  | enter holds _ inductionHypothesis => exact .enter holds inductionHypothesis
  | file holds => exact .file holds
  | cross holds _ inductionHypothesis =>
    rw [Nat.add_right_comm]
    exact .cross holds inductionHypothesis

/-- Something stands wherever names are looked up from. -/
theorem Leads.start (leads : tree.Leads links place names left reached node) :
    ∃ start, tree.at? place = some start := by
  cases names with
  | nil =>
    cases leads with
    | here stands => exact ⟨_, stands⟩
  | cons name rest =>
    obtain ⟨entries, inside⟩ := leads.directory
    exact ⟨_, inside⟩

/-- Names that lead to a node may be looked up in two parts. -/
theorem Leads.split {first others : List Text}
    (leads : tree.Leads links place (first ++ others) left reached node) :
    ∃ between middle stop, tree.Leads links place first between middle stop ∧
      tree.Leads between middle others left reached node := by
  generalize joined : first ++ others = names at leads
  induction leads generalizing first with
  | here stands =>
    obtain ⟨rfl, rfl⟩ := List.append_eq_nil_iff.mp joined
    exact ⟨_, _, _, .here stands, .here stands⟩
  | up inside onward inductionHypothesis =>
    cases first with
    | nil =>
      obtain rfl : others = _ := joined
      exact ⟨_, _, _, .here inside, .up inside onward⟩
    | cons name first =>
      obtain ⟨rfl, behind⟩ := List.cons.inj joined
      obtain ⟨between, middle, stop, before, after⟩ := inductionHypothesis behind
      exact ⟨between, middle, stop, .up inside before, after⟩
  | enter holds onward inductionHypothesis =>
    cases first with
    | nil =>
      obtain rfl : others = _ := joined
      exact ⟨_, _, _, .here holds.inside.choose_spec.1, .enter holds onward⟩
    | cons name first =>
      obtain ⟨rfl, behind⟩ := List.cons.inj joined
      obtain ⟨between, middle, stop, before, after⟩ := inductionHypothesis behind
      exact ⟨between, middle, stop, .enter holds before, after⟩
  | file holds =>
    cases first with
    | nil =>
      obtain rfl : others = _ := joined
      exact ⟨_, _, _, .here holds.inside.choose_spec.1, .file holds⟩
    | cons name first =>
      obtain ⟨rfl, behind⟩ := List.cons.inj joined
      obtain ⟨rfl, rfl⟩ := List.append_eq_nil_iff.mp behind
      exact ⟨_, _, _, .file holds, .here holds.at?⟩
  | @cross _ _ _ _ _ target _ _ holds onward inductionHypothesis =>
    cases first with
    | nil =>
      obtain rfl : others = _ := joined
      exact ⟨_, _, _, .here holds.inside.choose_spec.1, .cross holds onward⟩
    | cons name first =>
      obtain ⟨rfl, rfl⟩ := List.cons.inj joined
      obtain ⟨between, middle, stop, before, after⟩ := inductionHypothesis
        (List.append_assoc (Path.ofText target).parts first others)
      exact ⟨between, middle, stop, .cross holds before, after⟩

/-- Names that are looked up from where others lead may be looked up behind them. -/
theorem Leads.append {between : Nat} {middle : Place} {stop : Node} {first others : List Text}
    (before : tree.Leads links place first between middle stop)
    (after : tree.Leads between middle others left reached node) :
    tree.Leads links place (first ++ others) left reached node := by
  induction before with
  | here stands => exact after
  | up inside _ inductionHypothesis => exact .up inside (inductionHypothesis after)
  | enter holds _ inductionHypothesis => exact .enter holds (inductionHypothesis after)
  | file holds =>
    cases others with
    | nil =>
      cases after with
      | here stands =>
        obtain rfl := Option.some.inj (stands.symm.trans holds.at?)
        exact .file holds
    | cons name rest =>
      obtain ⟨entries, inside⟩ := after.directory
      cases inside.symm.trans holds.at?
  | cross holds _ inductionHypothesis =>
    have onward := inductionHypothesis after
    rw [List.append_assoc] at onward
    exact .cross holds onward

end

section
variable (tree : Node)

/-- Looking up goes on alike from where names lead without links. -/
theorem reach_congr {place start : Place} {names others : List Text} (links : Nat)
    (same : advance tree true place names = advance tree true start others) :
    reach tree true links place names = reach tree true links start others := by
  cases links <;> rw [reach, reach, same]

section
variable {tree} {place : Place} {name : Text}

/-- A name that stands for a directory leads into it. -/
theorem Holds.advance_directory {inner : List (Text × Node)}
    (holds : tree.Holds place name (.directory inner)) (rest : List Text) :
    advance tree true place (name :: rest) = advance tree true (place ++ [name]) rest := by
  obtain ⟨⟨entries, stands, held⟩, plain, short⟩ := holds
  simp [advance, stands, plain, Nat.not_lt.mpr short, held]

/-- A last name that stands for a file leads to it. -/
theorem Holds.advance_file {content : List UInt8} (holds : tree.Holds place name (.file content)) :
    advance tree true place [name] = .node (place ++ [name]) (.file content) := by
  obtain ⟨⟨entries, stands, held⟩, plain, short⟩ := holds
  simp [advance, stands, plain, Nat.not_lt.mpr short, held]

/-- A name that stands for a link leads across it. -/
theorem Holds.advance_link {target : Text} (holds : tree.Holds place name (.link target))
    (rest : List Text) :
    advance tree true place (name :: rest) = .crossing place target rest := by
  obtain ⟨⟨entries, stands, held⟩, plain, short⟩ := holds
  simp [advance, stands, plain, Nat.not_lt.mpr short, held]

end

/-- Where names lead without links, and what they lead to across one. -/
def Onward (place : Place) (names : List Text) : Reached → Prop
  | .node reached node => ∀ links, tree.Leads links place names links reached node
  | .crossing above target rest => ∀ links left reached node,
    tree.Leads links (startOf above (.ofText target)) ((Path.ofText target).parts ++ rest) left
      reached node → tree.Leads (links + 1) place names left reached node
  | _ => True

/-- What names lead to is what others lead to that go on with them. -/
theorem Onward.behind {tree : Node} {place start : Place} {names others : List Text}
    {reached : Reached} (onward : Onward tree start others reached)
    (prolonged : ∀ {links left reached node}, tree.Leads links start others left reached node →
      tree.Leads links place names left reached node) : Onward tree place names reached := by
  cases reached with
  | node reached node => exact fun links => prolonged (onward links)
  | crossing above target rest =>
    exact fun links left reached node leads => prolonged (onward links left reached node leads)
  | vacancy => trivial
  | blocked => trivial

/-- Going from a directory through names goes where they lead. -/
theorem onward_advance (place : Place) (names : List Text) :
    Onward tree place names (advance tree true place names) := by
  induction names generalizing place with
  | nil =>
    rw [advance]
    cases stands : tree.at? place with
    | none => trivial
    | some node => exact fun links => .here stands
  | cons name rest inductionHypothesis =>
    cases stands : tree.at? place with
    | none => simp [advance, stands, Onward]
    | some node =>
      cases node with
      | file content => simp [advance, stands, Onward]
      | link target => simp [advance, stands, Onward]
      | directory entries =>
        by_cases plain : name = Path.up
        · subst plain
          have step : advance tree true place (Path.up :: rest) =
              advance tree true place.dropLast rest := by
            simp [advance, stands]
          rw [step]
          exact (inductionHypothesis place.dropLast).behind fun leads => .up stands leads
        · by_cases short : name.byteCount ≤ nameLimit
          · cases held : Keyed.get? name entries with
            | none =>
              cases rest <;> simp [advance, stands, plain, Nat.not_lt.mpr short, held, Onward]
            | some node =>
              have holds : tree.Holds place name node := ⟨⟨entries, stands, held⟩, plain, short⟩
              cases node with
              | file content =>
                cases rest with
                | nil =>
                  rw [holds.advance_file]
                  exact fun links => .file holds
                | cons =>
                  simp [advance, stands, plain, Nat.not_lt.mpr short, held, Onward]
              | link target =>
                rw [holds.advance_link]
                exact fun links left reached node leads => .cross holds leads
              | directory inner =>
                rw [holds.advance_directory]
                exact (inductionHypothesis (place ++ [name])).behind fun leads =>
                  .enter holds leads
          · simp [advance, stands, plain, Nat.lt_of_not_le short, Onward]

/-- Names that lead to a node are looked up as it. -/
theorem Leads.reach_eq {tree : Node} {links left : Nat} {place reached : Place} {names : List Text}
    {node : Node} (leads : tree.Leads links place names left reached node) :
    reach tree true links place names = .node reached node := by
  induction leads with
  | @here links place node stands =>
    have led : advance tree true place [] = .node place node := by
      rw [advance, stands]
    cases links <;> rw [reach, led]
  | @up _ _ place _ _ rest _ inside _ inductionHypothesis =>
    have step : advance tree true place (Path.up :: rest) =
        advance tree true place.dropLast rest := by
      simp [advance, inside]
    rw [reach_congr tree _ step, inductionHypothesis]
  | enter holds _ inductionHypothesis =>
    rw [reach_congr tree _ (holds.advance_directory _), inductionHypothesis]
  | @file links _ _ _ holds =>
    cases links <;> rw [reach, holds.advance_file]
  | cross holds _ inductionHypothesis =>
    rw [reach, holds.advance_link]
    exact inductionHypothesis

/-- Looking names up comes to a node exactly if they lead there. -/
theorem reach_eq_node_iff (links : Nat) (place reached : Place) (names : List Text) (node : Node) :
    reach tree true links place names = .node reached node ↔
      ∃ left, tree.Leads links place names left reached node := by
  refine ⟨fun found => ?_, fun ⟨left, leads⟩ => leads.reach_eq⟩
  induction links generalizing place names with
  | zero =>
    have onward := onward_advance tree place names
    rw [reach] at found
    cases led : advance tree true place names with
    | node other stop =>
      rw [led] at found onward
      cases found
      exact ⟨0, onward 0⟩
    | _ =>
      rw [led] at found
      cases found
  | succ links inductionHypothesis =>
    have onward := onward_advance tree place names
    rw [reach] at found
    cases led : advance tree true place names with
    | node other stop =>
      rw [led] at found onward
      cases found
      exact ⟨links + 1, onward (links + 1)⟩
    | crossing above target rest =>
      rw [led] at found onward
      obtain ⟨left, leads⟩ := inductionHypothesis _ _ found
      exact ⟨left, onward links left reached node leads⟩
    | _ =>
      rw [led] at found
      cases found

/-- A path is found exactly if it is short enough to be looked up and its names lead to a node. -/
theorem find_eq_ok_iff (workingPlace : Place) (p : Path) (reached : Place) (node : Node) :
    tree.find workingPlace p = .ok (reached, node) ↔
      p.toText.pathProblem? = none ∧
        ∃ left, tree.Leads linkLimit (startOf workingPlace p) p.parts left reached node := by
  rw [find, lookUp, ← reach_eq_node_iff]
  cases p.toText.pathProblem? with
  | some problem => simp
  | none => cases reach tree true linkLimit (startOf workingPlace p) p.parts <;> simp

end

end TagAudit.Node
