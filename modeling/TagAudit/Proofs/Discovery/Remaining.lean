import TagAudit.Proofs.Discovery
import TagAudit.Proofs.FileTree.Pruning
import TagAudit.Proofs.Text.Order

/-!
# What discovery finds when files are gone

A found name leads through directories to a file or a link. So when files and links are gone from a
tree, and the paths that are left lead to directories where they did, discovery finds what it found
before but for what is gone, and finds it in the same order.
-/

namespace TagAudit

/-- A text takes up as many bytes as its parts. -/
theorem Text.byteCount_append (front t : Text) :
    (front ++ t).byteCount = front.byteCount + t.byteCount := by
  have shifted (t : Text) (n : Nat) :
      t.foldl (fun n c => n + c.byteCount) n = n + t.byteCount := by
    induction t generalizing n with
    | nil => rfl
    | cons c rest inductionHypothesis =>
      rw [Text.byteCount, List.foldl_cons, List.foldl_cons, inductionHypothesis,
        inductionHypothesis (0 + c.byteCount)]
      omega
  rw [Text.byteCount, List.foldl_append, shifted]
  rfl

/-- What can be spelled behind something can be spelled. -/
theorem Text.pathProblem?_append (front t : Text) (spelled : (front ++ t).pathProblem? = none) :
    t.pathProblem? = none := by
  simp only [Text.pathProblem?, List.any_append, Text.byteCount_append] at spelled ⊢
  split at spelled
  · cases spelled
  · split at spelled
    · cases spelled
    · split at spelled
      · cases spelled
      · rename_i bytes nulls short
        simp only [Bool.or_eq_true, not_or] at bytes nulls
        rw [if_neg bytes.2, if_neg nulls.2, if_neg (by omega)]

namespace Search

open Node

/-- Names that can be spelled while they are searched make a path that can be looked up. -/
theorem pathProblem?_of_spelling {root : Path} {names : List Text}
    (spelled : (Search.spelling root names).pathProblem? = none) :
    (root.below names).toText.pathProblem? = none := by
  rw [Search.spelling] at spelled
  split at spelled
  · exact Text.pathProblem?_append _ _ spelled
  · exact spelled

section
variable {search : Search} {leadsToDirectory : List Text → Bool} {tree : Node}

/-- Names that were found lead through directories, with no link on the way, to a name that stands
for a file or for a link to something else than a directory. -/
theorem Finds.way (proper : tree.isProper) {above names : List Text} {base : Place}
    {entries : List (Text × Node)} (stands : tree.at? base = some (.directory entries))
    (found : Finds search leadsToDirectory above entries names) :
    ∃ between name node, names = between ++ [name] ∧ tree.Holds (base ++ between) name node ∧
      (∀ links, ∃ inner, tree.Leads links base between links (base ++ between) (.directory inner)) ∧
      ((∃ content, node = .file content) ∨
        ∃ target, node = .link target ∧ leadsToDirectory (above ++ names) = false) := by
  induction found generalizing base with
  | file name content held ending =>
    have holds := holds_of_mem proper stands held
    refine ⟨[], name, _, rfl, by simpa using holds, fun links => ?_, .inl ⟨content, rfl⟩⟩
    rw [List.append_nil]
    exact ⟨_, .here stands⟩
  | link name target held ending elsewhere =>
    have holds := holds_of_mem proper stands held
    refine ⟨[], name, _, rfl, by simpa using holds, fun links => ?_,
      .inr ⟨target, rfl, elsewhere⟩⟩
    rw [List.append_nil]
    exact ⟨_, .here stands⟩
  | deeper name inner names held kept entered found inductionHypothesis =>
    have holds := holds_of_mem proper stands held
    obtain ⟨between, last, node, rfl, holdsLast, way, kind⟩ := inductionHypothesis holds.at?
    refine ⟨name :: between, last, node, rfl, by simpa using holdsLast, fun links => ?_,
      by simpa using kind⟩
    obtain ⟨deepest, leads⟩ := way links
    exact ⟨deepest, by simpa using Leads.enter holds leads⟩

mutual
/-- Through an entry that is left, what is left is found. -/
theorem underEntry_without (search : Search) (leadsToDirectory : List Text → Bool)
    (gone : Place → Bool) (proper : tree.isProper) (files : tree.LosesNoDirectory gone)
    (base : Place) (above : List Text) (name : Text) (node : Node)
    (stands : tree.at? (base ++ [name]) = some node) (kept : gone (base ++ [name]) = false) :
    underEntry search leadsToDirectory above name (node.without gone (base ++ [name])) =
      (underEntry search leadsToDirectory above name node).filter
        fun names => !gone (base ++ names) := by
  cases node with
  | file content =>
    rw [without, underEntry]
    split <;> simp [kept]
  | link target =>
    rw [without, underEntry]
    split <;> simp [kept]
  | directory inner =>
    have below := underEntries_without search leadsToDirectory gone proper files (base ++ [name])
      (above ++ [name]) inner fun entry held => (holds_of_mem proper stands held).at?
    rw [without, underEntry, underEntry, below]
    split
    · rfl
    · rw [List.filter_map]
      congr 2
      funext names
      simp

/-- Among the entries that are left, what is left is found. -/
theorem underEntries_without (search : Search) (leadsToDirectory : List Text → Bool)
    (gone : Place → Bool) (proper : tree.isProper) (files : tree.LosesNoDirectory gone)
    (base : Place) (above : List Text) (entries : List (Text × Node))
    (stand : ∀ entry ∈ entries, tree.at? (base ++ [entry.1]) = some entry.2) :
    underEntries search leadsToDirectory above (entriesWithout gone base entries) =
      (underEntries search leadsToDirectory above entries).filter
        fun names => !gone (base ++ names) := by
  cases entries with
  | nil => rfl
  | cons entry rest =>
    obtain ⟨name, node⟩ := entry
    have stands := stand (name, node) List.mem_cons_self
    have later := underEntries_without search leadsToDirectory gone proper files base above rest
      fun entry held => stand entry (List.mem_cons_of_mem _ held)
    rw [entriesWithout, underEntries, List.filter_append]
    cases lost : gone (base ++ [name]) with
    | true =>
      -- What is gone is no directory, so it was found as itself if it was found.
      have none : (underEntry search leadsToDirectory above name node).filter
          (fun names => !gone (base ++ names)) = [] := by
        cases node with
        | directory inner => exact (files _ _ lost stands).elim
        | file content =>
          rw [underEntry]
          split <;> simp [lost]
        | link target =>
          rw [underEntry]
          split <;> simp [lost]
      rw [none]
      simpa using later
    | false =>
      have first := underEntry_without search leadsToDirectory gone proper files base above name
        node stands lost
      rw [if_neg Bool.false_ne_true, underEntries, first, later]
end

/-- Only where a root leads to a directory can anything be searched. -/
theorem exists_directory_of_run {workingPlace : Place} {root : Path} {paths : List Path}
    (searched : search.run tree workingPlace root = .ok paths) :
    ∃ place entries, tree.find workingPlace root = .ok (place, .directory entries) := by
  rw [run] at searched
  split at searched
  · cases searched
  · cases searched
  · rename_i place entries led
    exact ⟨place, entries, led⟩
  · cases searched

/-- A search whose root is seen to lead to a directory, with class files that are listed in order,
returns these. -/
theorem run_of_listed {workingPlace : Place} {root : Path} {paths : List Path}
    (listed : (tree.find workingPlace root).toOption.bind (fun found =>
      if found.2.isDirectory then some ((search.underEntries
        (Search.leadsToDirectory tree workingPlace root) [] found.2.entries).map root.below)
      else none) = some paths)
    (inOrder : paths.Pairwise fun first second => Path.precedes first second = true) :
    search.run tree workingPlace root = .ok paths := by
  rw [run]
  cases led : tree.find workingPlace root with
  | error problem => simp [led, Except.toOption] at listed
  | ok found =>
    obtain ⟨place, node⟩ := found
    cases node with
    | directory entries =>
      obtain rfl : _ = paths := by
        simpa [led, Except.toOption, isDirectory, Node.entries] using listed
      exact congrArg Except.ok (List.mergeSort_of_pairwise inOrder)
    | file content => simp [led, Except.toOption, isDirectory] at listed
    | link target => simp [led, Except.toOption, isDirectory] at listed

/-- The names that lead to a path from a root above it. -/
def namesBelow (root path : Path) : List Text := path.parts.drop root.parts.length

/-- Names that were put behind a root lead to the path. -/
@[simp]
theorem namesBelow_below (root : Path) (names : List Text) :
    namesBelow root (root.below names) = names := by
  simp [namesBelow, Path.below]

/-- A search of what is left finds what is left of what it found, in the same order, if the root and
the paths below it lead to directories where they did. -/
theorem run_pruned (search : Search) (gone : Place → Bool) (proper : tree.isProper)
    (files : tree.LosesNoDirectory gone) {workingPlace place : Place} {root : Path}
    {entries : List (Text × Node)}
    (led : tree.find workingPlace root = .ok (place, .directory entries))
    (ledStill : (tree.pruned gone).find workingPlace root =
      .ok (place, .directory (entriesWithout gone place entries)))
    (same : Search.leadsToDirectory (tree.pruned gone) workingPlace root =
      Search.leadsToDirectory tree workingPlace root)
    {paths : List Path} (searched : search.run tree workingPlace root = .ok paths) :
    search.run (tree.pruned gone) workingPlace root =
      .ok (paths.filter fun path => !gone (place ++ namesBelow root path)) := by
  have stands : tree.at? place = some (.directory entries) := by
    obtain ⟨-, left, leads⟩ := (find_eq_ok_iff tree workingPlace root _ _).mp led
    exact leads.at?
  have listed := underEntries_without search (Search.leadsToDirectory tree workingPlace root) gone
    proper files place [] entries fun entry held => (holds_of_mem proper stands held).at?
  rw [run, led] at searched
  obtain rfl := Except.ok.inj searched
  rw [run, ledStill]
  dsimp only
  rw [same, listed]
  have alike : ∀ path ∈ (search.underEntries (Search.leadsToDirectory tree workingPlace root) []
      entries).map root.below, path.slashes = root.slashes := by
    intro path among
    obtain ⟨names, -, rfl⟩ := List.mem_map.mp among
    rfl
  rw [← Path.mergeSort_filter _ _ root.slashes alike, List.filter_map]
  refine congrArg (fun names => Except.ok ((List.map root.below names).mergeSort Path.precedes)) ?_
  exact List.filter_congr fun names _ => by simp

end

end Search

end TagAudit
