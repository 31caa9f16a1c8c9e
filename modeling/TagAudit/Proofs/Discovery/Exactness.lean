import Mathlib.Data.List.Nodup
import TagAudit.Proofs.Discovery.Remaining
import TagAudit.Proofs.FileTree.Rearrangement

/-!
# Discovery finds each class file once, in one order

Which entries are class files below a root is said here by the places where they stand: a directory
that real directories lead to holds them. Discovery lists exactly these, each once, with their paths
in strictly increasing order. So the list is the same in whatever order the file system gives the
entries of directories.

A link that leads to a directory counts as one only under the path by which it is met. Where too
many links lie on the way to the root, or the path is too long, the link is a file and is listed.
-/

namespace TagAudit.Search

open Node

/-- An entry is a class file for a search. It stands in a directory to which real directories lead
from where the root leads; none of these is excluded, and all can be spelled while they are
searched. The entry has the right ending, and is a file or a link that is not met as a
directory. -/
structure IsClassFile (search : Search) (tree : Node) (workingPlace : Place) (root : Path)
    (place : Place) (between : List Text) (name : Text) : Prop where
  held : ∃ entries node, tree.at? (place ++ between) = some (.directory entries) ∧
    (name, node) ∈ entries ∧ ((∃ content, node = .file content) ∨
      ∃ target, node = .link target ∧
        ¬MeetsDirectory tree workingPlace root (between ++ [name]))
  ending : search.extension <:+ name
  kept : ∀ directory ∈ between, directory ∉ search.excluded
  listed : ∀ front, front <+: between → front ≠ [] → (spelling root front).pathProblem? = none

section
variable {search : Search} {tree start : Node} {workingPlace place : Place} {root : Path}

/-- A name has the right ending if it ends in it. -/
theorem endsWith_iff (name ending : Text) : name.endsWith ending = true ↔ ending <:+ name :=
  List.isSuffixOf_iff_suffix

section
variable (proper : tree.isProper) (led : tree.find workingPlace root = .ok (place, start))
include proper

/-- A real directory below a root is met as one if it can be spelled. -/
theorem meetsDirectory_of_at? (led : tree.find workingPlace root = .ok (place, start))
    {names : List Text} {inner : List (Text × Node)}
    (spelled : (spelling root names).pathProblem? = none)
    (stands : tree.at? (place ++ names) = some (.directory inner)) :
    MeetsDirectory tree workingPlace root names := by
  obtain ⟨-, left, leads⟩ := (find_eq_ok_iff tree workingPlace root place start).mp led
  have below := leads.append (leads_of_at? proper left stands)
  have found := (find_eq_ok_iff tree workingPlace (root.below names) _ _).mpr
    ⟨pathProblem?_of_spelling spelled, left, below⟩
  exact ⟨spelled, _, _, found⟩

/-- What is found is a class file, if the directories on the way were none but such as lead to class
files. -/
theorem Finds.isClassFile {above names : List Text} {entries : List (Text × Node)}
    (found : Finds search (leadsToDirectory tree workingPlace root) above entries names)
    (stands : tree.at? (place ++ above) = some (.directory entries))
    (kept : ∀ directory ∈ above, directory ∉ search.excluded)
    (listed : ∀ front, front <+: above → front ≠ [] → (spelling root front).pathProblem? = none) :
    ∃ between name, names = between ++ [name] ∧
      search.IsClassFile tree workingPlace root place (above ++ between) name := by
  induction found with
  | @file above entries name content held ending =>
    refine ⟨[], name, rfl, ?_⟩
    rw [List.append_nil]
    exact ⟨⟨entries, _, stands, held, .inl ⟨content, rfl⟩⟩, (endsWith_iff _ _).mp ending, kept,
      listed⟩
  | @link above entries name target held ending elsewhere =>
    refine ⟨[], name, rfl, ?_⟩
    rw [List.append_nil]
    have notMet : ¬MeetsDirectory tree workingPlace root (above ++ [name]) := by
      rw [← leadsToDirectory_eq_true_iff, elsewhere]
      exact Bool.false_ne_true
    exact ⟨⟨entries, _, stands, held, .inr ⟨target, rfl, notMet⟩⟩, (endsWith_iff _ _).mp ending,
      kept, listed⟩
  | @deeper above entries name inner names held keptName entered found inductionHypothesis =>
    have standsBelow : tree.at? (place ++ (above ++ [name])) = some (.directory inner) := by
      rw [← List.append_assoc]
      exact (holds_of_mem proper stands held).at?
    have keptBelow : ∀ directory ∈ above ++ [name], directory ∉ search.excluded := by
      intro directory among
      rcases List.mem_append.mp among with before | last
      · exact kept directory before
      · exact List.mem_singleton.mp last ▸ keptName
    have listedBelow : ∀ front, front <+: above ++ [name] → front ≠ [] →
        (spelling root front).pathProblem? = none := by
      intro front begins some
      rcases List.prefix_concat_iff.mp begins with rfl | before
      · exact ((leadsToDirectory_eq_true_iff tree workingPlace root _).mp entered).1
      · exact listed front before some
    obtain ⟨between, last, rfl, file⟩ := inductionHypothesis standsBelow keptBelow listedBelow
    exact ⟨name :: between, last, rfl, by simpa using file⟩

include led

/-- A class file is found from every directory on the way to it. -/
theorem IsClassFile.finds {above rest : List Text} {name : Text} {entries : List (Text × Node)}
    (file : search.IsClassFile tree workingPlace root place (above ++ rest) name)
    (stands : tree.at? (place ++ above) = some (.directory entries)) :
    Finds search (leadsToDirectory tree workingPlace root) above entries (rest ++ [name]) := by
  induction rest generalizing above entries with
  | nil =>
    rw [List.append_nil] at file
    obtain ⟨_, node, standsToo, held, kind⟩ := file.held
    obtain rfl := Node.directory.inj (Option.some.inj (stands.symm.trans standsToo))
    have ending := (endsWith_iff _ _).mpr file.ending
    rcases kind with ⟨content, rfl⟩ | ⟨target, rfl, notMet⟩
    · exact .file name content held ending
    · refine .link name target held ending (Bool.eq_false_iff.mpr fun met => ?_)
      exact notMet ((leadsToDirectory_eq_true_iff tree workingPlace root _).mp met)
  | cons directory rest inductionHypothesis =>
    have behind : above ++ directory :: rest = above ++ [directory] ++ rest :=
      List.append_cons above directory rest
    obtain ⟨_, _, deepest, -⟩ := file.held
    rw [behind, ← List.append_assoc, at?_append] at deepest
    obtain ⟨below, entered, further⟩ := Option.bind_eq_some_iff.mp deepest
    obtain ⟨inner, rfl⟩ := exists_entries_of_at? further
    have kept := file.kept directory (List.mem_append.mpr (.inr List.mem_cons_self))
    have front : above ++ [directory] <+: above ++ directory :: rest := ⟨rest, behind.symm⟩
    have spelled := file.listed (above ++ [directory]) front (by simp)
    have met := meetsDirectory_of_at? proper led spelled entered
    have held : (directory, Node.directory inner) ∈ entries := by
      rw [← List.append_assoc, at?_append, stands, Option.bind_some] at entered
      obtain ⟨_, found, same⟩ := Option.bind_eq_some_iff.mp entered
      obtain rfl := Option.some.inj same
      exact Keyed.mem_of_get?_eq_some directory _ entries found
    rw [behind] at file
    exact .deeper directory inner _ held kept
      ((leadsToDirectory_eq_true_iff tree workingPlace root _).mpr met)
      (inductionHypothesis file entered)

end

section
variable (search) (leads : List Text → Bool)

variable {search leads} in
/-- What is found among entries begins with the name of one of them. -/
theorem Finds.exists_key {above : List Text} {entries : List (Text × Node)} {names : List Text}
    (found : Finds search leads above entries names) :
    ∃ name rest, names = name :: rest ∧ name ∈ Keyed.keys entries := by
  cases found with
  | file name _ held _ => exact ⟨name, [], rfl, List.mem_map.mpr ⟨_, held, rfl⟩⟩
  | link name _ held _ _ => exact ⟨name, [], rfl, List.mem_map.mpr ⟨_, held, rfl⟩⟩
  | deeper name _ rest held _ _ _ => exact ⟨name, rest, rfl, List.mem_map.mpr ⟨_, held, rfl⟩⟩

mutual
/-- Through an entry nothing is found twice. -/
theorem nodup_underEntry (above : List Text) (name : Text) (node : Node) (proper : node.isProper) :
    (underEntry search leads above name node).Nodup := by
  cases node with
  | file content =>
    rw [underEntry]
    split <;> simp
  | link target =>
    rw [underEntry]
    split <;> simp
  | directory entries =>
    rw [isProper] at proper
    rw [underEntry]
    split
    · exact List.nodup_nil
    · exact (nodup_underEntries (above ++ [name]) entries proper).map (List.cons_injective)

/-- Among entries with distinct names nothing is found twice. -/
theorem nodup_underEntries (above : List Text) (entries : List (Text × Node))
    (proper : entriesProper entries) : (underEntries search leads above entries).Nodup := by
  cases entries with
  | nil => exact List.nodup_nil
  | cons entry rest =>
    obtain ⟨name, node⟩ := entry
    obtain ⟨-, once, properNode, properRest⟩ := (entriesProper_cons_iff name node rest).mp proper
    rw [underEntries, List.nodup_append]
    have here := nodup_underEntry above name node properNode
    have there := nodup_underEntries above rest properRest
    refine ⟨here, there, ?_⟩
    rintro names first _ later rfl
    -- What is found through the entry begins with its name, and no other entry has that.
    rw [mem_underEntry_iff] at first
    rw [mem_underEntries_iff] at later
    obtain ⟨_, _, rfl, alone⟩ := first.exists_key
    obtain ⟨_, _, same, among⟩ := later.exists_key
    obtain rfl := List.mem_singleton.mp alone
    exact once ((List.cons.inj same).1 ▸ among)
end

/-- What is found among entries is what is found through each of them. -/
theorem underEntries_eq_flatMap (above : List Text) (entries : List (Text × Node)) :
    underEntries search leads above entries =
      entries.flatMap fun entry => underEntry search leads above entry.1 entry.2 := by
  induction entries with
  | nil => rw [underEntries, List.flatMap_nil]
  | cons entry rest inductionHypothesis =>
    rw [underEntries, List.flatMap_cons, inductionHypothesis]

/-- In another order of entries the same is found, in another order. -/
theorem underEntries_perm {first second : Node} (rearranged : Rearranged first second)
    (above : List Text) : (underEntries search leads above first.entries).Perm
      (underEntries search leads above second.entries) := by
  induction rearranged generalizing above with
  | same node => exact .refl _
  | shuffled order =>
    rw [underEntries_eq_flatMap, underEntries_eq_flatMap]
    exact order.flatMap_right _
  | @inside name node other before after inner inductionHypothesis =>
    have entry : (underEntry search leads above name node).Perm
        (underEntry search leads above name other) := by
      rcases inner.alike with ⟨entries, others, rfl, rfl⟩ | rfl
      · rw [underEntry, underEntry]
        split
        · exact .refl _
        · exact (inductionHypothesis (above ++ [name])).map _
      · exact .refl _
    simp only [underEntries_eq_flatMap, Node.entries, List.flatMap_append, List.flatMap_cons]
    exact (entry.append_right _).append_left _
  | further forth onward forthPerm onwardPerm => exact (forthPerm above).trans (onwardPerm above)

end

/-- In another order of entries names are met as directories as before. -/
theorem leadsToDirectory_rearranged {other : Node} (proper : tree.isProper)
    (rearranged : tree.Rearranged other) (workingPlace : Place) (root : Path) :
    leadsToDirectory other workingPlace root = leadsToDirectory tree workingPlace root := by
  have meets {first second : Node} (properFirst : first.isProper)
      (changed : first.Rearranged second) {names : List Text}
      (met : MeetsDirectory first workingPlace root names) :
      MeetsDirectory second workingPlace root names := by
    obtain ⟨spelled, reached, inner, found⟩ := met
    obtain ⟨node, foundToo, same⟩ := changed.exists_find properFirst found
    obtain ⟨others, rfl⟩ := same.exists_others
    exact ⟨spelled, reached, others, foundToo⟩
  funext names
  rw [Bool.eq_iff_iff, leadsToDirectory_eq_true_iff, leadsToDirectory_eq_true_iff]
  exact ⟨meets (rearranged.isProper proper) rearranged.symm, meets proper rearranged⟩

section
variable {entries : List (Text × Node)} (proper : tree.isProper)
  (led : tree.find workingPlace root = .ok (place, .directory entries))
include proper led

/-- The names that are listed are those of the class files. -/
theorem mem_underEntries_iff_isClassFile (names : List Text) :
    names ∈ underEntries search (leadsToDirectory tree workingPlace root) [] entries ↔
      ∃ between name, names = between ++ [name] ∧
        search.IsClassFile tree workingPlace root place between name := by
  have stands : tree.at? (place ++ []) = some (.directory entries) := by
    obtain ⟨-, left, leads⟩ := (find_eq_ok_iff tree workingPlace root _ _).mp led
    rw [List.append_nil]
    exact leads.at?
  rw [mem_underEntries_iff]
  constructor
  · intro found
    obtain ⟨between, name, same, file⟩ := found.isClassFile proper stands (by simp)
      fun front begins some => (some (List.prefix_nil.mp begins)).elim
    exact ⟨between, name, same, by simpa using file⟩
  · rintro ⟨between, name, rfl, file⟩
    exact IsClassFile.finds proper led file stands

/-- No name is listed twice. -/
theorem nodup_listed :
    (underEntries search (leadsToDirectory tree workingPlace root) [] entries).Nodup := by
  obtain ⟨-, left, leads⟩ := (find_eq_ok_iff tree workingPlace root _ _).mp led
  exact nodup_underEntries search _ [] entries
    (entriesProper_entries (isProper_of_at? proper leads.at?))

end

/-- The names below a root can be told from the path. -/
theorem below_injective (root : Path) : Function.Injective root.below := fun names others same => by
  rw [← namesBelow_below root names, same, namesBelow_below]

/-- Where a root leads to a directory, a search returns the class files under it in the order of
their paths. -/
theorem run_of_find {entries : List (Text × Node)}
    (led : tree.find workingPlace root = .ok (place, .directory entries)) :
    search.run tree workingPlace root =
      .ok (((search.underEntries (leadsToDirectory tree workingPlace root) [] entries).map
        root.below).mergeSort Path.precedes) := by
  rw [run, led]

/-- In another order of entries a search returns the same. -/
theorem run_rearranged {other : Node} {entries : List (Text × Node)} (proper : tree.isProper)
    (rearranged : tree.Rearranged other)
    (led : tree.find workingPlace root = .ok (place, .directory entries)) :
    search.run other workingPlace root = search.run tree workingPlace root := by
  obtain ⟨node, ledToo, same⟩ := rearranged.exists_find proper led
  obtain ⟨others, rfl⟩ := same.exists_others
  rw [run_of_find led, run_of_find ledToo, leadsToDirectory_rearranged proper rearranged]
  have listed := (underEntries_perm search (leadsToDirectory tree workingPlace root) same []).map
    root.below
  have alike : ∀ path ∈ (search.underEntries (leadsToDirectory tree workingPlace root) []
      entries).map root.below, path.slashes = root.slashes := by
    intro path among
    obtain ⟨names, -, rfl⟩ := List.mem_map.mp among
    rfl
  exact congrArg Except.ok (Path.eq_mergeSort_of_perm alike (Path.pairwise_mergeSort_precedes _)
    ((List.mergeSort_perm _ _).trans listed.symm))

/-- Below a root that leads to a directory a search comes to an end with the class files under it.
It returns each of them once, in strictly increasing order of components, and the same in every
order of entries. -/
theorem run_exact {entries : List (Text × Node)} (proper : tree.isProper)
    (led : tree.find workingPlace root = .ok (place, .directory entries)) :
    ∃ paths, search.run tree workingPlace root = .ok paths ∧
      (∀ path, path ∈ paths ↔ ∃ between name,
        search.IsClassFile tree workingPlace root place between name ∧
          path = root.below (between ++ [name])) ∧
      paths.Nodup ∧
      paths.Pairwise (fun first second => first.parts < second.parts) ∧
      ∀ other, tree.Rearranged other → search.run other workingPlace root = .ok paths := by
  let listed := search.underEntries (leadsToDirectory tree workingPlace root) [] entries
  let paths := (listed.map root.below).mergeSort Path.precedes
  have searched : search.run tree workingPlace root = .ok paths := run_of_find led
  have mem_paths (path : Path) : path ∈ paths ↔ ∃ names ∈ listed, root.below names = path := by
    rw [List.mem_mergeSort, List.mem_map]
  have once : paths.Nodup := by
    rw [(List.mergeSort_perm _ _).nodup_iff]
    exact (nodup_listed proper led).map (below_injective root)
  refine ⟨paths, searched, ?_, once, ?_, ?_⟩
  · intro path
    rw [mem_paths]
    constructor
    · rintro ⟨names, among, rfl⟩
      obtain ⟨between, name, rfl, file⟩ :=
        (mem_underEntries_iff_isClassFile proper led names).mp among
      exact ⟨between, name, file, rfl⟩
    · rintro ⟨between, name, file, rfl⟩
      exact ⟨_, (mem_underEntries_iff_isClassFile proper led _).mpr ⟨between, name, rfl, file⟩, rfl⟩
  · have inOrder := Path.pairwise_mergeSort_precedes (listed.map root.below)
    refine (inOrder.and once).imp_of_mem ?_
    rintro first second among amongToo ⟨forth, different⟩
    refine Path.parts_lt_of_precedes forth fun sameParts => different ?_
    obtain ⟨names, -, rfl⟩ := (mem_paths first).mp among
    obtain ⟨others, -, rfl⟩ := (mem_paths second).mp amongToo
    exact congrArg (Path.mk root.slashes) sameParts
  · intro other rearranged
    rw [run_rearranged proper rearranged led, searched]

end

/-- A directory with a class file and links that lead to it, to a directory, to nothing and in a
circle. It has class files in two more directories too. -/
def mixedTree : Node :=
  .directory [("out", .directory [
    ("A.class", .file []), ("B.class", .link "A.class"), ("C.class", .link "deep"),
    ("D.class", .link "nothing"), ("E.class", .link "E.class"),
    ("deep", .directory [("A.class", .file []), ("skip", .file []), ("skip.class", .file [])]),
    ("skip", .directory [("A.class", .file [])])])]

/-- Where one of the directories is excluded, the class files outside it are found, with the links
that lead to no directory. -/
theorem mixedTree_found :
    let search : Search := ⟨".class", ["skip", "out"]⟩
    let root : Path := ⟨1, ["out"]⟩
    let names : List (List Text) := [["A.class"], ["B.class"], ["D.class"], ["E.class"],
      ["deep", "A.class"], ["deep", "skip.class"]]
    let paths := names.map root.below
    mixedTree.isProper ∧ search.run mixedTree [] root = .ok paths ∧ paths.Nodup ∧
      ∀ other, mixedTree.Rearranged other → search.run other [] root = .ok paths := by
  intro search root names paths
  have proper : mixedTree.isProper := by decide +kernel
  have led : mixedTree.find [] root = .ok (["out"], (mixedTree.at? ["out"]).getD mixedTree) := rfl
  have searched : search.run mixedTree [] root = .ok paths :=
    run_of_listed (by decide +kernel) (by decide +kernel)
  obtain ⟨found, searchedToo, -, once, -, rearranged⟩ :=
    @run_exact search mixedTree [] ["out"] root _ proper led
  obtain rfl : found = paths := Except.ok.inj (searchedToo.symm.trans searched)
  exact ⟨proper, searched, once, rearranged⟩

/-- A directory with a chain of links that lead back to it. The first link looks like a class
file. -/
def circlingTree : Node :=
  .directory [("o", .directory (("L.class", .link "l0") :: ("l20", .link ".") ::
    (List.range 20).map fun n => ("l" ++ Text.ofNat n, .link ("l" ++ Text.ofNat (n + 1)))))]

/-- A link that leads to a directory may be listed. The root of the search leads across it, and too
many links have been followed when it is met again. -/
theorem circlingTree_listed :
    let search : Search := ⟨".class", []⟩
    let root : Path := ⟨1, ["o", "L.class"]⟩
    circlingTree.isProper ∧
    (∃ entries, circlingTree.find [] root = .ok (["o"], .directory entries) ∧
      (("L.class" : Text), Node.link "l0") ∈ entries) ∧
    search.run circlingTree [] root = .ok [root.below ["L.class"]] := by
  intro search root
  exact ⟨by decide +kernel, ⟨_, rfl, List.mem_cons_self⟩,
    run_of_listed (by decide +kernel) (by decide +kernel)⟩

end TagAudit.Search
