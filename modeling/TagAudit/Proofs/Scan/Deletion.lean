import TagAudit.Proofs.Discovery.Remaining
import TagAudit.Proofs.FileTree.Removal
import TagAudit.Proofs.Scan.Policies

/-!
# Scanning what is left when failing files are deleted

A file that fails is of no use to any other file that is read, nor to a directory that is searched:
whatever could be reached through it, it could be reached as itself. So deleting the failing files
of a tree leaves the others found in the same order and read as before.

Two things may be in the way. A file whose path is too long fails although it may be reached by a
shorter way, and the path of the root may itself lead across a link that fails as a file below it.
-/

namespace TagAudit.Scan

open ClassFile Node

/-- What a scan can make use of: directories, and files that describe classes. -/
def IsUsable : Node → Prop
  | .directory _ => True
  | .file content => ∃ c, ClassFile.parse content = .ok c
  | .link _ => False

section
variable {tree : Node} {workingPlace : Place}

/-- A path describes a class exactly if it leads to a file that does. -/
theorem readClass_eq_ok_iff (path : Path) (c : ClassDescriptor) :
    tree.readClass workingPlace path = .ok c ↔
      ∃ reached content, tree.find workingPlace path = .ok (reached, .file content) ∧
        ClassFile.parse content = .ok c := by
  rw [Node.readClass, Node.read]
  constructor
  · intro described
    cases found : tree.find workingPlace path with
    | error problem => simp [found] at described
    | ok led =>
      obtain ⟨reached, node⟩ := led
      cases node with
      | file content =>
        refine ⟨reached, content, rfl, ?_⟩
        cases parsed : ClassFile.parse content with
        | error defect =>
          simp only [found, parsed] at described
          cases described
        | ok other =>
          simp only [found, parsed] at described
          cases described
          rfl
      | directory entries => simp [found] at described
      | link target => simp [found] at described
  · rintro ⟨reached, content, found, parsed⟩
    simp only [found, parsed]
    rfl

section
variable {root : Path} {left : Nat} {place : Place} {start : Node}
  (rooted : tree.Leads linkLimit (startOf workingPlace root) root.parts left place start)
include rooted

/-- Below a root paths are found from where it leads, with the links that it leaves. -/
theorem find_below_iff (names : List Text) (reached : Place) (node : Node) :
    tree.find workingPlace (root.below names) = .ok (reached, node) ↔
      (root.below names).toText.pathProblem? = none ∧
        ∃ last, tree.Leads left place names last reached node := by
  rw [find_eq_ok_iff]
  refine and_congr_right fun _ => ⟨fun ⟨last, leads⟩ => ?_, fun ⟨last, leads⟩ => ?_⟩
  · obtain ⟨between, middle, stop, before, after⟩ := leads.split
    obtain ⟨rfl, rfl, -⟩ := rooted.unique before
    exact ⟨last, after⟩
  · exact ⟨last, rooted.append leads⟩

/-- Names below a root are found to lead to a directory exactly if they can be spelled and lead to
one from where the root leads. -/
theorem leadsToDirectory_iff (names : List Text) :
    Search.leadsToDirectory tree workingPlace root names = true ↔
      (Search.spelling root names).pathProblem? = none ∧
        ∃ last reached entries, tree.Leads left place names last reached (.directory entries) := by
  rw [Search.leadsToDirectory_eq_true_iff, Search.MeetsDirectory]
  refine and_congr_right fun spelled => ?_
  have short := Search.pathProblem?_of_spelling spelled
  simp only [find_below_iff rooted, short, true_and]
  constructor
  · rintro ⟨reached, entries, last, leads⟩
    exact ⟨last, reached, entries, leads⟩
  · rintro ⟨last, reached, entries, leads⟩
    exact ⟨reached, entries, last, leads⟩

/-- If all that is of use is spared, the same names are found to lead to directories. -/
theorem leadsToDirectory_pruned {gone : Place → Bool} {startStill : Node}
    (rootedStill : (tree.pruned gone).Leads linkLimit (startOf workingPlace root) root.parts left
      place startStill)
    (spares : tree.Spares gone IsUsable left) :
    Search.leadsToDirectory (tree.pruned gone) workingPlace root =
      Search.leadsToDirectory tree workingPlace root := by
  funext names
  rw [Bool.eq_iff_iff, leadsToDirectory_iff rooted, leadsToDirectory_iff rootedStill]
  refine and_congr_right fun _ => ⟨?_, ?_⟩
  · rintro ⟨last, reached, inner, leads⟩
    obtain ⟨stood, before, same⟩ := leads.of_pruned
    obtain ⟨entries, rfl, -⟩ := exists_of_directory_eq_without gone same
    exact ⟨last, reached, entries, before⟩
  · rintro ⟨last, reached, inner, leads⟩
    exact ⟨last, reached, _, spares.leads leads (Nat.le_refl _) trivial⟩

end

/-- Whether a file that is met under a path describes no class. -/
def fails (tree : Node) (workingPlace : Place) (path : Path) : Bool :=
  (failureOf? tree workingPlace path).isSome

/-- A file fails exactly if it describes no class. -/
theorem fails_eq_false_iff (path : Path) :
    fails tree workingPlace path = false ↔ ∃ c, tree.readClass workingPlace path = .ok c := by
  rw [fails, failureOf?]
  cases tree.readClass workingPlace path <;> simp

/-- The places of the files that fail, given the place from which files were discovered. -/
def failingPlaces (tree : Node) (workingPlace : Place) (root : Path) (place : Place)
    (paths : List Path) : List Place :=
  (paths.filter (fails tree workingPlace)).map fun path => place ++ Search.namesBelow root path

/-- The tree without the files that were discovered under a root and fail. -/
def withoutFailing (tree : Node) (workingPlace : Place) (root : Path) (paths : List Path) : Node :=
  match tree.find workingPlace root with
  | .ok (place, _) => (failingPlaces tree workingPlace root place paths).foldl removeAt tree
  | .error _ => tree

/-- Whether a file fails at a place. -/
def failsAt (tree : Node) (workingPlace : Place) (root : Path) (place : Place)
    (paths : List Path) (lost : Place) : Bool :=
  (failingPlaces tree workingPlace root place paths).contains lost

/-- A file fails at a place if it is met there under a path that fails. -/
theorem failsAt_iff {root : Path} {place : Place} {paths : List Path} {lost : Place} :
    failsAt tree workingPlace root place paths lost = true ↔
      ∃ path ∈ paths, fails tree workingPlace path ∧
        lost = place ++ Search.namesBelow root path := by
  rw [failsAt, List.contains_iff_mem, failingPlaces, List.mem_map]
  constructor
  · rintro ⟨path, listed, rfl⟩
    obtain ⟨among, failing⟩ := List.mem_filter.mp listed
    exact ⟨path, among, failing, rfl⟩
  · rintro ⟨path, among, failing, rfl⟩
    exact ⟨path, List.mem_filter.mpr ⟨among, failing⟩, rfl⟩

section
variable {settings : ScanSettings} {root : Path} {left : Nat} {place : Place}
  {entries : List (Text × Node)} {paths : List Path}
  (rooted : tree.Leads linkLimit (startOf workingPlace root) root.parts left place
    (.directory entries))
  (searched : (searchOf settings).run tree workingPlace root = .ok paths)
include rooted searched

/-- Discovered files are found below the directory that the root leads to. -/
theorem exists_names_of_mem {path : Path} (among : path ∈ paths) :
    ∃ names, path = root.below names ∧ Search.Finds (searchOf settings)
      (Search.leadsToDirectory tree workingPlace root) [] entries names := by
  obtain ⟨other, others, names, found, finds, rfl⟩ :=
    (Search.mem_run_iff _ tree workingPlace root path paths searched).mp among
  obtain ⟨-, last, leads⟩ := (find_eq_ok_iff tree workingPlace root _ _).mp found
  obtain ⟨-, -, same⟩ := leads.unique rooted
  cases same
  exact ⟨names, rfl, finds⟩

/-- A discovered file is at a failing place exactly if it fails. -/
theorem failsAt_eq {path : Path} (among : path ∈ paths) :
    failsAt tree workingPlace root place paths (place ++ Search.namesBelow root path) =
      fails tree workingPlace path := by
  rw [Bool.eq_iff_iff, failsAt_iff]
  constructor
  · rintro ⟨other, amongToo, failing, same⟩
    obtain ⟨names, rfl, -⟩ := exists_names_of_mem rooted searched among
    obtain ⟨others, rfl, -⟩ := exists_names_of_mem rooted searched amongToo
    have sameNames : names = others := by simpa using same
    rw [sameNames]
    exact failing
  · exact fun failing => ⟨path, among, failing, rfl⟩

/-- A name in a directory below the place of the root is met, and what it stands for fails: a file,
or a link that leads to no directory. -/
structure FailsUnder (tree : Node) (workingPlace : Place) (root : Path) (left : Nat) (place : Place)
    (paths : List Path) (between : List Text) (name : Text) (node : Node) : Prop where
  holds : tree.Holds (place ++ between) name node
  way : ∃ inner, tree.Leads left place between left (place ++ between) (.directory inner)
  kind : (∃ content, node = .file content) ∨ ∃ target, node = .link target ∧
    Search.leadsToDirectory tree workingPlace root (between ++ [name]) = false
  among : root.below (between ++ [name]) ∈ paths
  failing : fails tree workingPlace (root.below (between ++ [name])) = true

/-- Where a file fails, it does so under some name. -/
theorem exists_failsUnder (proper : tree.isProper) {lost : Place}
    (gone : failsAt tree workingPlace root place paths lost = true) :
    ∃ between name node, lost = place ++ between ++ [name] ∧
      FailsUnder tree workingPlace root left place paths between name node := by
  obtain ⟨path, among, failing, same⟩ := failsAt_iff.mp gone
  obtain ⟨names, rfl, finds⟩ := exists_names_of_mem rooted searched among
  obtain ⟨between, name, node, rfl, holds, way, kind⟩ := finds.way proper rooted.at?
  refine ⟨between, name, node, ?_, holds, way left, kind, among, failing⟩
  simpa using same

/-- Deleting the failing files leaves the tree without their places. -/
theorem foldl_removeAt_failingPlaces (proper : tree.isProper) :
    (failingPlaces tree workingPlace root place paths).foldl removeAt tree =
      tree.pruned (failsAt tree workingPlace root place paths) := by
  refine foldl_removeAt_eq_pruned proper _ (fun lost among => ?_) fun lost inner gone stands => ?_
  · obtain ⟨between, name, node, rfl, met⟩ := exists_failsUnder rooted searched proper
      (List.contains_iff_mem.mpr among)
    obtain ⟨inner, way⟩ := met.way
    exact ⟨_, name, inner, rfl, way.at?⟩
  · obtain ⟨between, name, node, rfl, met⟩ := exists_failsUnder rooted searched proper gone
    obtain rfl := Option.some.inj (met.holds.at?.symm.trans stands)
    rcases met.kind with ⟨content, file⟩ | ⟨target, link, -⟩
    · cases file
    · cases link

omit searched in
/-- Where a failing name leads there is nothing that a scan can make use of. -/
theorem FailsUnder.not_isUsable {between : List Text} {name : Text} {node stop : Node} {last : Nat}
    {reached : Place}
    (met : FailsUnder tree workingPlace root left place paths between name node)
    (short : (Search.spelling root (between ++ [name])).pathProblem? = none)
    (leads : tree.Leads left place (between ++ [name]) last reached stop) : ¬ IsUsable stop := by
  intro usable
  cases stop with
  | directory inner =>
    rcases met.kind with ⟨content, rfl⟩ | ⟨target, rfl, elsewhere⟩
    · obtain ⟨_, way⟩ := met.way
      obtain ⟨-, -, same⟩ := leads.unique (way.append (.file met.holds))
      cases same
    · have led := (leadsToDirectory_iff rooted _).mpr ⟨short, last, reached, inner, leads⟩
      rw [elsewhere] at led
      cases led
  | file content =>
    obtain ⟨c, parsed⟩ := usable
    have found := (find_below_iff rooted _ reached (.file content)).mpr
      ⟨Search.pathProblem?_of_spelling short, last, leads⟩
    have described := (readClass_eq_ok_iff _ c).mpr ⟨reached, content, found, parsed⟩
    have failing := met.failing
    rw [(fails_eq_false_iff _).mpr ⟨c, described⟩] at failing
    cases failing
  | link target => exact usable

/-- What fails is of no use: it is no directory and describes no class, and if it is a link it leads
to nothing else. -/
theorem spares_failsAt (proper : tree.isProper)
    (spelled : ∀ path ∈ paths, fails tree workingPlace path →
      (Search.spelling root (Search.namesBelow root path)).pathProblem? = none) :
    tree.Spares (failsAt tree workingPlace root place paths) IsUsable left := by
  have shortOf {between : List Text} {name : Text} {node : Node}
      (met : FailsUnder tree workingPlace root left place paths between name node) :
      (Search.spelling root (between ++ [name])).pathProblem? = none := by
    simpa using spelled _ met.among met.failing
  constructor
  · exact fun _ => trivial
  · intro lost node gone stood usable
    obtain ⟨between, name, held, rfl, met⟩ := exists_failsUnder rooted searched proper gone
    obtain rfl := Option.some.inj (met.holds.at?.symm.trans stood)
    obtain ⟨inner, way⟩ := met.way
    rcases met.kind with ⟨content, rfl⟩ | ⟨target, rfl, -⟩
    · exact met.not_isUsable rooted (shortOf met) (way.append (.file met.holds)) usable
    · exact usable
  · intro above name target fewer last reached node gone holds few leads
    obtain ⟨between, other, held, same, met⟩ := exists_failsUnder rooted searched proper gone
    obtain ⟨rfl, sameName⟩ := List.append_inj' same rfl
    obtain rfl := List.singleton_inj.mp sameName
    obtain rfl := met.holds.unique holds
    obtain ⟨inner, way⟩ := met.way
    -- From the place of the root there are enough links left to cross this one.
    obtain ⟨more, rfl⟩ := Nat.exists_eq_add_of_lt few
    have onward : tree.Leads (fewer + more) (startOf (place ++ between) (.ofText target))
        ((Path.ofText target).parts ++ []) (last + more) reached node := by
      rw [List.append_nil]
      exact leads.more more
    exact met.not_isUsable rooted (shortOf met) (way.append (.cross holds onward))

end

section
variable {settings : ScanSettings} {root : Path} {paths : List Path} (proper : tree.isProper)
  (searched : (searchOf settings).run tree workingPlace root = .ok paths)
  (spelled : ∀ path ∈ paths, fails tree workingPlace path →
    (Search.spelling root (Search.namesBelow root path)).pathProblem? = none)
  (ledStill : ∃ reached inner, (withoutFailing tree workingPlace root paths).find workingPlace
    root = .ok (reached, .directory inner))
include proper searched spelled ledStill

/-- Without the files that fail, the others are discovered in the same order and describe the same
classes. -/
theorem discovered_and_read :
    (searchOf settings).run (withoutFailing tree workingPlace root paths) workingPlace root =
        .ok (paths.filter fun path => !fails tree workingPlace path) ∧
      ∀ path ∈ paths, ∀ c, tree.readClass workingPlace path = .ok c →
        (withoutFailing tree workingPlace root paths).readClass workingPlace path = .ok c := by
  obtain ⟨place, entries, led⟩ := Search.exists_directory_of_run searched
  obtain ⟨-, otherLinks, rootedToo⟩ := (find_eq_ok_iff tree workingPlace root _ _).mp led
  have deleted : withoutFailing tree workingPlace root paths =
      tree.pruned (failsAt tree workingPlace root place paths) := by
    rw [← foldl_removeAt_failingPlaces rootedToo searched proper]
    simp only [withoutFailing, led]
  rw [deleted] at ledStill ⊢
  obtain ⟨reached, inner, foundStill⟩ := ledStill
  obtain ⟨-, links, rootedStill⟩ := (find_eq_ok_iff _ workingPlace root _ _).mp foundStill
  -- The root leads where it did, and leaves as many links.
  obtain ⟨stood, rooted, same⟩ := rootedStill.of_pruned
  obtain ⟨rfl, rfl, rfl⟩ := rooted.unique rootedToo
  have spares := spares_failsAt rooted searched proper spelled
  have tests := leadsToDirectory_pruned rooted rootedStill spares
  constructor
  · have ran := Search.run_pruned (searchOf settings) _ proper spares.losesNoDirectory led
      (foundStill.trans (congrArg (fun node => Except.ok (reached, node)) same)) tests searched
    refine ran.trans (congrArg Except.ok (List.filter_congr fun path among => ?_))
    rw [failsAt_eq rooted searched among]
  · intro path among c described
    obtain ⟨names, rfl, -⟩ := exists_names_of_mem rooted searched among
    obtain ⟨there, content, found, parsed⟩ := (readClass_eq_ok_iff _ c).mp described
    obtain ⟨shortToo, last, leads⟩ := (find_below_iff rooted names there _).mp found
    have leadsStill := spares.leads leads (Nat.le_refl _) ⟨c, parsed⟩
    have read := (find_below_iff rootedStill names there (.file content)).mpr
      ⟨shortToo, last, leadsStill⟩
    exact (readClass_eq_ok_iff _ c).mpr ⟨there, content, read, parsed⟩

end

end

/-- Files of which each that describes a class describes it in another tree as well, and is among
those that are left, describe the same classes there, and none of those that are left fails. -/
theorem classesOf_filter (tree other : Node) (workingPlace : Place) (paths : List Path)
    (read : ∀ path ∈ paths, ∀ c, tree.readClass workingPlace path = .ok c →
      other.readClass workingPlace path = .ok c) :
    let left := paths.filter fun path => !fails tree workingPlace path
    classesOf other workingPlace left = classesOf tree workingPlace paths ∧
      skippedOf other workingPlace left = [] := by
  intro left
  induction paths with
  | nil => exact ⟨rfl, rfl⟩
  | cons path rest inductionHypothesis =>
    obtain ⟨described, skipped⟩ := inductionHypothesis fun later among =>
      read later (List.mem_cons_of_mem path among)
    cases first : tree.readClass workingPlace path with
    | ok c =>
      have fine := (fails_eq_false_iff path).mpr ⟨c, first⟩
      have kept : left = path :: rest.filter fun path => !fails tree workingPlace path := by
        simp [left, fine]
      have firstToo := read path List.mem_cons_self c first
      obtain ⟨addedHere, noneHere⟩ := cons_of_readClass_ok other workingPlace firstToo
        (rest.filter fun path => !fails tree workingPlace path)
      obtain ⟨added, -⟩ := cons_of_readClass_ok tree workingPlace first rest
      rw [kept, addedHere, noneHere, added, described, skipped]
      exact ⟨rfl, rfl⟩
    | error failure =>
      have failing : fails tree workingPlace path = true := by
        simp [fails, failureOf?, first]
      have kept : left = rest.filter fun path => !fails tree workingPlace path := by
        simp [left, failing]
      obtain ⟨same, -⟩ := cons_of_readClass_error tree workingPlace first rest
      rw [kept, same]
      exact ⟨described, skipped⟩

/-- Where nothing can be searched, scans under both policies end alike. Otherwise one that leaves
failing files out comes to a result: what it leaves out are the discovered files that fail, in order
and with their failures, and together with the classes these are all that was discovered. If there
is none, a scan that leaves none out comes to the same result but for the time, and if there are
some, it ends with the failure of the first. If then the files that failed are deleted, a scan under
either policy reports the same and leaves nothing out, provided that the root still leads to a
directory and that no file failed whose path was too long. -/
theorem run_policies (settings : ScanSettings) (context strictContext : Context)
    (finishes : context.FinishesAll) (finishesToo : strictContext.FinishesAll) (tree : Node)
    (workingPlace : Place) (root : Path) :
    let lenient := (run { settings with skipInvalid := true } context tree workingPlace root).1
    let strict :=
      (run { settings with skipInvalid := false } strictContext tree workingPlace root).1
    (∀ problem, (searchOf settings).run tree workingPlace root = .error problem →
      lenient = .error problem ∧ strict = .error problem) ∧
    ∀ paths, (searchOf settings).run tree workingPlace root = .ok paths →
      ∃ result, lenient = .ok result ∧
        result.skipped = skippedOf tree workingPlace paths ∧
        result.classesScanned + result.skipped.length = paths.length ∧
        (result.skipped = [] →
          strict = .ok { result with duration := strictContext.duration }) ∧
        (∀ first rest, result.skipped = first :: rest → ∃ failure,
          first.failure = some failure ∧ strict = .error (.failure failure)) ∧
        let left := withoutFailing tree workingPlace root paths
        (tree.isProper → (∃ reached inner,
            left.find workingPlace root = .ok (reached, .directory inner)) →
          (∀ path ∈ paths, fails tree workingPlace path →
            (Search.spelling root (Search.namesBelow root path)).pathProblem? = none) →
          ∀ (skipInvalid : Bool) (other : Context), other.FinishesAll →
            ∃ kept, (run { settings with skipInvalid := skipInvalid } other left workingPlace
                root).1 = .ok kept ∧
              kept.report = result.report ∧ kept.skipped = []) := by
  intro lenient strict
  let leaving : ScanSettings := { settings with skipInvalid := true }
  let stopping : ScanSettings := { settings with skipInvalid := false }
  constructor
  · intro problem searched
    have lenientEnd := run_of_problem leaving context tree workingPlace root problem searched
    have strictEnd := run_of_problem stopping strictContext tree workingPlace root problem searched
    exact ⟨congrArg Prod.fst lenientEnd, congrArg Prod.fst strictEnd⟩
  · intro paths searched
    have counted := length_classesOf_add_skippedOf tree workingPlace paths
    refine ⟨resultOf tree workingPlace settings.tagType context.duration root paths,
      run_lenient leaving context tree workingPlace root paths finishes searched rfl, rfl, ?_, ?_,
      ?_, ?_⟩
    · rw [← counted]
      rfl
    · exact fun none => run_of_skippedOf_nil stopping strictContext tree workingPlace root paths
        finishesToo searched none
    · exact fun first rest held => run_strict_of_cons stopping strictContext tree workingPlace root
        paths finishesToo searched rfl first rest held
    · intro left proper ledStill spelled skipInvalid other finishesOther
      obtain ⟨searchedStill, read⟩ := discovered_and_read proper searched spelled ledStill
      obtain ⟨described, none⟩ := classesOf_filter tree _ workingPlace paths read
      refine ⟨_, run_of_skippedOf_nil { settings with skipInvalid := skipInvalid } other _
        workingPlace root _ finishesOther searchedStill none, ?_, none⟩
      exact congrArg (Report.ofClasses settings.tagType) described

/-- What is found at a path is a directory if it can be told to be one. -/
theorem exists_directory_of_find {tree : Node} {workingPlace : Place} {path : Path}
    (told : (tree.find workingPlace path).toOption.any fun found => found.2.isDirectory) :
    ∃ reached inner, tree.find workingPlace path = .ok (reached, .directory inner) := by
  cases found : tree.find workingPlace path with
  | error problem => simp [found, Except.toOption] at told
  | ok led =>
    obtain ⟨reached, node⟩ := led
    cases node with
    | directory inner => exact ⟨reached, inner, rfl⟩
    | file content => simp [found, Except.toOption, isDirectory] at told
    | link target => simp [found, Except.toOption, isDirectory] at told

/-- In a directory with two class files of which the second is none, one policy leaves this out and
reports on the first, and the other ends with its failure. When it is deleted the report is the
same. -/
theorem sharingTree_policies :
    let root : Path := ⟨1, ["out"]⟩
    let paths : List Path := [⟨1, ["out", "A.class"]⟩, ⟨1, ["out", "B.class"]⟩]
    let failure : Failure := .truncated (.text "/out/B.class") (.int 0) (.int 4) (.int 0)
    let left := withoutFailing sharingTree [] root paths
    backwards.FinishesAll ∧ sharingTree.isProper ∧
    (run { lenientSettings with skipInvalid := false } backwards sharingTree [] root).1 =
      .error (.failure failure) ∧
    ∃ result kept,
      (run { lenientSettings with skipInvalid := true } backwards sharingTree [] root).1 =
        .ok result ∧
      (run { lenientSettings with skipInvalid := false } backwards left [] root).1 = .ok kept ∧
      kept.report = result.report := by
  intro root paths failure left
  have finishes := backwards_finishesAll
  have proper : sharingTree.isProper := by decide +kernel
  have searched : (searchOf lenientSettings).run sharingTree [] root = .ok paths :=
    congrArg Except.ok (List.mergeSort_of_pairwise (by decide +kernel))
  have ledStill := exists_directory_of_find
    (show (left.find [] root).toOption.any fun found => found.2.isDirectory by decide +kernel)
  have spelled : ∀ path ∈ paths, fails sharingTree [] path →
      (Search.spelling root (Search.namesBelow root path)).pathProblem? = none := by
    intro path among _
    rcases List.mem_cons.mp among with rfl | later
    · decide +kernel
    · obtain rfl := List.mem_singleton.mp later
      decide +kernel
  obtain ⟨-, completed⟩ := run_policies lenientSettings backwards backwards finishes finishes
    sharingTree [] root
  obtain ⟨result, lenient, skipped, -, -, stopped, deleted⟩ := completed paths searched
  obtain ⟨kept, again, same, -⟩ := deleted proper ledStill spelled false backwards finishes
  have listed : skippedOf sharingTree [] paths = [⟨"/out/B.class", some failure⟩] := by
    have second : sharingTree.readClass [] ⟨1, ["out", "B.class"]⟩ = .error failure := rfl
    obtain ⟨c, first⟩ := (fails_eq_false_iff (⟨1, ["out", "A.class"]⟩ : Path)).mp
      (show fails sharingTree [] ⟨1, ["out", "A.class"]⟩ = false by decide +kernel)
    exact (cons_of_readClass_ok sharingTree [] first _).2.trans
      (cons_of_readClass_error sharingTree [] second []).2
  obtain ⟨other, told, strict⟩ := stopped _ _ (skipped.trans listed)
  cases told
  exact ⟨finishes, proper, strict, result, kept, lenient, again, same⟩

/-- A directory with a chain of links to another one. The first link looks like a class file. -/
def windingTree : Node :=
  .directory [("o", .directory (("L.class", .link "l0") :: ("l24", .directory []) ::
    (List.range 24).map fun n => ("l" ++ Text.ofNat n, .link ("l" ++ Text.ofNat (n + 1)))))]

/-- The root of a scan may lead across a link that fails below it, because more links have been
followed when it is met again. When the link is deleted nothing is found at the root any more. -/
theorem windingTree_lost :
    let root : Path := ⟨1, ["o", "L.class", ".."]⟩
    let paths : List Path := [root.below ["L.class"]]
    let left := withoutFailing windingTree [] root paths
    windingTree.isProper ∧ (searchOf lenientSettings).run windingTree [] root = .ok paths ∧
    (∃ result, (run lenientSettings backwards windingTree [] root).1 = .ok result ∧
      result.skipped.map Skipped.path = [Text.ofString "/o/L.class/../L.class"]) ∧
    ∀ kept, (run lenientSettings backwards left [] root).1 ≠ .ok kept := by
  intro root paths left
  have finishes := backwards_finishesAll
  have searched : (searchOf lenientSettings).run windingTree [] root = .ok paths :=
    Search.run_of_listed (by decide +kernel) (by decide +kernel)
  have ended :=
    run_lenient lenientSettings backwards windingTree [] root paths finishes searched rfl
  refine ⟨by decide +kernel, searched, ⟨_, ended, by decide +kernel⟩, ?_⟩
  intro kept endedStill
  obtain ⟨_, searchedStill, -⟩ := report_of_run lenientSettings backwards left [] root kept finishes
    endedStill
  obtain ⟨reached, inner, led⟩ := Search.exists_directory_of_run searchedStill
  have nowhere : (left.find [] root).toOption.isNone := by decide +kernel
  rw [led] at nowhere
  cases nowhere

/-- A name of sixty code points of four bytes, which are almost as many as a name may have. -/
def longName : Text := List.replicate 60 (CodePoint.ofNat 0x10000)

/-- A class file of such a name. -/
def longFile : Text := longName ++ ".class"

/-- A node so many directories of such a name below. -/
def nested : Nat → Node → Node
  | 0, node => node
  | depth + 1, node => .directory [(longName, nested depth node)]

/-- A directory with a class file so far down that its path is too long, and with a link that leads
there by a shorter way. -/
def farTree : Node :=
  let halfway := List.replicate 8 longName
  .directory [("o", .directory [
    ("A.class", .link (Text.joined "/" (("x" : Text) :: halfway ++ [longFile]))),
    ("x", .link (Text.joined "/" halfway)),
    (longName, nested 15 (.directory [(longFile, .file sharingClass)]))])]

/-- A file may fail because its path is too long while it is read by a shorter way. When it is
deleted it is not read any more. -/
theorem farTree_lost :
    let root : Path := ⟨1, ["o"]⟩
    let paths : List Path :=
      [root.below ["A.class"], root.below (List.replicate 16 longName ++ [longFile])]
    let left := withoutFailing farTree [] root paths
    farTree.isProper ∧ (searchOf lenientSettings).run farTree [] root = .ok paths ∧
    (∃ result, (run lenientSettings backwards farTree [] root).1 = .ok result ∧
      result.hasViolations = true) ∧
    ∃ kept, (run lenientSettings backwards left [] root).1 = .ok kept ∧
      kept.hasViolations = false := by
  intro root paths left
  have finishes := backwards_finishesAll
  have searched : (searchOf lenientSettings).run farTree [] root = .ok paths :=
    Search.run_of_listed (by decide +kernel) (by decide +kernel)
  have searchedStill : (searchOf lenientSettings).run left [] root =
      .ok [root.below ["A.class"]] :=
    Search.run_of_listed (by decide +kernel) (by decide +kernel)
  have ended := run_lenient lenientSettings backwards farTree [] root paths finishes searched rfl
  have endedStill := run_lenient lenientSettings backwards left [] root _ finishes searchedStill rfl
  exact ⟨by decide +kernel, searched, ⟨_, ended, by decide +kernel⟩, _, endedStill,
    by decide +kernel⟩

end TagAudit.Scan
