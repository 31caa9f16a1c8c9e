import TagAudit.Discovery

/-!
# What discovery finds

An entry below a directory is found when it is no directory, has the right ending, and is led to
through real directories that can be entered and of which none is excluded. Links to directories are
neither found nor entered. This is a relation between a directory and the names that lead from it to
an entry. It says nothing about the order in which entries are visited, and the list that discovery
returns holds exactly the related names.
-/

namespace TagAudit.Search

/-- The names that lead from the entries of a directory to a class file below it. The directory is
given by the names above, which lead to it from the root of the search. -/
inductive Finds (search : Search) (leadsToDirectory : List Text → Bool) :
    List Text → List (Text × Node) → List Text → Prop where
  | file {above : List Text} {entries : List (Text × Node)} (name : Text) (content : List UInt8)
      (held : (name, Node.file content) ∈ entries) (ending : name.endsWith search.extension) :
      Finds search leadsToDirectory above entries [name]
  | link {above : List Text} {entries : List (Text × Node)} (name target : Text)
      (held : (name, Node.link target) ∈ entries) (ending : name.endsWith search.extension)
      (elsewhere : leadsToDirectory (above ++ [name]) = false) :
      Finds search leadsToDirectory above entries [name]
  | deeper {above : List Text} {entries : List (Text × Node)} (name : Text)
      (inner : List (Text × Node)) (names : List Text)
      (held : (name, Node.directory inner) ∈ entries) (kept : name ∉ search.excluded)
      (entered : leadsToDirectory (above ++ [name]) = true)
      (found : Finds search leadsToDirectory (above ++ [name]) inner names) :
      Finds search leadsToDirectory above entries (name :: names)

section
variable (search : Search) (leadsToDirectory : List Text → Bool)

/-- What is found among more entries is found through one of them. -/
theorem finds_cons_iff (above : List Text) (entry : Text × Node) (rest : List (Text × Node))
    (names : List Text) :
    Finds search leadsToDirectory above (entry :: rest) names ↔
      Finds search leadsToDirectory above [entry] names ∨
        Finds search leadsToDirectory above rest names := by
  -- An entry among some is one among more.
  have among {some more : List (Text × Node)} (within : ∀ e ∈ some, e ∈ more)
      (found : Finds search leadsToDirectory above some names) :
      Finds search leadsToDirectory above more names := by
    cases found with
    | file name content held ending => exact .file name content (within _ held) ending
    | link name target held ending elsewhere =>
      exact .link name target (within _ held) ending elsewhere
    | deeper name inner names held kept entered found =>
      exact .deeper name inner names (within _ held) kept entered found
  constructor
  · intro found
    cases found with
    | file name content held ending =>
      rcases List.mem_cons.mp held with rfl | later
      · exact .inl (.file name content (List.mem_singleton.mpr rfl) ending)
      · exact .inr (.file name content later ending)
    | link name target held ending elsewhere =>
      rcases List.mem_cons.mp held with rfl | later
      · exact .inl (.link name target (List.mem_singleton.mpr rfl) ending elsewhere)
      · exact .inr (.link name target later ending elsewhere)
    | deeper name inner names held kept entered found =>
      rcases List.mem_cons.mp held with rfl | later
      · exact .inl (.deeper name inner names (List.mem_singleton.mpr rfl) kept entered found)
      · exact .inr (.deeper name inner names later kept entered found)
  · rintro (first | later)
    · exact among (fun e held => List.mem_cons.mpr (.inl (List.mem_singleton.mp held))) first
    · exact among (fun e held => List.mem_cons_of_mem entry held) later

mutual
/-- The list for one entry holds what is found through it. -/
theorem mem_underEntry_iff (above : List Text) (name : Text) (node : Node) (names : List Text) :
    names ∈ underEntry search leadsToDirectory above name node ↔
      Finds search leadsToDirectory above [(name, node)] names := by
  cases node with
  | file content =>
    rw [underEntry]
    constructor
    · intro listed
      split at listed
      · rename_i ending
        rw [List.mem_singleton.mp listed]
        exact .file name content (List.mem_singleton.mpr rfl) ending
      · simp at listed
    · intro found
      cases found with
      | file name content held ending =>
        cases List.mem_singleton.mp held
        simp [ending]
      | link name target held ending elsewhere => simp at held
      | deeper name inner names held kept entered found => simp at held
  | link target =>
    rw [underEntry]
    constructor
    · intro listed
      split at listed
      · rename_i accepted
        simp only [Bool.and_eq_true, Bool.not_eq_true'] at accepted
        rw [List.mem_singleton.mp listed]
        exact .link name target (List.mem_singleton.mpr rfl) accepted.1 accepted.2
      · simp at listed
    · intro found
      cases found with
      | file name content held ending => simp at held
      | link name target held ending elsewhere =>
        cases List.mem_singleton.mp held
        simp [ending, elsewhere]
      | deeper name inner names held kept entered found => simp at held
  | directory inner =>
    rw [underEntry]
    constructor
    · intro listed
      split at listed
      · simp at listed
      · rename_i passed
        obtain ⟨kept, entered⟩ : name ∉ search.excluded ∧ leadsToDirectory (above ++ [name]) := by
          simpa using passed
        obtain ⟨below, deeper, rfl⟩ := List.mem_map.mp listed
        have found := (mem_underEntries_iff (above ++ [name]) inner below).mp deeper
        exact .deeper name inner below (List.mem_singleton.mpr rfl) kept entered found
    · intro found
      cases found with
      | file name content held ending => simp at held
      | link name target held ending elsewhere => simp at held
      | deeper name inner names held kept entered found =>
        cases List.mem_singleton.mp held
        rw [if_neg (by simpa using ⟨kept, entered⟩)]
        exact List.mem_map.mpr ⟨names, (mem_underEntries_iff _ inner names).mpr found, rfl⟩

/-- The list for the entries of a directory holds what is found among them. -/
theorem mem_underEntries_iff (above : List Text) (entries : List (Text × Node))
    (names : List Text) :
    names ∈ underEntries search leadsToDirectory above entries ↔
      Finds search leadsToDirectory above entries names := by
  cases entries with
  | nil =>
    rw [underEntries]
    constructor
    · simp
    · intro found
      cases found with
      | file name content held ending => simp at held
      | link name target held ending elsewhere => simp at held
      | deeper name inner names held kept entered found => simp at held
  | cons entry rest =>
    obtain ⟨name, node⟩ := entry
    rw [underEntries, List.mem_append, finds_cons_iff, mem_underEntry_iff above name node names,
      mem_underEntries_iff above rest names]
end

end

/-- Names below a root are met as a directory: they can be spelled while they are searched, and the
path under which they are met leads to a directory. -/
def MeetsDirectory (tree : Node) (workingPlace : Place) (root : Path) (names : List Text) : Prop :=
  (spelling root names).pathProblem? = none ∧
    ∃ reached inner, tree.find workingPlace (root.below names) = .ok (reached, .directory inner)

/-- Names that are found to lead to a directory are those that are met as one. -/
theorem leadsToDirectory_eq_true_iff (tree : Node) (workingPlace : Place) (root : Path)
    (names : List Text) :
    leadsToDirectory tree workingPlace root names = true ↔
      MeetsDirectory tree workingPlace root names := by
  have asked : (tree.hasDirectory workingPlace (root.below names)).toOption.getD false = true ↔
      ∃ reached inner, tree.find workingPlace (root.below names) =
        .ok (reached, .directory inner) := by
    rw [Node.hasDirectory, Node.find?]
    cases tree.find workingPlace (root.below names) with
    | error problem => cases problem <;> simp [Except.map, Except.toOption]
    | ok found =>
      obtain ⟨reached, node⟩ := found
      cases node <;> simp [Except.map, Except.toOption, Node.isDirectory]
  rw [leadsToDirectory, Bool.and_eq_true, Option.isNone_iff_eq_none, asked, MeetsDirectory]

/-- A class file under a root: the root leads to a directory, and names found among its entries
are put behind the path of the root. -/
def Discovers (search : Search) (tree : Node) (workingPlace : Place) (root path : Path) : Prop :=
  ∃ place entries names, tree.find workingPlace root = .ok (place, .directory entries) ∧
    Finds search (leadsToDirectory tree workingPlace root) [] entries names ∧
    path = root.below names

/-- A search that returns paths returns those of the class files under the root. -/
theorem mem_run_iff (search : Search) (tree : Node) (workingPlace : Place) (root path : Path)
    (paths : List Path) (completed : search.run tree workingPlace root = .ok paths) :
    path ∈ paths ↔ search.Discovers tree workingPlace root path := by
  unfold run at completed
  split at completed
  · simp at completed
  · simp at completed
  · rename_i place entries led
    obtain rfl := Except.ok.inj completed
    rw [List.mem_mergeSort, List.mem_map]
    constructor
    · rintro ⟨names, listed, rfl⟩
      exact ⟨place, entries, names, led, (mem_underEntries_iff search _ [] entries names).mp
        listed, rfl⟩
    · rintro ⟨_, _, names, sameLed, found, rfl⟩
      obtain ⟨rfl, rfl⟩ : place = _ ∧ entries = _ := by simpa [led] using sameLed
      exact ⟨names, (mem_underEntries_iff search _ [] entries names).mpr found, rfl⟩
  · simp at completed

end TagAudit.Search
