import Mathlib.Data.List.Basic
import TagAudit.Log.Routing
import TagAudit.Proofs.FileTree.Growth

/-!
# Writing to files

A look-up that finds nothing under a last name has found the directory to put something in. So
writing succeeds with the file that was looked up, made if it was not there, and no other file
changes. Making directories changes no file at all.

Texts that are added to files are added to the files that their paths lead to. As these paths go on
leading to the same files, what a file holds in the end is what it held, and behind it the texts
whose paths led to it, in the order in which they were written.
-/

namespace TagAudit.Node

section
variable {tree : Node}

/-- Going through names finds nothing only under a last name in a directory. -/
theorem vacant_of_advance {place above : Place} {names : List Text} {name : Text}
    (led : advance tree true place names = .vacancy above name) : tree.Vacant above name := by
  induction names generalizing place with
  | nil =>
    cases stands : tree.at? place <;> simp [advance, stands] at led
  | cons first rest inductionHypothesis =>
    cases stands : tree.at? place with
    | none => simp [advance, stands] at led
    | some node =>
      cases node with
      | file content => simp [advance, stands] at led
      | link target => simp [advance, stands] at led
      | directory entries =>
        by_cases plain : first = Path.up
        · subst plain
          have onward : advance tree true place.dropLast rest = .vacancy above name := by
            simpa [advance, stands] using led
          exact inductionHypothesis onward
        · by_cases short : first.byteCount ≤ nameLimit
          · cases held : Keyed.get? first entries with
            | none =>
              cases rest with
              | nil =>
                have here : place = above ∧ first = name := by
                  simpa [advance, stands, plain, Nat.not_lt.mpr short, held] using led
                obtain ⟨rfl, rfl⟩ := here
                exact ⟨⟨entries, stands, held⟩, plain, short⟩
              | cons next rest => simp [advance, stands, plain, Nat.not_lt.mpr short, held] at led
            | some node =>
              have holds : tree.Holds place first node := ⟨⟨entries, stands, held⟩, plain, short⟩
              cases node with
              | file content =>
                cases rest with
                | nil => simp [holds.advance_file] at led
                | cons next rest =>
                  simp [advance, stands, plain, Nat.not_lt.mpr short, held] at led
              | link target => simp [holds.advance_link] at led
              | directory inner =>
                rw [holds.advance_directory] at led
                exact inductionHypothesis led
          · simp [advance, stands, plain, Nat.lt_of_not_le short] at led

/-- So it is for looking names up across links. -/
theorem vacant_of_reach {links : Nat} {place above : Place} {names : List Text} {name : Text}
    (led : reach tree true links place names = .vacancy above name) : tree.Vacant above name := by
  induction links generalizing place names with
  | zero =>
    rw [reach] at led
    cases found : advance tree true place names with
    | vacancy =>
      rw [found] at led
      obtain ⟨rfl, rfl⟩ := Reached.vacancy.inj led
      exact vacant_of_advance found
    | _ =>
      rw [found] at led
      cases led
  | succ links inductionHypothesis =>
    rw [reach] at led
    cases found : advance tree true place names with
    | vacancy =>
      rw [found] at led
      obtain ⟨rfl, rfl⟩ := Reached.vacancy.inj led
      exact vacant_of_advance found
    | crossing above target rest =>
      rw [found] at led
      exact inductionHypothesis led
    | _ =>
      rw [found] at led
      cases led

/-- So it is for looking a path up. -/
theorem vacant_of_lookUp {workingPlace above : Place} {p : Path} {name : Text}
    (led : tree.lookUp workingPlace p true = .vacancy above name) : tree.Vacant above name := by
  rw [lookUp] at led
  cases problem : p.toText.pathProblem? with
  | some problem =>
    rw [problem] at led
    cases led
  | none =>
    rw [problem] at led
    exact vacant_of_reach led

/-- A path that is found leads to what stands at a place. -/
theorem at?_of_find {workingPlace place : Place} {p : Path} {node : Node}
    (found : tree.find workingPlace p = .ok (place, node)) : tree.at? place = some node := by
  obtain ⟨-, left, leads⟩ := (find_eq_ok_iff tree workingPlace p place node).mp found
  exact leads.at?

/-- A node is put at a place, and elsewhere nothing changes but what directories hold. -/
structure Puts (before after : Node) (place : Place) (node : Node) : Prop where
  there : after.at? place = some node
  elsewhere : ∀ other, other ≠ place → (after.at? other).map own = (before.at? other).map own

/-- The content of a file can be exchanged. -/
theorem puts_of_file {place : Place} {old : List UInt8}
    (stands : tree.at? place = some (.file old)) (content : List UInt8) :
    Puts tree (tree.putAt place (.file content)) place (.file content) := by
  rcases List.eq_nil_or_concat' place with rfl | ⟨above, name, rfl⟩
  · obtain rfl := Option.some.inj stands
    refine ⟨rfl, fun other different => ?_⟩
    cases other with
    | nil => exact (different rfl).elim
    | cons first rest => rfl
  · rw [at?_append] at stands
    obtain ⟨node, inside, held⟩ := Option.bind_eq_some_iff.mp stands
    cases node with
    | file other => cases held
    | link target => cases held
    | directory entries =>
      have bare : ∀ old, Keyed.get? name entries = some old → old.entries = [] := by
        intro found among
        rw [at?, Node.entries, among] at held
        obtain rfl := Option.some.inj held
        rfl
      obtain ⟨there, elsewhere⟩ := at?_putAt (.file content) inside bare rfl
      exact ⟨there, elsewhere⟩

/-- What holds no entries can be put where nothing is. -/
theorem Vacant.puts {above : Place} {name : Text} (vacant : tree.Vacant above name) (node : Node)
    (childless : node.entries = []) :
    Puts tree (tree.putAt (above ++ [name]) node) (above ++ [name]) node := by
  obtain ⟨entries, inside, none⟩ := vacant.inside
  have bare : ∀ old, Keyed.get? name entries = some old → old.entries = [] := by
    intro old held
    cases none.symm.trans held
  obtain ⟨there, elsewhere⟩ := at?_putAt node inside bare childless
  exact ⟨there, elsewhere⟩

/-- Nothing stands where a name stands for nothing. -/
theorem Vacant.at?_eq_none {above : Place} {name : Text} (vacant : tree.Vacant above name) :
    tree.at? (above ++ [name]) = none := by
  obtain ⟨entries, inside, none⟩ := vacant.inside
  rw [at?_append, inside, Option.bind_some, at?, Node.entries, none]
  rfl

/-- A tree grows if something is put where nothing was, or where it grows out of what was. -/
theorem Puts.grows {after node : Node} {place : Place} (puts : Puts tree after place node)
    (grown : ∀ old, tree.at? place = some old → Grown old node) : Grows tree after := by
  intro other old stands
  by_cases same : other = place
  · subst same
    exact ⟨node, puts.there, grown old stands⟩
  · have unchanged := puts.elsewhere other same
    rw [stands, Option.map_some] at unchanged
    obtain ⟨later, standsLater, sameOwn⟩ := Option.map_eq_some_iff.mp unchanged
    exact ⟨later, standsLater, .of_own sameOwn⟩

/-- Only the file with a content holds it. -/
theorem own_eq_inl_iff {node : Node} {content : List UInt8} :
    node.own = some (.inl content) ↔ node = .file content := by
  cases node <;> simp [own]

/-- A file stands at a place exactly if its content is held there. -/
theorem map_own_eq_inl_iff {stands : Option Node} {content : List UInt8} :
    stands.map own = some (some (.inl content)) ↔ stands = some (.file content) := by
  cases stands with
  | none => simp
  | some node => simp [own_eq_inl_iff]

/-- A tree keeps its files if what is put holds the same as what was there, or is empty where nothing
was. -/
theorem Puts.retains {after node : Node} {place : Place} (puts : Puts tree after place node)
    (same : ∀ old, tree.at? place = some old → node.own = old.own)
    (empty : tree.at? place = none → ∀ content, node = .file content → content = []) :
    Retains tree after where
  kept other old stands := by
    by_cases here : other = place
    · subst here
      rw [puts.there, Option.map_some, same old stands]
    · rw [puts.elsewhere other here, stands, Option.map_some]
  fresh other content stands := by
    by_cases here : other = place
    · subst here
      obtain rfl := Option.some.inj (puts.there.symm.trans stands)
      cases stood : tree.at? other with
      | none => exact .inr ⟨rfl, empty stood content rfl⟩
      | some old =>
        obtain rfl := own_eq_inl_iff.mp (same old stood).symm
        exact .inl rfl
    · left
      rw [← map_own_eq_inl_iff, ← puts.elsewhere other here, map_own_eq_inl_iff]
      exact stands

/-- Whoever adds to the end of a file, or to none, puts the longer content at the place of the file,
which is made if there was none, and finds it under the path afterwards. -/
theorem exists_of_write {later : Node} {workingPlace : Place} {p : Path}
    {change : List UInt8 → List UInt8} (adds : ∀ content, ∃ added, change content = content ++ added)
    (written : tree.write workingPlace p change = .ok later) :
    ∃ place content, Puts tree later place (.file (change content)) ∧ Grows tree later ∧
      (tree.find workingPlace p = .ok (place, .file content) ∨
        tree.at? place = none ∧ content = []) ∧
      later.find workingPlace p = .ok (place, .file (change content)) := by
  rw [write] at written
  cases led : tree.lookUp workingPlace p true with
  | node place node =>
    rw [led] at written
    have found : tree.find workingPlace p = .ok (place, node) := by rw [find, led]
    cases node with
    | directory entries => cases written
    | link target => cases written
    | file content =>
      obtain rfl := Except.ok.inj written
      have stands := at?_of_find found
      have puts := puts_of_file stands (change content)
      have grows := puts.grows fun old stood => by
        obtain rfl := Option.some.inj (stands.symm.trans stood)
        obtain ⟨added, longer⟩ := adds content
        rw [longer]
        exact .file content added
      obtain ⟨grown, foundLater, -⟩ := grows.find found
      obtain rfl := Option.some.inj ((at?_of_find foundLater).symm.trans puts.there)
      exact ⟨place, content, puts, grows, .inl found, foundLater⟩
  | vacancy above name =>
    rw [led] at written
    obtain rfl := Except.ok.inj written
    have vacant := vacant_of_lookUp led
    have absent := vacant.at?_eq_none
    have puts := vacant.puts (.file (change [])) rfl
    have grows := puts.grows fun old stood => by cases absent.symm.trans stood
    obtain ⟨entries, inside, -⟩ := vacant.inside
    obtain ⟨more, insideLater⟩ := grows.directory inside
    have holds := holds_of_at? insideLater puts.there vacant.plain vacant.short
    have now := persists_lookUp grows workingPlace p
    rw [led] at now
    refine ⟨above ++ [name], [], puts, grows, .inr ⟨absent, rfl⟩, ?_⟩
    rw [find, now _ holds]
  | crossing above target rest =>
    rw [led] at written
    cases written
  | blocked problem =>
    rw [led] at written
    cases written

/-- Opening a file for writing changes no file. -/
theorem retains_of_open {later : Node} {workingPlace : Place} {p : Path}
    (written : tree.write workingPlace p id = .ok later) :
    Retains tree later ∧ ∃ place content, later.find workingPlace p = .ok (place, .file content) := by
  obtain ⟨place, content, puts, -, stood, found⟩ :=
    exists_of_write (fun content => ⟨[], (List.append_nil content).symm⟩) written
  refine ⟨puts.retains (fun old standing => ?_) (fun absent other same => ?_), place, content, found⟩
  · rcases stood with file | ⟨absent, -⟩
    · obtain rfl := Option.some.inj ((at?_of_find file).symm.trans standing)
      rfl
    · cases absent.symm.trans standing
  · rcases stood with file | ⟨-, empty⟩
    · cases (at?_of_find file).symm.trans absent
    · cases same
      exact empty

/-- Making directories goes on from directories that are there, and changes no file. -/
theorem retains_of_go {later : Node} {workingPlace : Place} {done : Path} {names : List Text}
    (made : makeDirectories.go workingPlace done names tree = .ok later) : Retains tree later := by
  induction names generalizing tree done with
  | nil =>
    obtain rfl := Except.ok.inj made
    exact .refl tree
  | cons name rest inductionHypothesis =>
    rw [makeDirectories.go] at made
    cases led : tree.lookUp workingPlace (done.child name) true with
    | node place node =>
      rw [led] at made
      cases node with
      | directory entries => exact inductionHypothesis made
      | _ => cases made
    | vacancy above last =>
      rw [led] at made
      dsimp only at made
      have vacant := vacant_of_lookUp led
      have puts := vacant.puts empty rfl
      have keeps : Retains tree (tree.putAt (above ++ [last]) empty) :=
        puts.retains (fun old stood => by cases vacant.at?_eq_none.symm.trans stood)
          fun _ content same => by cases same
      split at made
      · cases made
      · exact keeps.trans (inductionHypothesis made)
    | crossing above target remaining =>
      rw [led] at made
      cases made
    | blocked problem =>
      rw [led] at made
      cases made

end

end TagAudit.Node

namespace TagAudit

open Node

/-- The file that a destination names is found, if it names one. -/
def Node.FindsFile (tree : Node) (workingPlace : Place) (destination : LogDestination) : Prop :=
  ∀ p, destination.filePath? = some p →
    ∃ place content, tree.find workingPlace p = .ok (place, .file content)

/-- It is still found when the tree has grown. -/
theorem Node.FindsFile.grown {before after : Node} {workingPlace : Place}
    {destination : LogDestination} (finds : before.FindsFile workingPlace destination)
    (grows : Grows before after) : after.FindsFile workingPlace destination := by
  intro p named
  obtain ⟨place, content, found⟩ := finds p named
  obtain ⟨grown, foundLater, growth⟩ := grows.find found
  cases growth with
  | file _ added => exact ⟨place, content ++ added, foundLater⟩

/-- Preparing the file of an output changes no file, and the file is found afterwards. -/
theorem LogOutput.retains_of_prepare {output : LogOutput} {workingPlace : Place} {tree later : Node}
    (prepared : output.prepare workingPlace tree = .ok later) :
    Retains tree later ∧ later.FindsFile workingPlace output.destination := by
  cases goal : output.destination with
  | file path =>
    simp only [LogOutput.prepare, goal, LogDestination.filePath?] at prepared
    cases made : tree.makeDirectories workingPlace path.parent with
    | error problem =>
      rw [made] at prepared
      cases prepared
    | ok between =>
      rw [made] at prepared
      obtain ⟨keeps, found⟩ := retains_of_open prepared
      refine ⟨(retains_of_go made).trans keeps, ?_⟩
      rintro p same
      obtain rfl := Option.some.inj same
      exact found
  | _ =>
    simp only [LogOutput.prepare, goal] at prepared
    obtain rfl := Except.ok.inj prepared
    refine ⟨.refl tree, fun p same => ?_⟩
    cases same

namespace Node

/-- Opening outputs changes no file, and the files of those that were opened are found. -/
theorem retains_of_openOutputs (workingPlace : Place) (outputs : List LogOutput) (tree : Node) :
    Retains tree (openOutputs workingPlace outputs tree).tree ∧
      ∀ output ∈ (openOutputs workingPlace outputs tree).outputs,
        (openOutputs workingPlace outputs tree).tree.FindsFile workingPlace output.destination := by
  induction outputs generalizing tree with
  | nil => exact ⟨.refl tree, fun output among => by cases among⟩
  | cons output rest inductionHypothesis =>
    rw [openOutputs]
    cases prepared : output.prepare workingPlace tree with
    | error problem => exact ⟨.refl tree, fun output among => by cases among⟩
    | ok between =>
      obtain ⟨keeps, finds⟩ := LogOutput.retains_of_prepare prepared
      obtain ⟨keepsLater, findsOthers⟩ := inductionHypothesis between
      refine ⟨keeps.trans keepsLater, fun other among => ?_⟩
      rcases List.mem_cons.mp among with rfl | later
      · exact finds.grown keepsLater.grows
      · exact findsOthers other later

/-- Whether what is written goes to the file at a place. -/
def goesTo (tree : Node) (workingPlace place : Place) (written : Log.Written) : Bool :=
  match written.1.filePath? with
  | some p => (tree.find workingPlace p).toOption.any fun found => decide (found.1 = place)
  | none => false

/-- What is added to the file at a place, of all that is written. -/
def addedAt (tree : Node) (workingPlace place : Place) (written : List Log.Written) : List UInt8 :=
  (written.filter (goesTo tree workingPlace place)).flatMap fun entry => Utf8.encode entry.2

/-- What is written goes to places that are the same when the tree has grown, if it goes to files. -/
theorem goesTo_grown {before after : Node} {workingPlace : Place} {written : Log.Written}
    (grows : Grows before after) (finds : before.FindsFile workingPlace written.1) (place : Place) :
    goesTo after workingPlace place written = goesTo before workingPlace place written := by
  rw [goesTo, goesTo]
  cases named : written.1.filePath? with
  | none => rfl
  | some p =>
    obtain ⟨reached, content, led⟩ := finds p named
    obtain ⟨grown, ledLater, -⟩ := grows.find led
    dsimp only
    rw [led, ledLater]
    rfl

/-- Appending lets a tree grow, whatever comes of it. -/
theorem grows_append (tree : Node) (workingPlace : Place) (written : List Log.Written) :
    Grows tree (tree.append workingPlace written) := by
  induction written generalizing tree with
  | nil => exact (Retains.refl tree).grows
  | cons entry rest inductionHypothesis =>
    obtain ⟨destination, text⟩ := entry
    rw [append, List.foldl_cons]
    refine Grows.trans ?_ (inductionHypothesis _)
    dsimp only
    split
    · split
      · rename_i later written
        obtain ⟨place, content, -, grows, -, -⟩ :=
          exists_of_write (fun content => ⟨Utf8.encode text, rfl⟩) written
        exact grows
      · exact (Retains.refl tree).grows
    · exact (Retains.refl tree).grows

/-- A file that is found can be written to. -/
theorem write_of_find {tree : Node} {workingPlace place : Place} {p : Path} {content : List UInt8}
    (found : tree.find workingPlace p = .ok (place, .file content))
    (change : List UInt8 → List UInt8) :
    tree.write workingPlace p change = .ok (tree.putAt place (.file (change content))) := by
  rw [find] at found
  cases led : tree.lookUp workingPlace p true with
  | node reached node =>
    rw [led] at found
    obtain ⟨rfl, rfl⟩ := Prod.mk.inj (Except.ok.inj found)
    rw [write, led]
  | _ =>
    rw [led] at found
    cases found

/-- What is written to a stream adds to no file. -/
theorem append_stream {destination : LogDestination} (stream : destination.filePath? = none)
    (tree : Node) (workingPlace : Place) (text : Text) (rest : List Log.Written) :
    tree.append workingPlace ((destination, text) :: rest) = tree.append workingPlace rest ∧
      ∀ place, addedAt tree workingPlace place ((destination, text) :: rest) =
        addedAt tree workingPlace place rest := by
  constructor
  · rw [append, append, List.foldl_cons]
    simp only [stream]
  · intro place
    simp [addedAt, goesTo, stream]

/-- What is written to a file that is found adds to this file. -/
theorem append_file {destination : LogDestination} {p : Path} {tree : Node}
    {workingPlace reached : Place} {old : List UInt8} (named : destination.filePath? = some p)
    (found : tree.find workingPlace p = .ok (reached, .file old)) (text : Text)
    (rest : List Log.Written) :
    tree.append workingPlace ((destination, text) :: rest) =
        (tree.putAt reached (.file (old ++ Utf8.encode text))).append workingPlace rest ∧
      ∀ place, addedAt tree workingPlace place ((destination, text) :: rest) =
        (if place = reached then Utf8.encode text else []) ++
          addedAt tree workingPlace place rest := by
  constructor
  · rw [append, append, List.foldl_cons]
    simp only [named, write_of_find found]
  · intro place
    have goes : goesTo tree workingPlace place (destination, text) = decide (reached = place) := by
      rw [goesTo, named]
      dsimp only
      rw [found]
      rfl
    by_cases here : place = reached
    · subst here
      simp [addedAt, goes]
    · simp [addedAt, goes, here, Ne.symm here]

/-- What is added in a tree that has grown is added to the same files. -/
theorem addedAt_grown {before after : Node} {workingPlace : Place} {written : List Log.Written}
    (grows : Grows before after)
    (finds : ∀ entry ∈ written, before.FindsFile workingPlace entry.1) (place : Place) :
    addedAt after workingPlace place written = addedAt before workingPlace place written := by
  have same : written.filter (goesTo after workingPlace place) =
      written.filter (goesTo before workingPlace place) := by
    apply List.filter_congr
    intro entry among
    exact goesTo_grown grows (finds entry among) place
  rw [addedAt, addedAt, same]

/-- Appending adds to every file what is written to paths that lead to it, and changes nothing else,
as long as the files are found that are written to. -/
theorem append_exact {tree : Node} {workingPlace : Place} {written : List Log.Written}
    (finds : ∀ entry ∈ written, tree.FindsFile workingPlace entry.1) :
    Grows tree (tree.append workingPlace written) ∧
    ∀ place,
      (∀ content, tree.at? place = some (.file content) →
        (tree.append workingPlace written).at? place =
          some (.file (content ++ addedAt tree workingPlace place written))) ∧
      ((∀ content, tree.at? place ≠ some (.file content)) →
        ((tree.append workingPlace written).at? place).map own = (tree.at? place).map own) := by
  induction written generalizing tree with
  | nil =>
    refine ⟨(Retains.refl tree).grows, fun place => ⟨fun content stands => ?_, fun _ => rfl⟩⟩
    simpa [append, addedAt] using stands
  | cons entry rest inductionHypothesis =>
    obtain ⟨destination, text⟩ := entry
    have findsRest := fun other among => finds other (List.mem_cons_of_mem _ among)
    cases named : destination.filePath? with
    | none =>
      obtain ⟨passed, added⟩ := append_stream named tree workingPlace text rest
      simp only [passed, added]
      exact inductionHypothesis findsRest
    | some p =>
      obtain ⟨reached, old, led⟩ := finds _ List.mem_cons_self p named
      obtain ⟨onward, added⟩ := append_file named led text rest
      have stood := at?_of_find led
      have puts := puts_of_file stood (old ++ Utf8.encode text)
      have grows := puts.grows fun node standing => by
        obtain rfl := Option.some.inj (stood.symm.trans standing)
        exact .file old (Utf8.encode text)
      obtain ⟨growsLater, addsLater⟩ :=
        inductionHypothesis fun other among => (findsRest other among).grown grows
      rw [onward]
      refine ⟨grows.trans growsLater, fun place => ?_⟩
      obtain ⟨longer, others⟩ := addsLater place
      rw [addedAt_grown grows findsRest] at longer
      rw [added]
      by_cases here : place = reached
      · subst here
        rw [if_pos rfl]
        refine ⟨fun content stands => ?_, fun none => (none old stood).elim⟩
        obtain rfl := (Node.file.inj (Option.some.inj (stood.symm.trans stands)))
        rw [longer _ puts.there, List.append_assoc]
      · have same := puts.elsewhere place here
        have sameFile (content : List UInt8) :
            (tree.putAt reached (.file (old ++ Utf8.encode text))).at? place =
              some (.file content) ↔ tree.at? place = some (.file content) := by
          rw [← map_own_eq_inl_iff, same, map_own_eq_inl_iff]
        rw [if_neg here, List.nil_append]
        refine ⟨fun content stands => longer content ((sameFile content).mpr stands), ?_⟩
        intro none
        rw [others fun content stands => none content ((sameFile content).mp stands), same]

end Node

end TagAudit
