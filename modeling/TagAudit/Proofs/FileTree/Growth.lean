import TagAudit.FileTree.Edit
import TagAudit.Proofs.FileTree.Leads

/-!
# Growing file trees

Who makes directories, makes files and adds to the end of files lets a tree grow: whatever stood at a
place still stands there, a link with the same text, a directory perhaps with more in it, and a file
perhaps with more behind its old content. A look-up that led to a node leads to the same place
afterwards, because nothing that it went through has gone.

Putting a node at a place changes no other file and no link. So what a file holds after several
texts were added to files is what it held before and, behind that, the texts that were added to it.
-/

namespace TagAudit.Node

/-- What a node holds by itself: the content of a file or the text of a link. A directory holds
nothing by itself. -/
def own : Node → Option (List UInt8 ⊕ Text)
  | file content => some (.inl content)
  | link target => some (.inr target)
  | directory _ => none

section
variable {tree : Node}

/-- What is put at a place is there, whatever was. -/
theorem update_put (node : Node) (place : Place) (before : Option Node) :
    update (fun _ => some node) place before = some ((before.getD empty).putAt place node) := by
  cases place with
  | nil => rfl
  | cons name rest =>
    have same : update (fun _ => some node) (name :: rest) before =
        update (fun _ => some node) (name :: rest) (some (before.getD empty)) := by
      rw [update, update, Option.getD_some]
    rw [putAt, same]
    cases before.getD empty with
    | file content => rfl
    | link target => rfl
    | directory entries =>
      rw [update, Option.getD_some]
      dsimp only
      split <;> rfl

/-- Putting something below a directory puts it below what the directory holds under the first
name. -/
theorem putAt_cons (entries : List (Text × Node)) (name : Text) (rest : Place) (node : Node) :
    (directory entries).putAt (name :: rest) node = directory (Keyed.put name
      (((Keyed.get? name entries).getD empty).putAt rest node) entries) := by
  rw [putAt, update, Option.getD_some]
  dsimp only
  rw [update_put]
  rfl

/-- Below something that holds no entries nothing stands. -/
theorem at?_cons_of_childless {node : Node} (childless : node.entries = []) (name : Text)
    (rest : Place) : node.at? (name :: rest) = none := by
  rw [at?, childless]
  rfl

/-- Where a name in a directory stands for nothing that holds entries, a node that holds none can be
put there. No other place has anything else afterwards, but for what directories hold. -/
theorem at?_putAt {above : Place} {name : Text} {entries : List (Text × Node)} (node : Node)
    (inside : tree.at? above = some (.directory entries))
    (bare : ∀ old, Keyed.get? name entries = some old → old.entries = [])
    (childless : node.entries = []) :
    (tree.putAt (above ++ [name]) node).at? (above ++ [name]) = some node ∧
      ∀ other, other ≠ above ++ [name] →
        ((tree.putAt (above ++ [name]) node).at? other).map own = (tree.at? other).map own := by
  induction above generalizing tree with
  | nil =>
    obtain rfl := Option.some.inj inside
    rw [List.nil_append, putAt_cons]
    have put : (((Keyed.get? name entries).getD empty).putAt [] node) = node := rfl
    rw [put]
    constructor
    · simp [at?, Node.entries]
    intro other different
    cases other with
    | nil => rfl
    | cons first rest =>
      by_cases same : first = name
      · subst same
        cases rest with
        | nil => exact (different rfl).elim
        | cons next rest =>
          have gone : ((directory entries).at? (first :: next :: rest)) = none := by
            rw [at?, Node.entries]
            cases held : Keyed.get? first entries with
            | none => rfl
            | some old => exact at?_cons_of_childless (bare old held) next rest
          rw [gone, at?, Node.entries, Keyed.get?_put_self]
          exact congrArg (Option.map own) (at?_cons_of_childless childless next rest)
      · rw [at?, at?, Node.entries, Node.entries, Keyed.get?_put_of_ne _ _ _ _ same]
  | cons first above inductionHypothesis =>
    cases tree with
    | file content => cases inside
    | link target => cases inside
    | directory outer =>
      obtain ⟨sub, held, further⟩ := Option.bind_eq_some_iff.mp inside
      rw [Node.entries] at held
      obtain ⟨there, elsewhere⟩ := inductionHypothesis further
      rw [List.cons_append, putAt_cons, held, Option.getD_some]
      constructor
      · rw [at?, Node.entries, Keyed.get?_put_self]
        exact there
      intro other different
      cases other with
      | nil => rfl
      | cons next rest =>
        rw [at?, at?, Node.entries, Node.entries]
        by_cases same : next = first
        · subst same
          rw [Keyed.get?_put_self, held]
          exact elsewhere rest fun same => different (by rw [same])
        · rw [Keyed.get?_put_of_ne _ _ _ _ same]

end

/-- What becomes of a node as long as things are only added. -/
inductive Grown : Node → Node → Prop where
  | file (content added : List UInt8) : Grown (.file content) (.file (content ++ added))
  | link (target : Text) : Grown (.link target) (.link target)
  | directory (entries more : List (Text × Node)) : Grown (.directory entries) (.directory more)

/-- A node that holds the same by itself has grown, if only by nothing. -/
theorem Grown.of_own {node grown : Node} (same : grown.own = node.own) : Grown node grown := by
  cases node with
  | file content =>
    cases grown with
    | file other =>
      obtain rfl : other = content := by simpa [own] using same
      simpa using Grown.file other []
    | _ => simp [own] at same
  | link target =>
    cases grown with
    | link other =>
      obtain rfl : other = target := by simpa [own] using same
      exact .link other
    | _ => simp [own] at same
  | directory entries =>
    cases grown with
    | directory more => exact .directory entries more
    | _ => simp [own] at same

/-- What has grown twice has grown. -/
theorem Grown.trans {node grown later : Node} (first : Grown node grown)
    (second : Grown grown later) : Grown node later := by
  cases first with
  | file content added =>
    cases second with
    | file _ more =>
      rw [List.append_assoc]
      exact .file content (added ++ more)
  | link target =>
    cases second with
    | link => exact .link target
  | directory entries more =>
    cases second with
    | directory _ others => exact .directory entries others

/-- A tree has grown out of another: whatever stood in that one stands in it at the same place. -/
def Grows (before after : Node) : Prop :=
  ∀ place node, before.at? place = some node →
    ∃ grown, after.at? place = some grown ∧ Grown node grown

/-- A tree has grown out of another only by what is empty: every file is as long as it was, and a
file that was not there holds nothing. -/
structure Retains (before after : Node) : Prop where
  kept (place : Place) (node : Node) (stands : before.at? place = some node) :
    (after.at? place).map own = some node.own
  fresh (place : Place) (content : List UInt8) (stands : after.at? place = some (.file content)) :
    before.at? place = some (.file content) ∨ before.at? place = none ∧ content = []

/-- A tree grows out of itself. -/
theorem Retains.refl (tree : Node) : Retains tree tree where
  kept place node stands := by rw [stands, Option.map_some]
  fresh _ _ stands := .inl stands

/-- Keeping all files as they are is a way to grow. -/
theorem Retains.grows {before after : Node} (keeps : Retains before after) : Grows before after := by
  intro place node stands
  obtain ⟨grown, standsLater, same⟩ := Option.map_eq_some_iff.mp (keeps.kept place node stands)
  exact ⟨grown, standsLater, .of_own same⟩

/-- A tree that keeps what has kept all keeps all. -/
theorem Retains.trans {before between after : Node} (first : Retains before between)
    (second : Retains between after) : Retains before after where
  kept place node stands := by
    obtain ⟨kept, standsLater, same⟩ := Option.map_eq_some_iff.mp (first.kept place node stands)
    rw [second.kept place kept standsLater, same]
  fresh place content stands := by
    rcases second.fresh place content stands with between | ⟨absent, empty⟩
    · exact first.fresh place content between
    · refine .inr ⟨?_, empty⟩
      cases stood : before.at? place with
      | none => rfl
      | some node =>
        have kept := first.kept place node stood
        rw [absent] at kept
        cases kept

/-- A tree that grows out of what has grown has grown. -/
theorem Grows.trans {before between after : Node} (first : Grows before between)
    (second : Grows between after) : Grows before after := by
  intro place node stands
  obtain ⟨grown, standsLater, growth⟩ := first place node stands
  obtain ⟨later, standsAtLast, further⟩ := second place grown standsLater
  exact ⟨later, standsAtLast, growth.trans further⟩

/-- A name in a directory stands for what stands at the place with that name. -/
theorem holds_of_at? {tree : Node} {place : Place} {name : Text} {node : Node}
    {entries : List (Text × Node)} (inside : tree.at? place = some (.directory entries))
    (stands : tree.at? (place ++ [name]) = some node) (plain : name ≠ Path.up)
    (short : name.byteCount ≤ nameLimit) : tree.Holds place name node := by
  refine ⟨⟨entries, inside, ?_⟩, plain, short⟩
  rw [at?_append, inside, Option.bind_some, at?, Node.entries] at stands
  obtain ⟨held, found, same⟩ := Option.bind_eq_some_iff.mp stands
  rw [found]
  exact same

/-- In a directory a name that could be looked up stands for nothing. -/
structure Vacant (tree : Node) (place : Place) (name : Text) : Prop where
  inside : ∃ entries, tree.at? place = some (.directory entries) ∧ Keyed.get? name entries = none
  plain : name ≠ Path.up
  short : name.byteCount ≤ nameLimit

/-- What was looked up in a tree and is looked up again in one that has grown out of it: nodes and
links are met again, and where nothing stood a file may be found. -/
def Persists (after : Node) (now : Reached) : Reached → Prop
  | .node place node => ∃ grown, now = .node place grown ∧ Grown node grown
  | .crossing above target rest => now = .crossing above target rest
  | .vacancy above name => ∀ content, after.Holds above name (.file content) →
      now = .node (above ++ [name]) (.file content)
  | .blocked _ => True

section
variable {before after : Node} (grows : Grows before after)
include grows

/-- A directory is still a directory. -/
theorem Grows.directory {place : Place} {entries : List (Text × Node)}
    (inside : before.at? place = some (.directory entries)) :
    ∃ more, after.at? place = some (.directory more) := by
  obtain ⟨grown, stands, growth⟩ := grows _ _ inside
  cases growth with
  | directory _ more => exact ⟨more, stands⟩

/-- A name stands for what has become of its node. -/
theorem Grows.holds {place : Place} {name : Text} {node : Node}
    (holds : before.Holds place name node) :
    ∃ grown, after.Holds place name grown ∧ Grown node grown := by
  obtain ⟨grown, stands, growth⟩ := grows _ _ holds.at?
  obtain ⟨entries, inside, -⟩ := holds.inside
  obtain ⟨more, insideLater⟩ := grows.directory inside
  exact ⟨grown, holds_of_at? insideLater stands holds.plain holds.short, growth⟩

/-- Going through names leads as far as it did. -/
theorem persists_advance (place : Place) (names : List Text) :
    Persists after (advance after true place names) (advance before true place names) := by
  induction names generalizing place with
  | nil =>
    cases stands : before.at? place with
    | none => simp [advance, stands, Persists]
    | some node =>
      obtain ⟨grown, standsLater, growth⟩ := grows place node stands
      simpa [advance, stands, standsLater, Persists] using growth
  | cons name rest inductionHypothesis =>
    cases stands : before.at? place with
    | none => simp [advance, stands, Persists]
    | some node =>
      cases node with
      | file content => simp [advance, stands, Persists]
      | link target => simp [advance, stands, Persists]
      | directory entries =>
        obtain ⟨more, standsLater⟩ := grows.directory stands
        by_cases plain : name = Path.up
        · subst plain
          have upwards := inductionHypothesis place.dropLast
          simpa [advance, stands, standsLater] using upwards
        · by_cases short : name.byteCount ≤ nameLimit
          · cases held : Keyed.get? name entries with
            | none =>
              cases rest with
              | nil =>
                have vacant : advance before true place [name] = .vacancy place name := by
                  simp [advance, stands, plain, Nat.not_lt.mpr short, held]
                rw [vacant]
                intro content holds
                exact holds.advance_file
              | cons next rest =>
                simp [advance, stands, plain, Nat.not_lt.mpr short, held, Persists]
            | some node =>
              have holds : before.Holds place name node := ⟨⟨entries, stands, held⟩, plain, short⟩
              obtain ⟨grown, holdsLater, growth⟩ := grows.holds holds
              cases growth with
              | file content added =>
                cases rest with
                | nil =>
                  rw [holds.advance_file, holdsLater.advance_file]
                  exact ⟨_, rfl, .file content added⟩
                | cons next rest =>
                  simp [advance, stands, plain, Nat.not_lt.mpr short, held, Persists]
              | link target =>
                rw [holds.advance_link, holdsLater.advance_link]
                rfl
              | directory inner more =>
                rw [holds.advance_directory, holdsLater.advance_directory]
                exact inductionHypothesis (place ++ [name])
          · simp [advance, stands, plain, Nat.lt_of_not_le short, Persists]

/-- So does looking names up without links to be crossed. -/
theorem persists_reach_of_uncrossed (links : Nat) (place : Place) (names : List Text)
    (uncrossed : ∀ above target rest,
      advance before true place names ≠ .crossing above target rest) :
    Persists after (reach after true links place names) (reach before true links place names) := by
  have now := persists_advance grows place names
  cases found : advance before true place names with
  | crossing above target rest => exact (uncrossed above target rest found).elim
  | node reached node =>
    rw [found] at now
    obtain ⟨grown, foundLater, growth⟩ := now
    cases links <;> (rw [reach, reach, found, foundLater]; exact ⟨grown, rfl, growth⟩)
  | vacancy above name =>
    rw [found] at now
    have vacant : reach before true links place names = .vacancy above name := by
      cases links <;> rw [reach, found]
    rw [vacant]
    intro content holds
    cases links <;> rw [reach, now content holds]
  | blocked problem =>
    have blocked : reach before true links place names = .blocked problem := by
      cases links <;> rw [reach, found]
    rw [blocked]
    trivial

/-- So does looking names up across links. -/
theorem persists_reach (links : Nat) (place : Place) (names : List Text) :
    Persists after (reach after true links place names) (reach before true links place names) := by
  induction links generalizing place names with
  | zero =>
    cases found : advance before true place names with
    | crossing above target rest =>
      rw [reach, reach, found]
      trivial
    | _ => exact persists_reach_of_uncrossed grows 0 place names (by simp [found])
  | succ links inductionHypothesis =>
    cases found : advance before true place names with
    | crossing above target rest =>
      have now := persists_advance grows place names
      rw [found] at now
      have foundLater : advance after true place names = .crossing above target rest := now
      rw [reach, reach, found, foundLater]
      exact inductionHypothesis _ _
    | _ => exact persists_reach_of_uncrossed grows (links + 1) place names (by simp [found])

/-- So does looking a path up. -/
theorem persists_lookUp (workingPlace : Place) (p : Path) :
    Persists after (after.lookUp workingPlace p true) (before.lookUp workingPlace p true) := by
  rw [lookUp, lookUp]
  cases p.toText.pathProblem? with
  | some problem => trivial
  | none => exact persists_reach grows linkLimit _ _

/-- A path that led to a node leads to what has become of it. -/
theorem Grows.find {workingPlace : Place} {p : Path} {place : Place} {node : Node}
    (found : before.find workingPlace p = .ok (place, node)) :
    ∃ grown, after.find workingPlace p = .ok (place, grown) ∧ Grown node grown := by
  have now := persists_lookUp grows workingPlace p
  rw [Node.find] at found
  cases led : before.lookUp workingPlace p true with
  | node reached stop =>
    rw [led] at found now
    obtain ⟨rfl, rfl⟩ := Prod.mk.inj (Except.ok.inj found)
    obtain ⟨grown, ledLater, growth⟩ := now
    exact ⟨grown, by rw [Node.find, ledLater], growth⟩
  | _ =>
    rw [led] at found
    cases found

end

end TagAudit.Node
