import TagAudit.FileTree

/-!
# Changing a file tree

A change puts a node at a place or takes one away; everything else stays where it is. Changes by
path follow links on the way, and writing to a link writes what the link leads to.
-/

namespace TagAudit.Node

/-- The tree with the node at a place exchanged. Directories on the way are made where nothing
    stands, and a name under something else than a directory changes nothing. -/
def update (change : Option Node → Option Node) : Place → Option Node → Option Node
  | [], node => change node
  | name :: rest, node =>
    match node.getD empty with
    | directory entries =>
      match update change rest (Keyed.get? name entries) with
      | some below => some (directory (Keyed.put name below entries))
      | none => some (directory (Keyed.without name entries))
    | other => some other

/-- The tree with a node put at a place. -/
def putAt (tree : Node) (place : Place) (node : Node) : Node :=
  (update (fun _ => some node) place (some tree)).getD empty

/-- The tree without the node at a place. -/
def removeAt (tree : Node) (place : Place) : Node :=
  (update (fun _ => none) place (some tree)).getD empty

/-- Makes the directory that a path means, and those above it that are not there. What is given
    first are the names that have still to be gone through. -/
def makeDirectories (tree : Node) (workingPlace : Place) (p : Path) : Except PathProblem Node :=
  go ⟨p.slashes, []⟩ p.parts tree
where
  /-- Goes on from a directory that is there. -/
  go (done : Path) : List Text → Node → Except PathProblem Node
    | [], tree => .ok tree
    | name :: rest, tree =>
      let next := done.child name
      match tree.lookUp workingPlace next true with
      | .node _ (directory _) => go next rest tree
      | .node .. => .error (if rest.isEmpty then .alreadyThere else .notDirectory)
      | .vacancy place name =>
        match tree.lookUp workingPlace next false with
        | .node .. => .error .alreadyThere
        | _ => go next rest (tree.putAt (place ++ [name]) empty)
      | .crossing .. => .error .tooManyLinks
      | .blocked problem => .error problem

/-- Writes a file; what was in it is given to the change. -/
def write (tree : Node) (workingPlace : Place) (p : Path) (change : List UInt8 → List UInt8) :
    Except PathProblem Node :=
  match tree.lookUp workingPlace p true with
  | .node place (file content) => .ok (tree.putAt place (file (change content)))
  | .node _ (directory _) => .error .isDirectory
  | .node _ (link _) | .crossing .. => .error .tooManyLinks
  | .vacancy place name => .ok (tree.putAt (place ++ [name]) (file (change [])))
  | .blocked problem => .error problem

/-- Writes a file after making the directories above it. -/
def writeFile (tree : Node) (workingPlace : Place) (p : Path) (content : List UInt8) :
    Except PathProblem Node := do
  (← tree.makeDirectories workingPlace p.parent).write workingPlace p fun _ => content

/-- Puts a link at a path after making the directories above it. A link holds a text that can be
    looked up and is not empty. -/
def putLink (tree : Node) (workingPlace : Place) (p : Path) (target : Text) :
    Except PathProblem Node := do
  let tree ← tree.makeDirectories workingPlace p.parent
  match target.pathProblem?, tree.lookUp workingPlace p false with
  | some problem, _ => .error problem
  | none, .blocked problem => .error (if target.isEmpty then .missing else problem)
  | none, .vacancy place name =>
    if target.isEmpty then .error .missing
    else .ok (tree.putAt (place ++ [name]) (link target))
  | none, _ => .error (if target.isEmpty then .missing else .alreadyThere)

/-- Takes away what stands at a path, be it a file, a link or a directory with all in it. -/
def remove (tree : Node) (workingPlace : Place) (p : Path) : Except PathProblem Node :=
  match tree.lookUp workingPlace p false with
  | .node place _ => .ok (tree.removeAt place)
  | .vacancy .. => .error .missing
  | .crossing .. => .error .tooManyLinks
  | .blocked problem => .error problem

end TagAudit.Node
