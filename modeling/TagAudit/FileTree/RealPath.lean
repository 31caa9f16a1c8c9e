import TagAudit.FileTree

/-!
# Real paths

The real path of a path is absolute and has no links and no dots in it. It need not lead anywhere:
from the first name that is not there, names are simply appended and two dots drop the name before
them. A link that is met again while it is being followed is kept as a name, and then what remains
of the path is appended with its dots taken literally; if that still leads in circles, the path has
no real path.
-/

namespace TagAudit.Node

/-- A real path so far, and whether it is free of links that lead back to themselves. -/
structure Resolution where
  place : Place
  sound : Bool

/-- Takes names in turn, given how to resolve what a link holds from the directory it stands in. -/
def resolveThrough (tree : Node) (follow : Place → Text → Place → Resolution) :
    Place → List Text → Resolution
  | place, [] => ⟨place, true⟩
  | place, name :: rest =>
    if name = Path.up then resolveThrough tree follow place.dropLast rest
    else
      let next := place ++ [name]
      match tree.at? next with
      | some (link target) =>
        let resolved := follow place target next
        if resolved.sound then resolveThrough tree follow resolved.place rest
        else ⟨resolved.place ++ rest, false⟩
      | _ => resolveThrough tree follow next rest

/-- Resolves names with the links that are being followed, which are at most a number. -/
def resolve (tree : Node) : (links : Nat) → (entered : List Place) → Place → List Text → Resolution
  | 0, _, place, names => ⟨place ++ names, false⟩
  | links + 1, entered, place, names =>
    resolveThrough tree
      (fun directory target here =>
        if entered.contains here then ⟨here, false⟩
        else
          let target := Path.ofText target
          resolve tree links (here :: entered) (startOf directory target) target.parts)
      place names

mutual
/-- The number of links in a tree. -/
def linkCount : Node → Nat
  | file _ => 0
  | link _ => 1
  | directory entries => linkCounts entries

/-- The number of links in the entries of a directory. -/
def linkCounts : List (Text × Node) → Nat
  | [] => 0
  | (_, node) :: rest => linkCount node + linkCounts rest
end

/-- Names with two dots taken literally: each drops the name before it. -/
def collapse (names : List Text) : Place :=
  names.foldl (fun place name => if name = Path.up then place.dropLast else place ++ [name]) []

/-- The real path of a path, unless it is no path at all or leads in circles. How long it is does
    not matter. -/
def realPath (tree : Node) (workingPlace : Place) (p : Path) : Except PathProblem Path :=
  let resolved := resolve tree (tree.linkCount + 2) [] (startOf workingPlace p) p.parts
  let real : Path := ⟨1, collapse resolved.place⟩
  match p.toText.pathProblem?, tree.find [] real with
  | some .notBytes, _ => .error .notBytes
  | some .holdsNull, _ => .error .holdsNull
  | _, .error .tooManyLinks => .error .tooManyLinks
  | _, _ => .ok real

end TagAudit.Node
