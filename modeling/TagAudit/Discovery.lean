import TagAudit.Failure
import TagAudit.FileTree

/-!
# Discovering class files

Under a root directory every entry is a class file that is no directory and whose name has the
right ending. Links to directories are directories, and are not entered; links to anything else,
links to nothing and links that lead in circles are files as far as discovery is concerned.
Directories with an excluded name are left out with all that is in them, the root apart.

Whether a link leads to a directory is found out by looking up the path under which it is met. So
the links on the way to the root count among those that a look-up may follow, and a link whose path
is too long is a file as well. A directory whose path is too long cannot be entered.

The files come in the order of their paths, whatever the order of entries in a directory.
-/

namespace TagAudit

/-- What to look for. -/
structure Search where
  extension : Text
  excluded : List Text

namespace Search

mutual
/-- The class files below a node that is an entry of a directory, as paths from that directory. The
    test tells which names, from the root of the search on, are found to lead to directories, and
    the names above are those of the directory. -/
def underEntry (search : Search) (leadsToDirectory : List Text → Bool) (above : List Text)
    (name : Text) : Node → List (List Text)
  | .directory entries =>
    if search.excluded.contains name || !leadsToDirectory (above ++ [name]) then []
    else (underEntries search leadsToDirectory (above ++ [name]) entries).map (name :: ·)
  | .file _ => if name.endsWith search.extension then [[name]] else []
  | .link _ =>
    if name.endsWith search.extension && !leadsToDirectory (above ++ [name]) then [[name]] else []

/-- The class files below the entries of a directory, as paths from it. -/
def underEntries (search : Search) (leadsToDirectory : List Text → Bool) (above : List Text) :
    List (Text × Node) → List (List Text)
  | [] => []
  | (name, node) :: rest =>
    underEntry search leadsToDirectory above name node
      ++ underEntries search leadsToDirectory above rest
end

/-- Why nothing is discovered. -/
inductive Problem where
  | failure (f : Failure)
  /-- It cannot even be asked whether the root is there. -/
  | unaskable (problem : PathProblem)

/-- How names below a root are spelled while they are searched: below the empty path with a dot in
    front. -/
def spelling (root : Path) (names : List Text) : Text :=
  if root.slashes = 0 ∧ root.parts.isEmpty then "./" ++ (root.below names).toText
  else (root.below names).toText

/-- Whether names below a root lead to a directory, as far as that can be found out. -/
def leadsToDirectory (tree : Node) (workingPlace : Place) (root : Path) (names : List Text) :
    Bool :=
  (spelling root names).pathProblem?.isNone
    && (tree.hasDirectory workingPlace (root.below names)).toOption.getD false

/-- The class files under a root, in order. -/
def run (search : Search) (tree : Node) (workingPlace : Place) (root : Path) :
    Except Problem (List Path) :=
  match tree.find workingPlace root with
  | .error .nameTooLong => .error (.unaskable .nameTooLong)
  | .error _ => .error (.failure (.rootNotFound (.text root.toText)))
  | .ok (_, .directory entries) =>
    let found := search.underEntries (leadsToDirectory tree workingPlace root) [] entries
    .ok ((found.map root.below).mergeSort Path.precedes)
  | .ok _ => .error (.failure (.rootNotDirectory (.text root.toText)))

end Search

end TagAudit
