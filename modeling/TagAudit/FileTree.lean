import TagAudit.Path
import TagAudit.Keyed

/-!
# File trees

A file tree is a value: files with their bytes, links with the text they hold, and directories with
named entries. A place in a tree is the list of names that lead to it from the root through real
directories.

Looking a path up follows links: what a link holds takes the place of its name, from the directory
that the link stands in. At most forty links are followed in one look-up. Two dots lead to the
directory above the one that was reached, and the root is above itself. A slash at the end of what a
link holds makes no difference here, where a file system insists on a directory.

Names are bytes in the end: a surrogate from the last part of its range stands for a single byte,
and other surrogates for nothing. A name in a directory and a path as a whole must not be too long.
-/

namespace TagAudit

/-- A file, a link or a directory. -/
inductive Node where
  | file (content : List UInt8)
  | link (target : Text)
  | directory (entries : List (Text × Node))

/-- Why a path cannot be used. -/
inductive PathProblem where
  | missing
  | alreadyThere
  | notDirectory
  | isDirectory
  | tooManyLinks
  | nameTooLong
  /-- The path holds the code point with the number zero. -/
  | holdsNull
  /-- The path holds a surrogate that stands for no byte. -/
  | notBytes
deriving DecidableEq

namespace PathProblem

/-- The number of a problem and the words for it. -/
def number : PathProblem → Nat
  | missing => 2 | alreadyThere => 17 | notDirectory => 20 | isDirectory => 21 | holdsNull => 22
  | nameTooLong => 36 | tooManyLinks => 40 | notBytes => 84

/-- The words for a problem. -/
def words : PathProblem → Text
  | missing => "No such file or directory"
  | alreadyThere => "File exists"
  | notDirectory => "Not a directory"
  | isDirectory => "Is a directory"
  | tooManyLinks => "Too many levels of symbolic links"
  | nameTooLong => "File name too long"
  | holdsNull => "Invalid argument"
  | notBytes => "Invalid or incomplete multibyte or wide character"

end PathProblem

namespace CodePoint

/-- The number of bytes that a code point takes up in a name. -/
def byteCount (c : CodePoint) : Nat :=
  if c.isByte || c.val < 0x80 then 1
  else if c.val < 0x800 then 2
  else if c.val < 0x10000 then 3
  else 4

end CodePoint

/-- The number of bytes that a name takes up. -/
def Text.byteCount (t : Text) : Nat := t.foldl (fun n c => n + c.byteCount) 0

/-- The most bytes that a name in a directory may take up. -/
def nameLimit : Nat := 255

/-- The number of bytes that are too many for a path. -/
def pathLimit : Nat := 4096

/-- Why a text is the spelling of no path, if it is not. -/
def Text.pathProblem? (t : Text) : Option PathProblem :=
  if t.any fun c => c.isSurrogate && !c.isByte then some .notBytes
  else if t.any fun c => c.val = 0 then some .holdsNull
  else if pathLimit ≤ t.byteCount then some .nameTooLong
  else none

/-- The names that lead from the root to a node, through directories only. -/
abbrev Place := List Text

namespace Node

/-- An empty tree. -/
def empty : Node := .directory []

/-- The entries of a directory; other nodes have none. -/
def entries : Node → Keyed Text Node
  | directory entries => entries
  | _ => []

/-- Whether a node is a directory. -/
def isDirectory : Node → Bool
  | directory _ => true
  | _ => false

/-- The node at a place. -/
def at? (tree : Node) : Place → Option Node
  | [] => some tree
  | name :: rest => ((tree.entries.get? name).bind fun node => node.at? rest)

/-- Where a look-up has led. -/
inductive Reached where
  /-- A file or a directory, or an unfollowed link, at a place. -/
  | node (place : Place) (node : Node)
  /-- Nothing stands under a last name in an existing directory. -/
  | vacancy (above : Place) (name : Text)
  /-- A link, with the directory it stands in and the names that remain after it. -/
  | crossing (above : Place) (target : Text) (rest : List Text)
  | blocked (problem : PathProblem)

/-- Goes from a directory through names until they are used up or a link has to be followed. The
    flag says whether a link under the last name is followed. -/
def advance (tree : Node) (followLast : Bool) (place : Place) : List Text → Reached
  | [] =>
    match tree.at? place with
    | some node => .node place node
    | none => .blocked .missing
  | name :: rest =>
    match tree.at? place with
    | some (.directory entries) =>
      if name = Path.up then advance tree followLast place.dropLast rest
      else if nameLimit < name.byteCount then .blocked .nameTooLong
      else match Keyed.get? name entries with
      | none => if rest.isEmpty then .vacancy place name else .blocked .missing
      | some (.link target) =>
        if rest.isEmpty && !followLast then .node (place ++ [name]) (.link target)
        else .crossing place target rest
      | some (.directory _) => advance tree followLast (place ++ [name]) rest
      | some (.file content) =>
        if rest.isEmpty then .node (place ++ [name]) (.file content) else .blocked .notDirectory
    | some _ => .blocked .notDirectory
    | none => .blocked .missing

/-- The place from which a path is looked up. -/
def startOf (workingPlace : Place) (p : Path) : Place := if p.isAbsolute then [] else workingPlace

/-- Looks names up, following a number of links at most. -/
def reach (tree : Node) (followLast : Bool) : (links : Nat) → Place → List Text → Reached
  | 0, place, names =>
    match advance tree followLast place names with
    | .crossing .. => .blocked .tooManyLinks
    | reached => reached
  | links + 1, place, names =>
    match advance tree followLast place names with
    | .crossing start target rest =>
      let target := Path.ofText target
      reach tree followLast links (startOf start target) (target.parts ++ rest)
    | reached => reached

/-- The number of links that one look-up may follow. -/
def linkLimit : Nat := 40

/-- Looks a path up from a working place, with a link at its end followed or not. -/
def lookUp (tree : Node) (workingPlace : Place) (p : Path) (followLast : Bool) : Reached :=
  match p.toText.pathProblem? with
  | some problem => .blocked problem
  | none => reach tree followLast linkLimit (startOf workingPlace p) p.parts

/-- The place and the node that a path leads to. -/
def find (tree : Node) (workingPlace : Place) (p : Path) : Except PathProblem (Place × Node) :=
  match tree.lookUp workingPlace p true with
  | .node place node => .ok (place, node)
  | .vacancy .. => .error .missing
  | .crossing .. => .error .tooManyLinks
  | .blocked problem => .error problem

/-- The node that a path leads to, if it leads to one. Of a path that is too long that cannot even
    be asked. -/
def find? (tree : Node) (workingPlace : Place) (p : Path) : Except PathProblem (Option Node) :=
  match tree.find workingPlace p with
  | .ok (_, node) => .ok (some node)
  | .error .nameTooLong => .error .nameTooLong
  | .error _ => .ok none

/-- Whether a path leads to something. -/
def hasPath (tree : Node) (workingPlace : Place) (p : Path) : Except PathProblem Bool :=
  (tree.find? workingPlace p).map Option.isSome

/-- Whether a path leads to a directory. -/
def hasDirectory (tree : Node) (workingPlace : Place) (p : Path) : Except PathProblem Bool :=
  (tree.find? workingPlace p).map fun node? => node?.any isDirectory

/-- Reads the file that a path leads to. -/
def read (tree : Node) (workingPlace : Place) (p : Path) : Except PathProblem (List UInt8) :=
  match tree.find workingPlace p with
  | .ok (_, .file content) => .ok content
  | .ok (_, .directory _) => .error .isDirectory
  | .ok (_, .link _) => .error .tooManyLinks
  | .error problem => .error problem

end Node

end TagAudit
