import TagAudit.Keyed
import TagAudit.Text

/-!
# Paths

A path is written with slashes. Empty components and single dots mean nothing and are left out when
a path is read, so a path has one normal spelling; two dots are kept, because what they mean
depends on the links before them. A path that begins with exactly two slashes keeps both, and any
other number of leading slashes is one.

Paths are ordered by their lists of components and not by their spelling.

A path may begin with a tilde, and with the name of a user behind it, for the home directory of that
user. Which homes users have is told by the system.
-/

namespace TagAudit

/-- A path in normal form. -/
structure Path where
  /-- The number of leading slashes: none, one or two. -/
  slashes : Nat
  parts : List Text
deriving DecidableEq

namespace Path

/-- The component that stands for the directory above. -/
def up : Text := ".."

/-- The components of a text that mean something. -/
def meaningful (t : Text) : List Text :=
  (Text.parts '/' t).filter fun part => !part.isEmpty && part != Text.ofString "."

/-- Reads a path. -/
def ofText (t : Text) : Path :=
  let leading := (t.takeWhile fun c : CodePoint => c = '/').length
  ⟨if leading = 0 then 0 else if leading = 2 then 2 else 1, meaningful t⟩

/-- Reads the path of a home directory. Slashes at its end do not count, and where there is nothing
    else it is the root. -/
def ofHome (t : Text) : Path :=
  ofText (match t.reverse.dropWhile fun c : CodePoint => c = '/' with
    | [] => "/"
    | kept => kept.reverse)

/-- The normal spelling of a path; an empty one is the single dot. -/
def toText (p : Path) : Text :=
  if p.slashes = 0 ∧ p.parts.isEmpty then "."
  else List.replicate p.slashes ('/' : CodePoint) ++ Text.joined "/" p.parts

/-- Whether a path begins at the root. -/
def isAbsolute (p : Path) : Bool := p.slashes != 0

/-- The path that a second path means when it is looked up from a first. -/
def join (base p : Path) : Path :=
  if p.isAbsolute then p else ⟨base.slashes, base.parts ++ p.parts⟩

/-- The path with one more component. -/
def child (p : Path) (name : Text) : Path := ⟨p.slashes, p.parts ++ [name]⟩

/-- The path with more components. -/
def below (p : Path) (names : List Text) : Path := ⟨p.slashes, p.parts ++ names⟩

/-- The path without its last component; the root and the empty path stay. -/
def parent (p : Path) : Path := ⟨p.slashes, p.parts.dropLast⟩

/-- The order of paths: by components, from the first difference on. -/
def precedes (p q : Path) : Bool := Text.listPrecedes Text.precedes p.parts q.parts

end Path

/-- The home directories of users, as the system tells them: that of the user who runs the program,
    if it is known, and those of others by their names. -/
structure Homes where
  own : Option Text
  ofUser : Text → Option Text

/-- Why a tilde, with a name behind it, stands for no home directory. -/
inductive HomeProblem where
  /-- No home is known of the user. -/
  | unknown
  /-- The name holds the code point with the number zero. -/
  | holdsNull
  /-- The name holds surrogates from one place up to another, and the first of them stands for no
      byte. -/
  | notBytes (first : CodePoint) (start stop : Nat)
deriving DecidableEq

namespace HomeProblem

/-- What is wrong with a name that no user can have. -/
def ofName? (name : Text) : Option HomeProblem :=
  let isLone (c : CodePoint) : Bool := c.isSurrogate && !c.isByte
  match name.dropWhile fun c => !isLone c with
  | first :: rest =>
    let start := (name.takeWhile fun c => !isLone c).length
    some (.notBytes first start (start + 1 + (rest.takeWhile CodePoint.isSurrogate).length))
  | [] => if name.any fun c => c.val = 0 then some .holdsNull else none

/-- The words for a problem with a home. -/
def words : HomeProblem → Text
  | unknown => "Could not determine home directory."
  | holdsNull => "embedded null byte"
  | notBytes first start stop =>
    let which : Text :=
      if stop = start + 1 then
        "character '\\u" ++ Text.lowerHex 4 first.val ++ "' in position " ++ Text.ofNat start
      else "characters in position " ++ Text.ofNat start ++ "-" ++ Text.ofNat (stop - 1)
    "'utf-8' codec can't encode " ++ which ++ ": surrogates not allowed"

end HomeProblem

namespace Homes

/-- The homes that a list of users tells. -/
def ofList (own : Option Text) (users : Keyed Text Text) : Homes :=
  ⟨own, fun name => users.get? name⟩

/-- The home directory that a tilde stands for, with a name behind it or none. A home that itself
    begins with a tilde is as good as unknown. -/
def find (homes : Homes) (name : Text) : Except HomeProblem Path :=
  match HomeProblem.ofName? name, if name.isEmpty then homes.own else homes.ofUser name with
  | some problem, _ => .error problem
  | none, some home => if home.startsWith "~" then .error .unknown else .ok (.ofHome home)
  | none, none => .error .unknown

end Homes

namespace Path

/-- The path with a home directory in place of a leading component that begins with a tilde. The
    name of a user may follow the tilde. -/
def expandHome (p : Path) (homes : Homes) : Except HomeProblem Path :=
  if p.isAbsolute then .ok p
  else match p.parts with
  | (c :: name) :: rest =>
    if c = '~' then
      (homes.find name).map fun home => ⟨home.slashes, home.parts ++ rest⟩
    else .ok p
  | _ => .ok p

end Path

end TagAudit
