import TagAudit.Text.Emoji
import TagAudit.Text.Markup.Argument
import TagAudit.Text.Markup.Style

/-!
# Style markup

Status messages pass through a small markup language. A tag is a pair of brackets around a text
that begins with a small letter, a number sign, a slash or an at sign and holds no opening bracket;
it is not shown. A tag that begins with a slash closes the last open tag of the same style, or the
last open one if it names none, and a tag that closes nothing makes the whole message unprintable.
So does closing an action whose arguments cannot be read. All other brackets are text.

Backslashes directly before a tag escape it: each two of them show one, and an odd one left over
shows the tag itself. Styles that are spelled differently but mean the same close each other.
In a run of text that no tag divides, names of pictures are replaced.
-/

namespace TagAudit.Markup

/-- A stretch of a message. -/
inductive Piece where
  | plain (t : Text)
  | tag (name : Text) (parameters : Option Text)

/-- Whether a bracket before this code point can open a tag. -/
def opensTag (c : CodePoint) : Bool :=
  (0x61 ≤ c.val && c.val ≤ 0x7A) || c = '#' || c = '/' || c = '@'

/-- What stands between the brackets of a tag, given what follows its opening bracket. -/
def tagText? (rest : Text) : Option Text :=
  match rest with
  | [] => none
  | first :: _ =>
    if !opensTag first then none
    else
      let inside := rest.takeWhile fun c : CodePoint => c != ']' && c != '['
      match rest.drop inside.length with
      | c :: _ => if c = ']' then some inside else none
      | [] => none

/-- The tag with a text between its brackets; parameters follow an equals sign. -/
def Piece.ofTagText (t : Text) : Piece :=
  let name := t.takeWhile fun c : CodePoint => c != '='
  match t.drop name.length with
  | _ :: parameters => .tag name (some parameters)
  | [] => .tag name none

/-- A run of text that no tag divides. -/
def Piece.ofRun (reversed : Text) : Piece := .plain (Emoji.replaced reversed.reverse)

/-- The pieces of a message. The first argument counts the code points of a tag that are still to
    be passed over, the second the backslashes that have just gone by, and the third is the run of
    text before them in reverse. -/
def pieces : (passing : Nat) → (slashes : Nat) → (run : Text) → Text → List Piece
  | _, slashes, run, [] => [.ofRun (List.replicate slashes ('\\' : CodePoint) ++ run)]
  | passing + 1, slashes, run, _ :: rest => pieces passing slashes run rest
  | 0, slashes, run, c :: rest =>
    if c = '\\' then pieces 0 (slashes + 1) run rest
    else if c = '[' then
      match tagText? rest with
      | some inside =>
        let shown : Piece := .plain (List.replicate (slashes / 2) '\\')
        let tag : Piece :=
          if slashes % 2 = 1 then .ofRun ("[" ++ inside ++ "]" : Text).reverse
          else .ofTagText inside
        .ofRun run :: shown :: tag :: pieces (inside.length + 1) 0 [] rest
      | none => pieces 0 0 (c :: List.replicate (slashes - 1) ('\\' : CodePoint) ++ run) rest
    else pieces 0 0 (c :: List.replicate slashes ('\\' : CodePoint) ++ run) rest

/-- Why a message cannot be shown. -/
inductive Problem where
  /-- A tag closes nothing, or an action whose arguments cannot be read. -/
  | unprintable
  /-- A tag leaves out a number of a colour. -/
  | numberless
deriving DecidableEq

/-- An open tag: the name under which it is remembered, and its parameters. -/
abbrev OpenTag := Text × Option Text

/-- Whether an open tag can be closed. -/
def isClosable (tag : OpenTag) : Bool :=
  !(tag.1.startsWith "@" && !(tag.2.getD []).isEmpty && !isAction (tag.2.getD []))

/-- The open tags without the first one that has a name, if there is one that can be closed. -/
def close? (isMeant : Text → Bool) : List OpenTag → Option (List OpenTag)
  | [] => none
  | tag :: rest =>
    if isMeant tag.1 then if isClosable tag then some rest else none
    else (close? isMeant rest).map (tag :: ·)

/-- The open tags after another tag, the last opened first. -/
def afterTag (opened : List OpenTag) (name : Text) (parameters : Option Text) :
    Except Problem (List OpenTag) :=
  if !name.startsWith "/" then
    match normalized? name with
    | some name => .ok ((name, parameters) :: opened)
    | none => .error .numberless
  else
    let closed := Text.trimmed CodePoint.separatesWords (name.drop 1)
    let left? (isMeant : Text → Bool) : Except Problem (List OpenTag) :=
      match close? isMeant opened with
      | some left => .ok left
      | none => .error .unprintable
    if closed.isEmpty then left? fun _ => true
    else match normalized? closed with
    | some closed => left? fun name => name == closed
    | none => .error .numberless

/-- The text that pieces show with some tags open, the last opened first. -/
def shownWith : List OpenTag → List Piece → Except Problem Text
  | _, [] => .ok []
  | opened, .plain t :: rest => (shownWith opened rest).map (t ++ ·)
  | opened, .tag name parameters :: rest =>
    match afterTag opened name parameters with
    | .ok opened => shownWith opened rest
    | .error problem => .error problem

/-- The text that a message shows, unless its tags do not let it be shown. -/
def shown (message : Text) : Except Problem Text := shownWith [] (pieces 0 0 [] message)

end TagAudit.Markup
