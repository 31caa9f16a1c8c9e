import TagAudit.Yaml.Token

/-!
# Block scalars

A block scalar is the lines after its header that are indented as far as its first line with
something on it, or as the header says. A literal one keeps the ends of lines; a folded one turns
an end of line between two lines that begin with something visible into a blank, or leaves it out if
empty lines follow. The header also says whether the ends of lines at its end are kept, dropped, or
cut to one.
-/

namespace TagAudit.Yaml.Token

/-- What becomes of the ends of lines at the end of a block. -/
inductive Chomping where
  | clip | strip | keep
deriving DecidableEq

/-- The chomping that a sign asks for. -/
def Chomping.ofSign? (c : CodePoint) : Option Chomping :=
  if c = '+' then some keep else if c = '-' then some strip else none

/-- The depth of indentation that a digit asks for; zero is none. -/
def blockDepth (c : CodePoint) : Except Problem Nat :=
  if c = '0' then .error .malformed else .ok (c.val - 0x30)

/-- The signs of a header: chomping and depth, in either order. -/
def blockSigns (c : Cursor) : Except Problem (Chomping × Option Nat × Cursor) :=
  match c.peek with
  | none => .ok (.clip, none, c)
  | some first =>
    match Chomping.ofSign? first, c.next.peek with
    | some chomping, some second =>
      if second.isDigit then
        (blockDepth second).map fun depth => (chomping, some depth, c.advance 2)
      else .ok (chomping, none, c.next)
    | some chomping, none => .ok (chomping, none, c.next)
    | none, second? =>
      if first.isDigit then
        (blockDepth first).map fun depth =>
          match second?.bind Chomping.ofSign? with
          | some chomping => (chomping, some depth, c.advance 2)
          | none => (.clip, some depth, c.next)
      else .ok (.clip, none, c)

/-- The header of a block after the sign it begins with, to the end of its line. -/
def blockHeader (c : Cursor) : Except Problem (Chomping × Option Nat × Cursor) := do
  let (chomping, depth, after) ← blockSigns c
  if atWordEnd after.peek then return (chomping, depth, ← after.endLine) else .error .malformed

/-- The place after blanks up to a column. -/
def passIndent (indent : Nat) (c : Cursor) : Cursor :=
  c.advance ((c.rest.take (indent - c.column)).takeWhile fun ch : CodePoint => ch = ' ').length

/-- The ends of lines that come next, with the blanks up to a column passed over in each line, in at
    most a number of lines. -/
def blockBreaks (indent : Nat) : Nat → Cursor → Text × Cursor
  | 0, c => ([], c)
  | bound + 1, c =>
    let after := passIndent indent c
    match after.break? with
    | none => ([], after)
    | some (lineEnd, after) =>
      let (others, after) := blockBreaks indent bound after
      (lineEnd :: others, after)

/-- The ends of lines and blanks that come next: those ends, the widest indentation among them, and
    the place after them. -/
def blockMargin : Nat → Nat → Cursor → Text × Nat × Cursor
  | 0, widest, c => ([], widest, c)
  | bound + 1, widest, c =>
    let after := c.passBlanks
    let widest := if after.index = c.index then widest else max widest after.column
    match after.break? with
    | none => ([], widest, after)
    | some (lineEnd, after) =>
      let (others, widest, after) := blockMargin bound widest after
      (lineEnd :: others, widest, after)

/-- The lines of a block, at most a number of them, given the ends of lines before the first. The
    last argument holds the parts so far in reverse; the answer is the text without what is at its
    end, the last end of line and the ends of empty lines after it. -/
def blockLines (isFolded : Bool) (indent : Nat) : Nat → Cursor → (breaks : Text) →
    (parts : List Text) → Text × Text × Text × Cursor
  | 0, c, breaks, parts => (parts.reverse.flatten, [], breaks, c)
  | bound + 1, c, breaks, parts =>
    let startsVisibly := !((c.peek.map isSpace).getD false)
    let (line, after) := c.takeWhile fun ch => !isBreak ch
    let (lineEnd, after) : Text × Cursor := match after.break? with
      | some (lineEnd, after) => ([lineEnd], after)
      | none => ([], after)
    let (later, after) := blockBreaks indent after.rest.length after
    let parts := line :: breaks :: parts
    if after.column = indent && after.peek.isSome then
      let joins := isFolded && lineEnd == Text.ofString "\n" && startsVisibly
        && !((after.peek.map isSpace).getD false)
      let between : Text := if !joins then lineEnd else if later.isEmpty then " " else []
      blockLines isFolded indent bound after later (between :: parts)
    else (parts.reverse.flatten, lineEnd, later, after)

/-- A block scalar, from its first sign on, within a block at a column; the outermost level has
    none. -/
def ofBlock (isFolded : Bool) (within : Int) (c : Cursor) : Except Problem (Token × Cursor) := do
  let (chomping, depth, after) ← blockHeader c.next
  let least := max 1 (within + 1).toNat
  let (breaks, indent, after) := match depth with
    | none =>
      let (breaks, widest, after) := blockMargin (after.rest.length + 1) 0 after
      (breaks, max least widest, after)
    | some depth =>
      let indent := least + depth - 1
      let (breaks, after) := blockBreaks indent (after.rest.length + 1) after
      (breaks, indent, after)
  let (text, lineEnd, later, after) :=
    if after.column = indent && after.peek.isSome then
      blockLines isFolded indent (after.rest.length + 1) after breaks []
    else ([], [], breaks, after)
  let ending : Text := match chomping with
    | .strip => []
    | .clip => lineEnd
    | .keep => lineEnd ++ later
  return (scalar (text ++ ending) false, after)

end TagAudit.Yaml.Token
