import TagAudit.Text

/-!
# A place in a YAML stream

A cursor holds the rest of the stream, the number of code points passed, and the line and column
they lead to. Lines end at a line feed, at the next-line control, and at the two separators of
Unicode; other line ends have been made line feeds before. A byte order mark takes no column.
-/

namespace TagAudit.Yaml

/-- Why a stream has no value. -/
inductive Problem where
  /-- It breaks a rule of the format. -/
  | malformed
  /-- It spells a number, a moment or a code point that does not exist. -/
  | noValue
  /-- It spells a number by nothing. -/
  | nothingSpelled
  /-- It spells a truth value by another word. -/
  | noWord
  /-- It spells a moment in another form. -/
  | noMoment
  /-- It has a mapping where a moment is spelled. -/
  | mappingAsMoment
  /-- It spells a number beyond all that can be counted with. -/
  | tooLarge
deriving DecidableEq

/-- The code point of a byte order mark. -/
def byteOrderMark : CodePoint := ⟨0xFEFF, by decide⟩

/-- Whether a code point ends a line. -/
def isBreak (c : CodePoint) : Bool := [0x0A, 0x85, 0x2028, 0x2029].contains c.val

/-- Whether a code point is a blank or a tab. -/
def isSpace (c : CodePoint) : Bool := c = ' ' || c = '\t'

/-- Whether nothing comes next, or the end of a line. -/
def atLineEnd : Option CodePoint → Bool
  | none => true
  | some c => isBreak c

/-- Whether nothing comes next, a blank or the end of a line. -/
def atWordEnd : Option CodePoint → Bool
  | none => true
  | some c => isBreak c || c = ' '

/-- Whether nothing comes next, a blank, a tab or the end of a line. -/
def atGap : Option CodePoint → Bool
  | none => true
  | some c => isBreak c || isSpace c

/-- A place in a stream. -/
structure Cursor where
  rest : Text
  index : Nat
  line : Nat
  column : Nat

namespace Cursor

/-- The place before the first code point. -/
def start (t : Text) : Cursor := ⟨t, 0, 0, 0⟩

/-- The next code point. -/
def peek (c : Cursor) : Option CodePoint := c.rest.head?

/-- The code point that comes after a number of others. -/
def peekAt (c : Cursor) (ahead : Nat) : Option CodePoint := c.rest[ahead]?

/-- Whether a given code point comes next. -/
def faces (c : Cursor) (wanted : CodePoint) : Bool := c.peek == some wanted

/-- The place after the next code point. -/
def next (c : Cursor) : Cursor :=
  match c.rest with
  | [] => c
  | passed :: rest =>
    if isBreak passed then ⟨rest, c.index + 1, c.line + 1, 0⟩
    else ⟨rest, c.index + 1, c.line, if passed = byteOrderMark then c.column else c.column + 1⟩

/-- The place after a number of code points. -/
def advance : Nat → Cursor → Cursor
  | 0, c => c
  | n + 1, c => advance n c.next

/-- The code points of a class that come next, and the place after them. -/
def takeWhile (c : Cursor) (p : CodePoint → Bool) : Text × Cursor :=
  let taken := c.rest.takeWhile p
  (taken, c.advance taken.length)

/-- The place after the code points of a class that come next. -/
def passWhile (c : Cursor) (p : CodePoint → Bool) : Cursor := (c.takeWhile p).2

/-- The place after the blanks that come next. -/
def passBlanks (c : Cursor) : Cursor := c.passWhile fun ch : CodePoint => ch = ' '

/-- The end of a line that comes next, as it stands in a value, and the place after it. -/
def break? (c : Cursor) : Option (CodePoint × Cursor) :=
  match c.peek with
  | some ch =>
    if !isBreak ch then none
    else if ch.val = 0x85 then some ('\n', c.next)
    else some (ch, c.next)
  | none => none

/-- The place after the end of a line, if one comes next. -/
def passBreak (c : Cursor) : Cursor := (c.break?.map Prod.snd).getD c

/-- The place after a comment, if one comes next. -/
def passComment (c : Cursor) : Cursor :=
  if c.faces '#' then c.passWhile fun ch => !isBreak ch else c

/-- The place on the next line, if nothing but blanks and a comment comes before it. -/
def endLine (c : Cursor) : Except Problem Cursor :=
  let after := c.passBlanks.passComment
  if atLineEnd after.peek then .ok after.passBreak else .error .malformed

/-- Whether three given code points and a gap come next. -/
def facesMark (c : Cursor) (mark : Text) : Bool := mark.isPrefixOf c.rest && atGap (c.peekAt 3)

/-- Whether a mark comes next that sets documents apart. -/
def facesSeparator (c : Cursor) : Bool := c.facesMark "---" || c.facesMark "..."

end Cursor

end TagAudit.Yaml
