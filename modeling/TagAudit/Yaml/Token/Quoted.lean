import TagAudit.Yaml.Token

/-!
# Quoted scalars

Between single quotes only a doubled quote means something else than itself; between double quotes
a backslash begins an escape. Where a line ends, the blanks around its end vanish: the end of one
line becomes a blank, and of several all but the first stand for themselves.
-/

namespace TagAudit.Yaml.Token

/-- The letters that escape one code point, and the number of what they escape. -/
def letterEscapes : List (Char × Nat) :=
  [('0', 0x00), ('a', 0x07), ('b', 0x08), ('t', 0x09), ('\t', 0x09), ('n', 0x0A), ('v', 0x0B),
    ('f', 0x0C), ('r', 0x0D), ('e', 0x1B), (' ', 0x20), ('"', 0x22), ('\\', 0x5C), ('/', 0x2F),
    ('N', 0x85), ('_', 0xA0), ('L', 0x2028), ('P', 0x2029)]

/-- What a letter escapes. -/
def letterEscape? (c : CodePoint) : Option CodePoint :=
  (letterEscapes.find? fun entry => CodePoint.ofChar entry.1 == c).map fun entry =>
    CodePoint.ofNat entry.2

/-- The number of hexadecimal digits after a letter that announces them. -/
def escapeDigits? (c : CodePoint) : Option Nat :=
  if c = 'x' then some 2 else if c = 'u' then some 4 else if c = 'U' then some 8 else none

/-- The code point that a number of hexadecimal digits spell. -/
def hexCodePoint (digits : Text) (wanted : Nat) : Except Problem CodePoint :=
  match digits.mapM (CodePoint.digitValue? 16) with
  | none => .error .malformed
  | some values =>
    if values.length < wanted then .error .malformed
    else
      let n := values.foldl (fun n d => n * 16 + d) 0
      if valid : n < 0x110000 then .ok ⟨n, valid⟩
      else .error (if n < 0x80000000 then .noValue else .tooLarge)

/-- The ends of lines that come next, with the blanks before and after them passed over, in at most
    a number of lines. A mark between documents must not be among them. -/
def quotedBreaks : Nat → Cursor → Except Problem (Text × Cursor)
  | 0, c => .ok ([], c)
  | bound + 1, c =>
    if c.facesSeparator then .error .malformed
    else
      let after := c.passWhile isSpace
      match after.break? with
      | none => .ok ([], after)
      | some (lineEnd, after) => do
        let (others, after) ← quotedBreaks bound after
        return (lineEnd :: others, after)

/-- What an end of line and the breaks after it stand for. -/
def folded (lineEnd : CodePoint) (breaks : Text) : Text :=
  if lineEnd ≠ '\n' then lineEnd :: breaks else if breaks.isEmpty then " " else breaks

/-- An escape, from what follows the backslash on. -/
def escape (c : Cursor) : Except Problem (Text × Cursor) :=
  match c.peek with
  | none => .error .malformed
  | some letter =>
    match letterEscape? letter, escapeDigits? letter with
    | some escaped, _ => .ok ([escaped], c.next)
    | none, some wanted => do
      let escaped ← hexCodePoint (c.next.rest.take wanted) wanted
      return ([escaped], c.next.advance wanted)
    | none, none =>
      match c.break? with
      | none => .error .malformed
      | some (_, after) => quotedBreaks after.rest.length after

/-- The blanks that come next, and what they stand for where a line ends among them. -/
def quotedSpaces (c : Cursor) : Except Problem (Text × Cursor) :=
  let (blanks, after) := c.takeWhile isSpace
  match after.peek with
  | none => .error .malformed
  | some _ =>
    match after.break? with
    | none => .ok (blanks, after)
    | some (lineEnd, after) => do
      let (breaks, after) ← quotedBreaks (after.rest.length + 1) after
      return (folded lineEnd breaks, after)

/-- A quoted scalar after its first quote. The first argument bounds the number of its parts, the
    last holds the parts so far in reverse. -/
def quotedRest (isDouble : Bool) : Nat → Cursor → List Text → Except Problem (Text × Cursor)
  | 0, _, _ => .error .malformed
  | bound + 1, c, parts =>
    match c.peek with
    | none => .error .malformed
    | some ch =>
      if ch = '\'' && !isDouble then
        if c.next.faces '\'' then quotedRest isDouble bound (c.advance 2) ("'" :: parts)
        else .ok (parts.reverse.flatten, c.next)
      else if ch = '"' && isDouble then .ok (parts.reverse.flatten, c.next)
      else if ch = '\\' && isDouble then do
        let (escaped, after) ← escape c.next
        quotedRest isDouble bound after (escaped :: parts)
      else if isSpace ch || isBreak ch then do
        let (spaces, after) ← quotedSpaces c
        quotedRest isDouble bound after (spaces :: parts)
      else quotedRest isDouble bound c.next ([ch] :: parts)

/-- A quoted scalar, from its first quote on. -/
def ofQuoted (isDouble : Bool) (c : Cursor) : Except Problem (Token × Cursor) := do
  let (text, after) ← quotedRest isDouble c.rest.length c.next []
  return (scalar text false, after)

end TagAudit.Yaml.Token
