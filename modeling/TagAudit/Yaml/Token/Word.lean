import TagAudit.Text.Integer
import TagAudit.Text.Utf8
import TagAudit.Yaml.Token

/-!
# Directives, anchors and tags

These tokens are words of a few classes of letters. A tag may hold percent escapes, each run of
which spells a text in UTF-8.
-/

namespace TagAudit.Yaml.Token

/-- Letters, digits, hyphens and low lines, of which names are made. -/
def isNameLetter (c : CodePoint) : Bool := c.isLetter || c.isDigit || c = '-' || c = '_'

/-- What a tag may be made of, percent signs apart. -/
def isTagLetter (c : CodePoint) : Bool :=
  isNameLetter c || (Text.ofString ";/?:@&=+$,.!~*'()[]").contains c

/-- The number of two hexadecimal digits that come next, and the place after them. -/
def hexByte? (c : Cursor) : Option (UInt8 × Cursor) := do
  let high ← (← c.peek).digitValue? 16
  let low ← (← c.peekAt 1).digitValue? 16
  return (UInt8.ofNat (16 * high + low), c.advance 2)

/-- A run of percent escapes, at most a number of them, as bytes. -/
def escapes : Nat → Cursor → Except Problem (List UInt8 × Cursor)
  | 0, c => .ok ([], c)
  | bound + 1, c =>
    if c.faces '%' then
      match hexByte? c.next with
      | none => .error .malformed
      | some (byte, after) => do
        let (bytes, after) ← escapes bound after
        return (byte :: bytes, after)
    else .ok ([], c)

/-- The letters of a tag, in at most a number of runs. -/
def tagLetters : Nat → Cursor → Except Problem (Text × Cursor)
  | 0, c => .ok ([], c)
  | bound + 1, c =>
    match c.takeWhile isTagLetter with
    | (plain, after) =>
      if after.faces '%' then do
        let (bytes, after) ← escapes after.rest.length after
        match Utf8.decode? bytes with
        | none => .error .malformed
        | some escaped =>
          let (others, after) ← tagLetters bound after
          return (plain ++ escaped ++ others, after)
      else .ok (plain, after)

/-- The suffix of a tag, which is not empty. -/
def tagSuffix (c : Cursor) : Except Problem (Text × Cursor) := do
  let begins : CodePoint → Bool := fun ch => isTagLetter ch || ch = '%'
  if (c.peek.map begins).getD false then tagLetters (c.rest.length + 1) c else .error .malformed

/-- The handle of a tag: an exclamation mark, or a name between two of them. A mark before a blank
    is a handle too. -/
def tagHandle (c : Cursor) : Except Problem (Text × Cursor) :=
  if !c.faces '!' then .error .malformed
  else if c.next.faces ' ' then .ok ("!", c.next)
  else
    let (name, after) := c.next.takeWhile isNameLetter
    if after.faces '!' then .ok ("!" ++ name ++ "!", after.next) else .error .malformed

/-- A tag without what has to follow it: one in angle brackets, a lone mark, or a suffix with a
    handle before it. -/
def tagForm (c : Cursor) : Except Problem (Token × Cursor) := do
  if c.next.faces '<' then
    let (suffix, after) ← tagSuffix (c.advance 2)
    if after.faces '>' then return (tag none suffix, after.next) else .error .malformed
  else if atGap c.next.peek then return (tag none "!", c.next)
  else
    let word := c.next.rest.takeWhile fun ch => !atWordEnd (some ch)
    let (handle, after) ←
      if word.contains ('!' : CodePoint) then tagHandle c else .ok ((Text.ofString "!"), c.next)
    let (suffix, after) ← tagSuffix after
    return (tag (some handle) suffix, after)

/-- A tag, from its exclamation mark on. -/
def ofTag (c : Cursor) : Except Problem (Token × Cursor) := do
  let (found, after) ← tagForm c
  if atWordEnd after.peek then return (found, after) else .error .malformed

/-- The name of an anchor or an alias, from the sign before it on. -/
def anchorName (c : Cursor) : Except Problem (Text × Cursor) :=
  let (name, after) := c.next.takeWhile isNameLetter
  let ends := match after.peek with
    | none => true
    | some ch => atGap (some ch) || (Text.ofString "?:,]\x7d%@\x60").contains ch
  if name.isEmpty || !ends then .error .malformed else .ok (name, after)

/-- A number in a directive. -/
def directiveNumber (c : Cursor) : Except Problem (Nat × Cursor) :=
  let (digits, after) := c.takeWhile CodePoint.isDigit
  if digits.isEmpty then .error .malformed
  else if Text.digitLimit < digits.length then .error .noValue
  else .ok (digits.foldl (fun n d => n * 10 + (d.val - 0x30)) 0, after)

/-- A directive, from its percent sign to the end of its line. -/
def ofDirective (c : Cursor) : Except Problem (Token × Cursor) := do
  let (name, after) := c.next.takeWhile isNameLetter
  if name.isEmpty || !atWordEnd after.peek then .error .malformed
  else if name = Text.ofString "YAML" then
    let (major, after) ← directiveNumber after.passBlanks
    if !after.faces '.' then .error .malformed
    else
      let (_, after) ← directiveNumber after.next
      if !atWordEnd after.peek then .error .malformed
      else return (versionDirective major, ← after.endLine)
  else if name = Text.ofString "TAG" then
    let (handle, after) ← tagHandle after.passBlanks
    if !after.faces ' ' then .error .malformed
    else
      let (start, after) ← tagSuffix after.passBlanks
      if !atWordEnd after.peek then .error .malformed
      else return (tagDirective handle start, ← after.endLine)
  else return (otherDirective, ← (after.passWhile fun ch => !isBreak ch).endLine)

end TagAudit.Yaml.Token
