import TagAudit.Yaml.Token.Block
import TagAudit.Yaml.Token.Plain
import TagAudit.Yaml.Token.Word

/-!
# Finding the tokens of a stream

Tokens are found from the front. A key needs no sign before it: what it begins with is remembered,
one place for each level of brackets, and if a colon follows on the same line and not too far on,
the key is marked at the place that was remembered. Where a line stands at the column of the block
around it, it has to be a key.

Outside of brackets the columns of the open blocks are kept, innermost first. A line further left
closes blocks.
-/

namespace TagAudit.Yaml.Token

/-- Where a key may have begun. -/
structure PossibleKey where
  /-- The number of tokens before it. -/
  position : Nat
  /-- Whether a colon has to follow. -/
  required : Bool
  place : Cursor

/-- How far the search for tokens has come. -/
structure Lexer where
  place : Cursor
  /-- The tokens found, the last one first. -/
  found : List Token
  /-- The columns of the open blocks, the innermost first. -/
  blocks : List Nat
  /-- Where keys may have begun, for each level of brackets, the innermost first, and last for the
      level outside of all. -/
  keys : List (Option PossibleKey)
  /-- Whether a key may begin here. -/
  allowsKey : Bool

namespace Lexer

/-- The beginning of the search. -/
def start (t : Text) : Lexer := ⟨.start t, [], [], [none], true⟩

/-- Whether the place is inside brackets. -/
def inFlow (s : Lexer) : Bool := decide (1 < s.keys.length)

/-- The column of the innermost block; outside of all blocks it is left of every column. -/
def column (s : Lexer) : Int :=
  match s.blocks with
  | [] => -1
  | innermost :: _ => innermost

/-- Adds a token. -/
def emit (s : Lexer) (t : Token) : Lexer := { s with found := t :: s.found }

/-- Adds a token at an earlier position. -/
def emitAt (s : Lexer) (position : Nat) (t : Token) : Lexer :=
  let later := s.found.length - position
  { s with found := s.found.take later ++ t :: s.found.drop later }

/-- Whether a colon can no longer make a key of what begins at a place. -/
def isStale (s : Lexer) (key : PossibleKey) : Bool :=
  key.place.line != s.place.line || decide (1024 < s.place.index - key.place.index)

/-- Forgets the keys that are out of reach; a required one must not be. -/
def dropStale (s : Lexer) : Except Problem Lexer :=
  let isLost (possible : PossibleKey) : Bool := possible.required && s.isStale possible
  if s.keys.any fun possible? => possible?.any isLost then .error .malformed
  else .ok { s with keys := s.keys.map fun possible? => possible?.filter fun k => !s.isStale k }

/-- The key that may have begun at the present level of brackets. -/
def possibleKey (s : Lexer) : Option PossibleKey := s.keys.head?.join

/-- Exchanges the key that may have begun at the present level of brackets. -/
def setKey (s : Lexer) (key : Option PossibleKey) : Lexer := { s with keys := key :: s.keys.tail }

/-- Forgets the key that may have begun at the present level; a required one must not be. -/
def dropKey (s : Lexer) : Except Problem Lexer :=
  match s.possibleKey with
  | some possible => if possible.required then .error .malformed else .ok (s.setKey none)
  | none => .ok s

/-- Remembers that a key may begin here, if it may. -/
def saveKey (s : Lexer) : Except Problem Lexer :=
  if s.allowsKey then do
    let required := !s.inFlow && decide (s.column = s.place.column)
    return (← s.dropKey).setKey (some ⟨s.found.length, required, s.place⟩)
  else .ok s

/-- Closes the blocks that are further right than a column. -/
def unwindTo (column : Int) : List Nat → List Token → List Nat × List Token
  | [], found => ([], found)
  | block :: blocks, found =>
    if column < (block : Int) then unwindTo column blocks (blockEnd :: found)
    else (block :: blocks, found)

/-- Closes the blocks that are further right than a column, unless inside brackets. -/
def unwind (s : Lexer) (column : Int) : Lexer :=
  if s.inFlow then s
  else
    let (blocks, found) := unwindTo column s.blocks s.found
    { s with blocks, found }

/-- Opens a block at a column further right than the one around it. -/
def openBlock (s : Lexer) (column position : Nat) (t : Token) : Lexer :=
  if s.column < column then
    { s.emitAt position t with blocks := column :: s.blocks }
  else s

/-- Goes on from another place. -/
def goOn (s : Lexer) (place : Cursor) (allowsKey : Bool) : Lexer := { s with place, allowsKey }

/-- Passes blanks, comments and ends of lines, in at most a number of lines. Outside of brackets a
    key may begin on each new line. -/
def passLines : Nat → Lexer → Lexer
  | 0, s => s
  | bound + 1, s =>
    let after := s.place.passBlanks.passComment
    match after.break? with
    | none => { s with place := after }
    | some (_, after) =>
      passLines bound { s with place := after, allowsKey := s.allowsKey || !s.inFlow }

/-- Goes to the next token. -/
def toToken (s : Lexer) : Lexer :=
  let start := if s.place.index = 0 && s.place.faces byteOrderMark then s.place.next else s.place
  passLines (start.rest.length + 1) { s with place := start }

/-- A directive, or a mark between documents. -/
def betweenDocuments (s : Lexer) (t : Token) (after : Cursor) : Except Problem Lexer := do
  let s ← (s.unwind (-1)).dropKey
  return (s.emit t).goOn after false

/-- An opening bracket. -/
def openFlow (s : Lexer) (t : Token) : Except Problem Lexer := do
  let s ← s.saveKey
  let s := { s.emit t with keys := none :: s.keys }
  return s.goOn s.place.next true

/-- A closing bracket, which needs one that it closes. -/
def closeFlow (s : Lexer) (t : Token) : Except Problem Lexer := do
  let s ← s.dropKey
  if !s.inFlow then .error .malformed
  else
    let s := { s.emit t with keys := s.keys.tail }
    return s.goOn s.place.next false

/-- A comma. -/
def entry (s : Lexer) : Except Problem Lexer := do
  let s ← s.dropKey
  return (s.emit flowEntry).goOn s.place.next true

/-- Makes sure that a block may open or go on here. -/
def inBlock (s : Lexer) (opening : Token) : Except Problem Lexer :=
  if s.inFlow then .ok s
  else if s.allowsKey then .ok (s.openBlock s.place.column s.found.length opening)
  else .error .malformed

/-- A hyphen before an item. -/
def item (s : Lexer) : Except Problem Lexer := do
  let s ← (← s.inBlock blockSequenceStart).dropKey
  return (s.emit blockEntry).goOn s.place.next true

/-- A question mark before a key. -/
def explicitKey (s : Lexer) : Except Problem Lexer := do
  let s ← (← s.inBlock blockMappingStart).dropKey
  return (s.emit key).goOn s.place.next !s.inFlow

/-- A colon before a value. It makes a key of what has been remembered. -/
def colon (s : Lexer) : Except Problem Lexer :=
  match s.possibleKey with
  | some possible =>
    let s := (s.setKey none).emitAt possible.position key
    let s := if s.inFlow then s
      else s.openBlock possible.place.column possible.position blockMappingStart
    .ok ((s.emit value).goOn s.place.next false)
  | none => do
    let s ← (← s.inBlock blockMappingStart).dropKey
    return (s.emit value).goOn s.place.next !s.inFlow

/-- A token that a key may begin with, and after which no other begins. -/
def word (s : Lexer) (read : Cursor → Except Problem (Token × Cursor)) : Except Problem Lexer := do
  let s ← s.saveKey
  let (t, after) ← read s.place
  return (s.emit t).goOn after false

/-- A block scalar. -/
def block (s : Lexer) (isFolded : Bool) : Except Problem Lexer := do
  let s ← s.dropKey
  let (t, after) ← ofBlock isFolded s.column s.place
  return (s.emit t).goOn after true

/-- A plain scalar. -/
def plain (s : Lexer) : Except Problem Lexer := do
  let s ← s.saveKey
  let (t, broken, after) := ofPlain s.inFlow s.column s.place
  return (s.emit t).goOn after broken

/-- A name after a sign. -/
def named (make : Text → Token) (c : Cursor) : Except Problem (Token × Cursor) := do
  let (name, after) ← anchorName c
  return (make name, after)

/-- The token that comes next, given the code point it begins with. -/
def step (s : Lexer) (first : CodePoint) : Except Problem Lexer :=
  let c := s.place
  let atStart := c.column == 0
  let gapAfter := atGap (c.peekAt 1)
  if first = '%' && atStart then do
    let (t, after) ← ofDirective c
    s.betweenDocuments t after
  else if atStart && c.facesMark "---" then s.betweenDocuments documentStart (c.advance 3)
  else if atStart && c.facesMark "..." then s.betweenDocuments documentEnd (c.advance 3)
  else if first = '[' then s.openFlow flowSequenceStart
  else if first = '{' then s.openFlow flowMappingStart
  else if first = ']' then s.closeFlow flowSequenceEnd
  else if first = '}' then s.closeFlow flowMappingEnd
  else if first = ',' then s.entry
  else if first = '-' && gapAfter then s.item
  else if first = '?' && (s.inFlow || gapAfter) then s.explicitKey
  else if first = ':' && (s.inFlow || gapAfter) then s.colon
  else if first = '*' then s.word (named reference)
  else if first = '&' then s.word (named anchor)
  else if first = '!' then s.word ofTag
  else if first = '|' && !s.inFlow then s.block false
  else if first = '>' && !s.inFlow then s.block true
  else if first = '\'' then s.word (ofQuoted false)
  else if first = '"' then s.word (ofQuoted true)
  else if beginsPlain s.inFlow c then s.plain
  else .error .malformed

/-- The tokens found that no key can be marked in front of any more. -/
def settled (s : Lexer) : List Token :=
  let open? := s.keys.filterMap fun possible? => possible?.filter fun key => !s.isStale key
  s.found.reverse.take (open?.foldl (fun n key => min n key.position) s.found.length)

/-- Goes past the next token, or ends the search where there is none, and tells whether there was
    one. -/
def advance (s : Lexer) : Except Problem (Bool × Lexer) := do
  let s ← s.toToken.dropStale
  let s := s.unwind s.place.column
  match s.place.peek with
  | none => return (false, ← (s.unwind (-1)).dropKey)
  | some first => return (true, ← s.step first)

/-- The tokens of a stream from here on, at most a number of them. -/
def run : Nat → Lexer → Tokens
  | 0, s => ⟨s.settled, some .malformed⟩
  | bound + 1, s =>
    match s.advance with
    | .error problem => ⟨s.settled, some problem⟩
    | .ok (false, s) => ⟨s.found.reverse, none⟩
    | .ok (true, s) => run bound s

end Lexer

/-- The tokens of a stream. -/
def ofText (t : Text) : Tokens := Lexer.run (t.length + 1) (.start t)

end TagAudit.Yaml.Token
