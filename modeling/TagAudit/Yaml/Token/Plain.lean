import TagAudit.Yaml.Token.Quoted

/-!
# Plain scalars

A plain scalar has no sign at its beginning or end. It stops before a colon with a gap after it,
before a comment, and inside brackets before the signs that set their entries apart. It goes on over
the end of a line if the next line is indented further than the block around it, and the end of the
line then counts as in a quoted scalar.
-/

namespace TagAudit.Yaml.Token

/-- The signs that a plain scalar cannot begin with. -/
def indicators : Text := "-?:,[]\x7b\x7d#&*!|>'\"%@\x60"

/-- Whether a plain scalar comes next. Outside of brackets it may begin with any of three signs if
    no gap follows, inside only with a hyphen. -/
def beginsPlain (inFlow : Bool) (c : Cursor) : Bool :=
  match c.peek with
  | none => false
  | some first =>
    (!atGap (some first) && !indicators.contains first)
      || (!atGap (c.peekAt 1) && (first = '-' || (!inFlow && (first = '?' || first = ':'))))

/-- Whether a plain scalar stops before what comes next. -/
def stopsPlain (inFlow : Bool) : Text → Bool
  | [] => true
  | ch :: rest =>
    atGap (some ch)
      || (ch = ':' && (match rest with
          | [] => true
          | after :: _ =>
            atGap (some after) || (inFlow && (Text.ofString ",[]\x7b\x7d").contains after)))
      || (inFlow && (Text.ofString ",?[]\x7b\x7d").contains ch)

/-- The length of the stretch of a plain scalar that comes next. -/
def plainLength (inFlow : Bool) : Text → Nat
  | [] => 0
  | ch :: rest => if stopsPlain inFlow (ch :: rest) then 0 else plainLength inFlow rest + 1

/-- What stands between two stretches of a plain scalar. -/
structure PlainGap where
  /-- What the gap stands for; nothing if the scalar cannot go on after it. -/
  text : Text
  /-- Whether a line ended in the gap. -/
  broken : Bool
  after : Cursor

/-- The ends of lines and blanks that come next, in at most a number of lines; there are none to
    speak of if a mark between documents follows one of them. -/
def plainBreaks : Nat → Cursor → Option Text × Cursor
  | 0, c => (some [], c)
  | bound + 1, c =>
    let after := c.passBlanks
    match after.break? with
    | none => (some [], after)
    | some (lineEnd, after) =>
      if after.facesSeparator then (none, after)
      else
        let (others, after) := plainBreaks bound after
        (others.map (lineEnd :: ·), after)

/-- The gap that comes next. -/
def plainGap (c : Cursor) : PlainGap :=
  let (blanks, after) := c.takeWhile fun ch : CodePoint => ch = ' '
  match after.break? with
  | none => ⟨blanks, false, after⟩
  | some (lineEnd, after) =>
    if after.facesSeparator then ⟨[], true, after⟩
    else
      match plainBreaks (after.rest.length + 1) after with
      | (none, after) => ⟨[], true, after⟩
      | (some breaks, after) => ⟨folded lineEnd breaks, true, after⟩

/-- A plain scalar, of which a stretch comes next after a gap, in at most a number of stretches.
    The parts so far are given in reverse; the answer also tells whether a line ended after the
    last stretch. -/
def plainRest (inFlow : Bool) (indent : Nat) : Nat → Cursor → (gap : Text) → (broken : Bool) →
    (parts : List Text) → Text × Bool × Cursor
  | 0, c, _, broken, parts => (parts.reverse.flatten, broken, c)
  | bound + 1, c, gap, broken, parts =>
    let length := if c.faces '#' then 0 else plainLength inFlow c.rest
    if length = 0 then (parts.reverse.flatten, broken, c)
    else
      let stretch := c.rest.take length
      let found := plainGap (c.advance length)
      let parts := stretch :: gap :: parts
      let after := found.after
      if found.text.isEmpty || after.faces '#' || (!inFlow && decide (after.column < indent)) then
        (parts.reverse.flatten, found.broken, after)
      else plainRest inFlow indent bound after found.text found.broken parts

/-- A plain scalar within a block at a column, and whether a line ended after it. -/
def ofPlain (inFlow : Bool) (within : Int) (c : Cursor) : Token × Bool × Cursor :=
  let (text, broken, after) := plainRest inFlow (within + 1).toNat c.rest.length c [] false []
  (scalar text true, broken, after)

end TagAudit.Yaml.Token
