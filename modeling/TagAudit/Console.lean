import TagAudit.Data.Display
import TagAudit.Log.Entry
import TagAudit.Text.Markup
import TagAudit.Text.Wrapping

/-!
# What reaches the console

Report lines are printed as they are, except for names of pictures, and status messages through the
style markup. The console drops the control codes that would move its cursor back or ring, and fills
tabs up to the next multiple of eight places. A line for which it has no room it lays on several
lines. Usage messages go out directly, without the escape sequences that colour a terminal.

Where the console shows colours, reports are red and the sign before a status message has the colour
of its style. The colours and styles that markup in a message asks for are left out here.
-/

namespace TagAudit

/-- The console that reports and status messages are printed on. -/
structure Console where
  /-- The number of places on a line. -/
  width : Nat
  /-- Whether it shows colours. -/
  isColoured : Bool
  /-- The lines that a line is laid on. -/
  laid : Text → List Text
  /-- A line for which there is room is one line. -/
  whole : ∀ line : Text, 0 < width → line.breadth ≤ width → laid line = [line]

namespace Console

/-- There is room for a line. -/
def Fits (c : Console) (line : Text) : Prop := 0 < c.width ∧ line.breadth ≤ c.width

instance (c : Console) (line : Text) : Decidable (c.Fits line) :=
  inferInstanceAs (Decidable (0 < c.width ∧ line.breadth ≤ c.width))

/-- A console that breaks lines before words, and words where a line is full. Without any place it
    prints nothing. -/
def ofWidth (width : Nat) (isColoured : Bool) : Console where
  width := width
  isColoured := isColoured
  laid line :=
    if width = 0 then [] else if line.breadth ≤ width then [line] else line.wrapped width
  whole line positive room := by rw [if_neg (Nat.ne_of_gt positive), if_pos room]

/-- Control codes that are not printed: bell, backspace, vertical tab, form feed and carriage
    return. -/
def isDropped (c : CodePoint) : Bool := [7, 8, 11, 12, 13].contains c.val

/-- Fills with blanks after each part up to the next multiple of eight places, at least one, given
    the number of places already taken on the line. -/
def filledParts : (place : Nat) → List Text → Text
  | _, [] => []
  | _, [last] => last
  | place, part :: rest =>
    let taken := place + Text.places (part ++ " ")
    let more := (8 - taken % 8) % 8
    part ++ " " ++ List.replicate more (' ' : CodePoint) ++ filledParts (taken + more) rest

/-- Fills tabs with blanks on every line of a text. -/
def fillTabs (t : Text) : Text :=
  Text.joined "\n" ((Text.parts '\n' t).map fun line => filledParts 0 (Text.parts '\t' line))

/-- The lines of a text as the console prints them. -/
def lines (c : Console) (t : Text) : List Text :=
  (Text.parts '\n' (fillTabs (t.filter fun point => !isDropped point))).flatMap c.laid

/-- Lines one below the other, each with a line feed at its end. -/
def ended (lines : List Text) : Text := lines.flatMap fun line => line ++ "\n"

/-- A text in the colour with a number, unless it is empty or the console shows no colours. -/
def inColour (c : Console) (number t : Text) : Text :=
  if c.isColoured && !t.isEmpty then "\x1b[" ++ number ++ "m" ++ t ++ "\x1b[0m" else t

/-- A line of a report as the console prints it, with pictures in place of their names. -/
def line (c : Console) (t : Text) : Text :=
  ended ((c.lines (Emoji.replaced t)).map (c.inColour "31"))

/-- What stands before status messages of a style, and the number of the colour of its sign. -/
structure Mark where
  style : Text
  text : Text
  colour? : Option Text

/-- The marks of the styles that have one. Styles that have none may be called anything. -/
def marks : List Mark :=
  [⟨"success", "✓ ", some "32"⟩, ⟨"error", "✗ ", some "31"⟩, ⟨"warning", "! ", some "33"⟩,
    ⟨"info", "  ", none⟩]

/-- The mark of a style, if it has one. -/
def mark? : Data → Option Mark
  | .text name => marks.find? fun mark => mark.style == name
  | _ => none

/-- What stands before a status message of a style. -/
def mark (style : Data) : Text := ((mark? style).map Mark.text).getD []

/-- A line with its first sign in the colour of a style. -/
def signed (c : Console) (style : Data) (line : Text) : Text :=
  match (mark? style).bind Mark.colour? with
  | some number => c.inColour number (line.take 1) ++ line.drop 1
  | none => line

/-- The lines of a status message, the first one with its sign in colour. -/
def signedLines (c : Console) (style : Data) : List Text → List Text
  | [] => []
  | first :: others => c.signed style first :: others

/-- A status message as it is printed, given what its markup lets be shown. -/
def told (c : Console) (style : Data) (shown : Text) : Text :=
  ended (c.signedLines style (c.lines (mark style ++ shown)))

/-- A status message as it is printed, unless its markup does not let it be shown. -/
def status (c : Console) (style message : Data) : Except Markup.Problem Text :=
  (Markup.shown message.plain).map (c.told style)

/-- The entry that repeats a status message in the log. -/
def statusEntry (style message : Data) : Log.Entry :=
  (Log.Logger.named "progress").entry .debug "status" [("message", message), ("style", style)]

/-- Whether a count is one, the truth value true included. -/
def isOne : Data → Bool
  | .int n => n == 1
  | .bool b => b
  | .real x => x.toInt? == some 1
  | _ => false

/-- The plural of a noun: the one that is given, or else the noun with an s. Only a text can have an
    s. -/
def plural? (singular given : Data) : Option Data :=
  match given, singular with
  | .null, .text t => some (.text (t ++ "s"))
  | .null, _ => none
  | plural, _ => some plural

/-- A count with the noun that fits it. -/
def counted (count singular plural : Data) : Text :=
  count.plain ++ " " ++ (if isOne count then singular else plural).plain

/-- A text without escape sequences: each is an escape, an opening bracket, a run of digits,
    semicolons and question marks, and a letter. The first argument counts what is passed over. -/
def withoutEscapes : (passing : Nat) → Text → Text
  | _, [] => []
  | passing + 1, _ :: rest => withoutEscapes passing rest
  | 0, c :: rest =>
    match rest with
    | opening :: inside =>
      let run := inside.takeWhile fun c : CodePoint => c.isDigit || c = ';' || c = '?'
      let letter := ((inside.drop run.length).head?.map CodePoint.isLetter).getD false
      if c.val = 0x1B && opening = '[' && letter then withoutEscapes (run.length + 2) rest
      else c :: withoutEscapes 0 rest
    | [] => [c]

/-- A text with the number in place of each surrogate, as a stream of characters shows it. -/
def withoutSurrogates (t : Text) : Text :=
  t.flatMap fun c : CodePoint => if c.isSurrogate then "\\u" ++ Text.lowerHex 4 c.val else [c]

end Console

end TagAudit
