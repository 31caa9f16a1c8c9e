import TagAudit.Data.Display

/-!
# Data as JSON text

The text is plain ASCII: every code point from `0x7F` on is written as its UTF-16 units in
hexadecimal, a lone surrogate as itself. A table's keys are written as texts whatever they are, and
what JSON has no form for, such as bytes and moments, as the texts of the literal forms.
There are two layouts, one on a single line and one that indents each level by two blanks; in both
an empty list or table has nothing between its brackets.
-/

namespace TagAudit

/-- Numbers that are not finite have names of their own in JSON text. -/
def jsonWords : Binary64.Words := ⟨"NaN", "Infinity"⟩

namespace Text

/-- A code point inside a JSON string. -/
def jsonCodePoint (c : CodePoint) : Text :=
  if c = '"' then "\\\""
  else if c = '\\' then "\\\\"
  else if c = '\n' then "\\n"
  else if c = '\r' then "\\r"
  else if c = '\t' then "\\t"
  else if c.val = 0x08 then "\\b"
  else if c.val = 0x0C then "\\f"
  else if 0x20 ≤ c.val ∧ c.val < 0x7F then [c]
  else if c.val < 0x10000 then "\\u" ++ lowerHex 4 c.val
  else
    "\\u" ++ lowerHex 4 (0xD800 + (c.val - 0x10000) / 0x400)
      ++ ("\\u" ++ lowerHex 4 (0xDC00 + (c.val - 0x10000) % 0x400))

/-- A text as a JSON string. -/
def json (t : Text) : Text := "\"" ++ t.flatMap jsonCodePoint ++ "\""

end Text

/-- A key as the text that it becomes in JSON. -/
def Key.jsonText : Key → Text
  | .null => "null"
  | .bool b => if b then "true" else "false"
  | .int n => Text.ofInt n
  | .real x => x.written jsonWords
  | .text t => t
  | .bytes raw => literalBytes raw
  | .moment _ shown => shown

/-- Whether a key can be written as JSON. Raw bytes and moments cannot, and neither can an integer
    that is too long to be displayed. -/
def Key.fitsJson : Key → Bool
  | .bytes _ | .moment .. => false
  | .int n => Data.isShort n
  | _ => true

namespace Data

mutual
/-- Whether data can be written as JSON text: all its keys can, its integers are short enough to be
    displayed, and no part of it occurs within itself. -/
def fitsJson : Data → Bool
  | int n => isShort n
  | record kind fields => isDisplayable (record kind fields)
  | set members => isDisplayable (set members)
  | list items | tuple items => allFitJson items
  | table entries => entriesFitJson entries
  | knot .. => false
  | _ => true

/-- Whether all items of a list can be written as JSON text. -/
def allFitJson : List Data → Bool
  | [] => true
  | item :: rest => fitsJson item && allFitJson rest

/-- Whether all entries of a table can be written as JSON text. -/
def entriesFitJson : List (Key × Data) → Bool
  | [] => true
  | (key, value) :: rest => key.fitsJson && fitsJson value && entriesFitJson rest
end

/-- How the parts of a list or table are set apart: on one line, or indented by a number of
    levels. -/
inductive JsonLayout where
  | line
  | indented (level : Nat)

namespace JsonLayout

/-- The layout of what stands one level deeper. -/
def deeper : JsonLayout → JsonLayout
  | line => line
  | indented level => indented (level + 1)

/-- What opens and closes the level. -/
def newline : JsonLayout → Text
  | line => []
  | indented level => '\n' :: List.replicate (2 * level) (' ' : CodePoint)

/-- What stands after a comma. -/
def gap : JsonLayout → Text
  | line => " "
  | indented level => newline (indented level)

/-- The parts between brackets. -/
def bracketed (layout : JsonLayout) (opening closing : Text) (parts : List Text) : Text :=
  if parts.isEmpty then opening ++ closing
  else
    let inside := layout.deeper
    opening ++ inside.newline ++ Text.joined ("," ++ inside.gap) parts ++ layout.newline ++ closing

end JsonLayout

mutual
/-- Data as JSON text in a layout. -/
def jsonIn (layout : JsonLayout) : Data → Text
  | null => "null"
  | bool b => if b then "true" else "false"
  | int n => Text.ofInt n
  | real x => x.written jsonWords
  | text t => t.json
  | bytes raw => (literalBytes raw).json
  | moment _ shown => shown.json
  | record kind fields => (record kind fields).literal.json
  | set members => (set members).literal.json
  | list items | tuple items => layout.bracketed "[" "]" (jsonItems layout.deeper items)
  | table entries => layout.bracketed "\x7b" "\x7d" (jsonEntries layout.deeper entries)
  | knot _ content => jsonIn layout content

/-- The items of a list as JSON text. -/
def jsonItems (layout : JsonLayout) : List Data → List Text
  | [] => []
  | item :: rest => jsonIn layout item :: jsonItems layout rest

/-- The entries of a table as JSON text. -/
def jsonEntries (layout : JsonLayout) : List (Key × Data) → List Text
  | [] => []
  | (key, value) :: rest =>
    (key.jsonText.json ++ ": " ++ jsonIn layout value) :: jsonEntries layout rest
end

/-- Data as JSON text on one line. -/
def jsonLine (value : Data) : Text := jsonIn .line value

/-- Data as JSON text with two blanks for each level. -/
def jsonIndented (value : Data) : Text := jsonIn (.indented 0) value

end Data

end TagAudit
