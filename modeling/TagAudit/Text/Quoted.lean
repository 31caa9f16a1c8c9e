import TagAudit.Text.Printable

/-!
# Quoted texts

A quoted text stands between single quotes, or between double quotes when it holds a single quote
and no double one. The quote in use, the backslash and everything unprintable are escaped: line
feed, carriage return and tab by a letter, the rest by its number in two, four or eight digits.
-/

namespace TagAudit.Text

/-- The mark that a text is quoted with. -/
def quoteMark (t : Text) : CodePoint :=
  if t.contains ('\'' : CodePoint) && !t.contains ('"' : CodePoint) then '"' else '\''

/-- A code point as it stands between quote marks. -/
def quotedCodePoint (mark c : CodePoint) : Text :=
  if c = mark ∨ c = '\\' then ['\\', c]
  else if c = '\n' then "\\n"
  else if c = '\r' then "\\r"
  else if c = '\t' then "\\t"
  else if c.isPrintable then [c]
  else if c.val < 0x100 then "\\x" ++ lowerHex 2 c.val
  else if c.val < 0x10000 then "\\u" ++ lowerHex 4 c.val
  else "\\U" ++ lowerHex 8 c.val

/-- A text between quote marks. -/
def quoted (t : Text) : Text :=
  let mark := quoteMark t
  mark :: t.flatMap (quotedCodePoint mark) ++ [mark]

end TagAudit.Text
