import TagAudit.Yaml.Composition
import TagAudit.Yaml.Meaning
import TagAudit.Yaml.Token.Lexer

/-!
# YAML

Settings are written in YAML. A stream means what its only document means. It may hold only code
points that can be seen, blanks, tabs and ends of lines.
-/

namespace TagAudit.Yaml

/-- Whether a code point may stand in a stream. -/
def isAllowed (c : CodePoint) : Bool :=
  [0x09, 0x0A, 0x0D, 0x85].contains c.val || (0x20 ≤ c.val && c.val ≤ 0x7E)
    || (0xA0 ≤ c.val && c.val ≤ 0xD7FF) || (0xE000 ≤ c.val && c.val ≤ 0xFFFD) || 0x10000 ≤ c.val

/-- A text in which every carriage return is a line feed, together with the line feed after it. The
    flag tells whether a carriage return has just gone by. -/
def unifiedLines : (returned : Bool) → Text → Text
  | _, [] => []
  | returned, c :: rest =>
    if c = '\r' then '\n' :: unifiedLines true rest
    else if c = '\n' && returned then unifiedLines false rest
    else c :: unifiedLines false rest

/-- What a stream means. -/
def read (t : Text) : Except Problem Web :=
  let t := unifiedLines false t
  if !t.all isAllowed then .error .malformed
  else (Document.ofTokens (Token.ofText t)).bind Document.web

end TagAudit.Yaml
