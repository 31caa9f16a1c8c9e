import TagAudit.Yaml.Cursor

/-!
# The tokens of YAML

A stream is a sequence of tokens. Indentation has become tokens of its own: block collections begin
where a line is indented further than the ones around it, and end where it is not. Keys are marked
even where nothing but the colon after them tells that they are keys.
-/

namespace TagAudit.Yaml

/-- A token. -/
inductive Token where
  | versionDirective (major : Nat)
  | tagDirective (handle start : Text)
  | otherDirective
  | documentStart
  | documentEnd
  | blockSequenceStart
  | blockMappingStart
  | blockEnd
  | flowSequenceStart
  | flowSequenceEnd
  | flowMappingStart
  | flowMappingEnd
  | flowEntry
  | blockEntry
  | key
  | value
  | reference (name : Text)
  | anchor (name : Text)
  /-- A tag with the handle that abbreviates its beginning, if it has one. -/
  | tag (handle : Option Text) (suffix : Text)
  /-- A scalar; a plain one is neither quoted nor a block. -/
  | scalar (text : Text) (isPlain : Bool)
deriving DecidableEq

/-- The tokens of a stream. -/
structure Tokens where
  found : List Token
  /-- What is wrong with the stream after them, if anything is. -/
  problem : Option Problem

end TagAudit.Yaml
