import TagAudit.Data

/-!
# Log entries

An entry is an event with a level and with fields. A logger holds fields that it adds to every
entry it makes; the name of the logger is one of them and comes first. Making an entry is all that
the parts of a run do: where entries are written is decided elsewhere.
-/

namespace TagAudit.Log

/-- How much an entry matters. -/
inductive Level where
  | debug | info | warning | error | critical
deriving DecidableEq

namespace Level

/-- The rank of a level. -/
def rank : Level → Nat
  | debug => 10 | info => 20 | warning => 30 | error => 40 | critical => 50

/-- Whether a level is at least another. -/
def reaches (level threshold : Level) : Bool := threshold.rank ≤ level.rank

/-- The name of a level in an entry. -/
def name : Level → Text
  | debug => "debug" | info => "info" | warning => "warning" | error => "error"
  | critical => "critical"

/-- The name of a level in settings. -/
def settingName : Level → Text
  | debug => "DEBUG" | info => "INFO" | warning => "WARNING" | error => "ERROR"
  | critical => "CRITICAL"

/-- All levels, from the least. -/
def all : List Level := [debug, info, warning, error, critical]

/-- The level with a name in settings. -/
def ofSettingName? (t : Text) : Option Level := all.find? fun level => level.settingName == t

end Level

/-- Something worth noting, with what was known about it. -/
structure Entry where
  level : Level
  event : Text
  fields : Keyed Text Data

/-- The fields that go into every entry a logger makes. -/
structure Logger where
  context : Keyed Text Data

namespace Logger

/-- A logger without a name. -/
def anonymous : Logger := ⟨[]⟩

/-- A logger with a name; the empty name is none. -/
def named (name : Text) : Logger := if name.isEmpty then anonymous else ⟨[("logger", .text name)]⟩

/-- The logger with further fields. -/
def bind (logger : Logger) (fields : Keyed Text Data) : Logger :=
  ⟨logger.context.putAll fields⟩

/-- The names that the fields of an entry cannot have, because making an entry uses them. -/
def takenNames : List Text := ["self", "event"]

/-- The names that the fields of an entry cannot have if entries of its level are made. -/
def takenIfMade : List Text := ["method_name"]

/-- Whether an entry can have fields, given whether entries of its level are made. -/
def allows (isMade : Bool) (fields : Keyed Text Data) : Bool :=
  fields.all fun field =>
    !takenNames.contains field.1 && !(isMade && takenIfMade.contains field.1)

/-- An entry with the logger's fields and its own. -/
def entry (logger : Logger) (level : Level) (event : Text) (fields : Keyed Text Data) : Entry :=
  ⟨level, event, logger.context.putAll fields⟩

end Logger

end TagAudit.Log
