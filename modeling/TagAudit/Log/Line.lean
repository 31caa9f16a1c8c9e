import TagAudit.Data.Display
import TagAudit.Data.Json
import TagAudit.Log.Entry

/-!
# Log lines

An entry becomes one line: its fields, event, level and time as a JSON object, or the same for
people, with time, level, event and logger in front and the other fields in the order of their
names. A record made outside this program has no fields.

For people, a field with a trace of calls and one about an exception are not written among the
others: their texts follow the line. A field that only asks for such a text is not written at all.
-/

namespace TagAudit.Log

/-- An entry to be written, at a time. -/
structure Record where
  entry : Entry
  time : Text
  /-- Whether the entry was made outside this program. -/
  isForeign : Bool := false

namespace Record

/-- A message from outside this program. -/
def foreign (level : Level) (message time : Text) : Record := ⟨⟨level, message, []⟩, time, true⟩

/-- All that is written of a record: the fields, and after them what every record has. -/
def fields (r : Record) : Keyed Text Data :=
  r.entry.fields.putAll
    [("event", .text r.entry.event), ("level", .text r.entry.level.name),
      ("timestamp", .text r.time)]

/-- A record as data. -/
def toData (r : Record) : Data := .ofFields r.fields

/-- A record as a JSON object. -/
def jsonLine (r : Record) : Text := r.toData.jsonLine

/-- What is printed of a record where nothing says how to write it. -/
def bareLine (r : Record) : Text := if r.isForeign then r.entry.event else r.toData.literal

/-- How wide the columns of a line for people are at least. -/
structure Columns where
  level : Nat := 0
  event : Nat := 0

/-- A text with blanks after it up to a width. -/
def filled (width : Nat) (t : Text) : Text :=
  t ++ List.replicate (width - t.length) (' ' : CodePoint)

/-- Whether a text has to be quoted to be told apart from what stands around it. -/
def needsQuotes (t : Text) : Bool :=
  t.any fun c : CodePoint =>
    c = ' ' || c = '\t' || c = '=' || c = '\r' || c = '\n' || c = '"' || c = '\''

/-- The value of a field in a line for people. -/
def shownValue : Data → Text
  | .text t => if needsQuotes t then t.quoted else t
  | value => value.literal

/-- The names of fields that have a column of their own. -/
def columnNames : List Text := ["", "timestamp", "level", "event", "logger", "logger_name"]

/-- The names of fields whose texts follow the line, or that ask for such a text. -/
def trailerNames : List Text := ["stack", "exception", "exc_info"]

/-- The columns of a line for people and, after them, its other fields by name. A field without a
    name comes first. -/
def cells (columns : Columns) (r : Record) : List Text :=
  let fields := r.fields
  let column (name : Text) (shown : Text → Text) : List Text :=
    ((fields.get? name).map fun value => shown value.plain).toList
  let isOther (field : Text × Data) : Bool :=
    !columnNames.contains field.1 && !trailerNames.contains field.1
  let others := (fields.filter isOther).mergeSort
    fun left right => left.1.precedes right.1
  ((fields.get? []).map fun value => "=" ++ shownValue value).toList
    ++ column "timestamp" id
    ++ column "level" (fun t => "[" ++ filled columns.level t ++ "]")
    ++ column "event" (filled columns.event)
    ++ column "logger" (fun t => "[" ++ t ++ "]")
    ++ column "logger_name" (fun t => "[" ++ t ++ "]")
    ++ others.map fun (name, value) => name ++ "=" ++ shownValue value

/-- What a field holds, unless it is absent or null. -/
def present? (r : Record) (name : Text) : Option Data :=
  (r.fields.get? name).filter fun value => match value with
    | .null => false
    | _ => true

/-- Whether the exception at hand is asked for. -/
def asksForException (r : Record) : Bool :=
  (Keyed.get? (Text.ofString "exc_info") r.fields).any fun value => !value.isFalsy

/-- What stands between a trace of calls and what follows it. -/
def divider : Text := "\n\n" ++ List.replicate 79 ('=' : CodePoint) ++ "\n"

/-- What follows a line for people. A text about an exception is left out if the exception at hand
    is asked for, which there is none of. -/
def trailer (r : Record) : Text :=
  let exception := (r.present? "exception").map Data.plain
  let isDivided := exception.isSome || r.asksForException
  let stack := (r.present? "stack").map fun value =>
    "\n" ++ value.plain ++ if isDivided then divider else []
  let about := if r.asksForException then none else exception
  stack.getD [] ++ (about.map fun t : Text => "\n" ++ t).getD []

/-- A record as a line for people: what is not empty, with blanks between and none at the end, and
    what follows the line. -/
def consoleLine (columns : Columns) (r : Record) : Text :=
  let line := Text.joined " " ((r.cells columns).filter fun cell => !cell.isEmpty)
  (line.reverse.dropWhile fun c : CodePoint => c = ' ').reverse ++ r.trailer

/-- The record without fields that have one of several names. -/
def without (names : List Text) (r : Record) : Record :=
  { r with entry := { r.entry with
      fields := r.entry.fields.filter fun field => !names.contains field.1 } }

/-- Whether a record can be written as a JSON object. -/
def fitsJson (r : Record) : Bool := r.toData.fitsJson

/-- Whether a record can be written for people: what is shown in the line has to be short enough to
    be displayed, and what follows the line has to be text. -/
def fitsPeople (r : Record) : Bool :=
  let isText (name : Text) : Bool := (r.present? name).all fun value => match value with
    | .text _ => true
    | _ => false
  (r.without trailerNames).toData.isDisplayable && isText "stack"
    && (r.asksForException || isText "exception")

/-- Whether a record can be written where nothing says how to write it. -/
def fitsBare (r : Record) : Bool := r.isForeign || r.toData.isDisplayable

end Record

end TagAudit.Log
