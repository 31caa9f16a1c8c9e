import TagAudit.Keyed
import TagAudit.Text
import TagAudit.Binary64

/-!
# Data

Settings come from documents, the environment and the command line before anyone has checked what
they hold; log entries and error details carry whatever their writer knew. `Data` is that common
form: scalars, records, lists, and tables that keep the order of their keys. Tuples and sets are
lists that are displayed in ways of their own.

Data that occurs within itself is unrolled, deeper than anyone looks. Every occurrence of it is
marked with its number, so that it is known again.

Two keys of a table are the same when they are equal as numbers or equal as texts: the integer
one, the number one point zero and the truth value true are one key.
-/

namespace TagAudit

/-- The key of a table. -/
inductive Key where
  | null
  | bool (b : Bool)
  | int (n : Int)
  | real (x : Binary64)
  | text (t : Text)
  | bytes (raw : List UInt8)
  | moment (plain shown : Text)
deriving DecidableEq

namespace Key

/-- The spelling that stands for all keys that are the same. -/
def canonical : Key → Key
  | bool b => int (if b then 1 else 0)
  | real x =>
    match x.toInt? with
    | some n => int n
    | none => real x
  | key => key

instance : BEq Key := ⟨fun left right => decide (left.canonical = right.canonical)⟩

instance : Coe Text Key := ⟨Key.text⟩

end Key

/-- Unchecked data. -/
inductive Data where
  | null
  | bool (b : Bool)
  | int (n : Int)
  | real (x : Binary64)
  | text (t : Text)
  | bytes (raw : List UInt8)
  /-- A point in time, which is only ever shown: plainly, or as the value that it is. -/
  | moment (plain shown : Text)
  /-- A value of a kind of its own, made of named values. -/
  | record (kind : Text) (fields : List (Text × Data))
  | list (items : List Data)
  | tuple (items : List Data)
  | set (members : List Data)
  | table (entries : List (Key × Data))
  /-- An occurrence of data that occurs within itself. -/
  | knot (number : Nat) (content : Data)

/-- A key as data. -/
def Key.toData : Key → Data
  | null => .null
  | bool b => .bool b
  | int n => .int n
  | real x => .real x
  | text t => .text t
  | bytes raw => .bytes raw
  | moment plain shown => .moment plain shown

namespace Data

instance : Coe Text Data := ⟨Data.text⟩

/-- The table, if the data is one. -/
def table? : Data → Option (Keyed Key Data)
  | table entries => some entries
  | knot _ content => content.table?
  | _ => none

/-- The items in order, if the data is a list of any kind. -/
def items? : Data → Option (List Data)
  | list items | tuple items | set items => some items
  | knot _ content => content.items?
  | _ => none

/-- What stands under a text key, if the data is a table. -/
def field? (name : Text) (value : Data) : Option Data :=
  value.table?.bind fun entries => entries.get? (Key.text name)

/-- Whether the data counts as nothing: null, false, zero, or empty. -/
def isFalsy : Data → Bool
  | null => true
  | bool b => !b
  | int n => n == 0
  | real x => x.toInt? == some 0
  | text t => t.isEmpty
  | bytes raw => raw.isEmpty
  | moment .. | record .. => false
  | list items | tuple items | set items => items.isEmpty
  | table entries => entries.isEmpty
  | knot _ content => content.isFalsy

/-- Text, or null where there is none. -/
def ofText? (t : Option Text) : Data := (t.map Data.text).getD .null

/-- A table with text keys. -/
def ofFields (fields : List (Text × Data)) : Data :=
  table (fields.map fun (name, value) => (Key.text name, value))

end Data

end TagAudit
