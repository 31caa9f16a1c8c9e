import TagAudit.Data
import TagAudit.Binary64.Shortest
import TagAudit.Text.Integer
import TagAudit.Text.Quoted

/-!
# Displaying data

Data has two written forms. The literal form quotes texts and capitalises truth values, and lists
and tables show the literal forms of what they hold. The plain form differs for a text, which stands
for itself, and for a moment. Where data occurs within itself, three dots stand for the inner
occurrence.
-/

namespace TagAudit

/-- Numbers that are not finite are displayed in small letters. -/
def displayWords : Binary64.Words := ⟨"nan", "inf"⟩

/-- The literal form of raw bytes: printable ASCII as it is, the rest in two digits each. -/
def literalBytes (raw : List UInt8) : Text :=
  let t : Text := raw.map fun b => CodePoint.ofNat b.toNat
  let mark := t.quoteMark
  "b" ++ mark :: t.flatMap (fun c =>
    if c.val < 0x7F then Text.quotedCodePoint mark c else "\\x" ++ Text.lowerHex 2 c.val) ++ [mark]

/-- The literal form of a truth value. -/
def literalBool (b : Bool) : Text := if b then "True" else "False"

/-- The literal form of a key. -/
def Key.literal : Key → Text
  | .null => "None"
  | .bool b => literalBool b
  | .int n => Text.ofInt n
  | .real x => x.written displayWords
  | .text t => t.quoted
  | .bytes raw => literalBytes raw
  | .moment _ shown => shown

namespace Data

/-- The literal forms of the items of a tuple, where a comma follows a single one. -/
def literalTuple : List Text → Text
  | [item] => "(" ++ item ++ ",)"
  | items => "(" ++ Text.joined ", " items ++ ")"

/-- The literal forms of the members of a set; the empty set has a name. -/
def literalSet (members : List Text) : Text :=
  if members.isEmpty then "set()" else "\x7b" ++ Text.joined ", " members ++ "\x7d"

mutual
/-- The literal form of data that stands within data with some numbers. -/
def literalWithin (around : List Nat) : Data → Text
  | null => "None"
  | bool b => literalBool b
  | int n => Text.ofInt n
  | real x => x.written displayWords
  | text t => t.quoted
  | bytes raw => literalBytes raw
  | moment _ shown => shown
  | record kind fields => kind ++ "(" ++ Text.joined ", " (literalFields around fields) ++ ")"
  | list items => "[" ++ Text.joined ", " (literals around items) ++ "]"
  | tuple items => literalTuple (literals around items)
  | set members => literalSet (literals around members)
  | table entries => "\x7b" ++ Text.joined ", " (literalEntries around entries) ++ "\x7d"
  | knot number content =>
    if around.contains number then
      if content.table?.isSome then "\x7b...\x7d" else "[...]"
    else literalWithin (number :: around) content

/-- The literal forms of the items of a list. -/
def literals (around : List Nat) : List Data → List Text
  | [] => []
  | item :: rest => literalWithin around item :: literals around rest

/-- The literal forms of the entries of a table. -/
def literalEntries (around : List Nat) : List (Key × Data) → List Text
  | [] => []
  | (key, value) :: rest =>
    (key.literal ++ ": " ++ literalWithin around value) :: literalEntries around rest

/-- The literal forms of the fields of a record. -/
def literalFields (around : List Nat) : List (Text × Data) → List Text
  | [] => []
  | (name, value) :: rest =>
    (name ++ "=" ++ literalWithin around value) :: literalFields around rest
end

/-- Whether an integer is short enough to be displayed. -/
def isShort (n : Int) : Bool := decide (n.natAbs < Nat.pow 10 Text.digitLimit)

/-- Whether a key can be displayed. -/
def isKeyDisplayable : Key → Bool
  | .int n => isShort n
  | _ => true

mutual
/-- Whether data can be displayed, which it can if all integers in it are short enough. -/
def isDisplayable : Data → Bool
  | int n => isShort n
  | record _ fields => areFieldsDisplayable fields
  | list items | tuple items | set items => areDisplayable items
  | table entries => areEntriesDisplayable entries
  | knot _ content => isDisplayable content
  | _ => true

/-- Whether all items of a list can be displayed. -/
def areDisplayable : List Data → Bool
  | [] => true
  | item :: rest => isDisplayable item && areDisplayable rest

/-- Whether all entries of a table can be displayed. -/
def areEntriesDisplayable : List (Key × Data) → Bool
  | [] => true
  | (key, value) :: rest =>
    isKeyDisplayable key && isDisplayable value && areEntriesDisplayable rest

/-- Whether all fields of a record can be displayed. -/
def areFieldsDisplayable : List (Text × Data) → Bool
  | [] => true
  | (_, value) :: rest => isDisplayable value && areFieldsDisplayable rest
end

/-- The literal form of data. -/
def literal (value : Data) : Text := literalWithin [] value

/-- The plain form of data. -/
def plain : Data → Text
  | text t => t
  | moment plain _ => plain
  | value => literal value

end Data

end TagAudit
