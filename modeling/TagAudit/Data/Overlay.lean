import TagAudit.Data

/-!
# Laying data over data

Two tables are combined key by key: a key of the upper table keeps the place it has in the lower
one or comes after all of its keys, and where both hold a table under a key the two are combined in
turn. Anything else in the upper table takes the place of what is below it, whole.

Of a table that stands within itself only so much is combined as is laid out. Whoever lays one such
table over another has to find out first whether that has an end, and how deep it goes.
-/

namespace TagAudit.Data

mutual
/-- Lays data over other data. -/
def laidOver : Data → Data → Data
  | table upper, lower =>
    match lower.table? with
    | some lower => table (overEntries upper lower)
    | none => table upper
  | knot number upper, lower =>
    if upper.table?.isSome && lower.table?.isSome then laidOver upper lower else knot number upper
  | upper, _ => upper

/-- Lays the entries of a table over those of another. -/
def overEntries : List (Key × Data) → Keyed Key Data → Keyed Key Data
  | [], lower => lower
  | (key, value) :: rest, lower =>
    overEntries rest (lower.put key
      (match lower.get? key with
      | some below => laidOver value below
      | none => value))
end

mutual
/-- Whether data is a table that stands within itself, or a table in which keys lead to one. -/
def isEndless : Data → Bool
  | knot _ content => content.table?.isSome
  | table entries => holdsEndless entries
  | _ => false

/-- Whether something in a table is a table that stands within itself, or leads to one. -/
def holdsEndless : List (Key × Data) → Bool
  | [] => false
  | (_, value) :: rest => isEndless value || holdsEndless rest
end

mutual
/-- How many tables stand one within the other where keys lead from table to table. -/
def levels : Data → Nat
  | table entries => levelsOf entries + 1
  | _ => 0

/-- How many tables stand one within the other below a table. -/
def levelsOf : List (Key × Data) → Nat
  | [] => 0
  | (_, value) :: rest => max (levels value) (levelsOf rest)
end

end TagAudit.Data
