/-!
# Insertion-ordered tables

A table keeps its keys in the order in which they were first put. Putting a key that is already
there replaces the value and keeps the place, so a table never holds a key twice when it is built
by `put`.
-/

namespace TagAudit

/-- Pairs of a key and a value, in the order in which the keys were first put. -/
abbrev Keyed (κ : Type) (ν : Type) := List (κ × ν)

namespace Keyed

variable {κ ν μ : Type} [BEq κ]

/-- The value under a key: that of the first pair that holds it. -/
def get? (key : κ) : Keyed κ ν → Option ν
  | [] => none
  | (k, value) :: rest => if k == key then some value else get? key rest

/-- Whether some pair holds the key. -/
def has (key : κ) (table : Keyed κ ν) : Bool := table.any fun entry => entry.1 == key

/-- Replaces the value under a key in its place, or adds the pair at the end. -/
def put (key : κ) (value : ν) : Keyed κ ν → Keyed κ ν
  | [] => [(key, value)]
  | (k, old) :: rest => if k == key then (k, value) :: rest else (k, old) :: put key value rest

/-- Puts the pairs of a second table into a first, from the front. -/
def putAll (table added : Keyed κ ν) : Keyed κ ν :=
  added.foldl (fun table entry => table.put entry.1 entry.2) table

/-- Builds a table from pairs that may repeat a key: the first place and the last value stay. -/
def ofPairs (pairs : List (κ × ν)) : Keyed κ ν := putAll [] pairs

omit [BEq κ] in
/-- The keys in order. -/
def keys (table : Keyed κ ν) : List κ := table.map Prod.fst

/-- The table without a key. -/
def without (key : κ) (table : Keyed κ ν) : Keyed κ ν := table.filter fun entry => !(entry.1 == key)

omit [BEq κ] in
/-- The same keys with other values. -/
def mapValues (f : ν → μ) (table : Keyed κ ν) : Keyed κ μ :=
  table.map fun entry => (entry.1, f entry.2)

end Keyed

end TagAudit
