import TagAudit.Yaml.Merging

/-!
# What documents mean

The meaning of a document is read off from its root on. A scalar means its value as soon as it is
met. A collection waits until all collections that were met before it have had their turn; then what
it holds is met, in order. So of several things that are wrong, the one that is nearest to the root
counts, and of those that are equally near the first.

A key of a mapping has to be a scalar. Where a key occurs twice, the last value stays. A
mapping may also be read as a scalar, namely as the value under the sign for it.

In the end there is a web of nodes with their meanings, which is laid out as data. A collection
within itself is laid out within itself, up to a depth beyond which nothing looks.
-/

namespace TagAudit.Yaml

/-- What a node means, where nodes within it go by their numbers. -/
inductive Meaning where
  | scalar (value : Data)
  | list (items : List Nat)
  | pairs (entries : List (Nat × Nat))
  | table (entries : List (Key × Nat))
  | set (members : List Key)

/-- How far the reading of a document has come. -/
structure Reader where
  nodes : Nodes
  /-- The meanings of the nodes that have been met. A collection means an empty one until its turn
      comes. -/
  meanings : Array (Option Meaning)
  /-- The collections whose turn is to come. -/
  waiting : List Nat

/-- A reading of part of a document. -/
abbrev Read (α : Type) := StateT Reader (Except Problem) α

namespace Read

/-- Gives up. -/
def fail {α : Type} (problem : Problem) : Read α := fun _ => .error problem

/-- The text of a node that is read as a scalar, in at most a number of steps. -/
def scalarText? (nodes : Nodes) : Nat → Nat → Option Text
  | 0, _ => none
  | bound + 1, number =>
    match nodes.node number with
    | .scalar _ text => some text
    | .sequence .. => none
    | .mapping _ entries =>
      (entries.find? fun entry => (nodes.node entry.1).kind = .defaultKey).bind fun entry =>
        scalarText? nodes bound entry.2

/-- The value of a node that is read as a scalar. -/
def scalarValue (nodes : Nodes) (number : Nat) : Except Problem Data :=
  let node := nodes.node number
  match scalarText? nodes (nodes.size + 1) number with
  | none => .error .malformed
  | some text =>
    if node.isMapping && node.kind = .timestamp then .error .mappingAsMoment
    else Scalar.toData text node.kind

/-- The collection without anything in it that a type asks for. -/
def emptyCollection? : Kind → Option Meaning
  | .sequence => some (.list [])
  | .pairs => some (.pairs [])
  | .mapping => some (.table [])
  | .set => some (.set [])
  | _ => none

/-- Gives a node its meaning. -/
def mean (number : Nat) (meaning : Meaning) : Read Unit :=
  modify fun r => { r with meanings := r.meanings.setIfInBounds number (some meaning) }

/-- The meaning of a node, if it has been met. -/
def meaning? (number : Nat) : Read (Option Meaning) := do
  return (← get).meanings[number]?.join

/-- Meets a node. -/
def meet (number : Nat) : Read Unit := do
  if (← meaning? number).isNone then
    let nodes := (← get).nodes
    match emptyCollection? (nodes.node number).kind with
    | some meaning =>
      mean number meaning
      modify fun r => { r with waiting := r.waiting ++ [number] }
    | none => mean number (.scalar (← fun r => (scalarValue nodes number).map (·, r)))

/-- The key that a scalar means. -/
def keyOf? : Data → Option Key
  | .null => some .null
  | .bool b => some (.bool b)
  | .int n => some (.int n)
  | .real x => some (.real x)
  | .text t => some (.text t)
  | .bytes raw => some (.bytes raw)
  | .moment plain shown => some (.moment plain shown)
  | _ => none

/-- Meets a node that is a key. -/
def meetKey (number : Nat) : Read Key := do
  meet number
  match ← meaning? number with
  | some (.scalar value) =>
    match keyOf? value with
    | some key => return key
    | none => fail .malformed
  | _ => fail .malformed

/-- Meets the keys and values of entries. -/
def meetEntries : List (Nat × Nat) → Read (List (Key × Nat))
  | [] => return []
  | (number, value) :: rest => do
    let key ← meetKey number
    meet value
    return (key, value) :: (← meetEntries rest)

/-- Meets the keys and values of mappings with one entry each. -/
def meetPairs : List Nat → Read (List (Nat × Nat))
  | [] => return []
  | item :: rest => do
    match (← get).nodes.node item with
    | .mapping _ [(key, value)] =>
      meet key
      meet value
      return (key, value) :: (← meetPairs rest)
    | _ => fail .malformed

/-- The entries of a mapping in which all merging is done. -/
def mergedEntries (number : Nat) : Read (List (Nat × Nat)) := do
  if (← get).nodes.node number |>.isMapping then
    let nodes ← fun r => (r.nodes.merge number).map (·, r)
    modify fun r => { r with nodes }
    return nodes.entries number
  else fail .malformed

/-- The members of a set in order: integers by their size, others as they are given. -/
def inOrder (members : List Key) : List Key :=
  let integer? : Key → Option Int
    | .int n => some n
    | .bool b => some (if b then 1 else 0)
    | _ => none
  match members.mapM fun key => (integer? key).map (·, key) with
  | none => members
  | some numbered => (numbered.mergeSort fun a b => decide (a.1 ≤ b.1)).map Prod.snd

/-- Takes the turn of a collection. -/
def takeTurn (number : Nat) : Read Unit := do
  let node := (← get).nodes.node number
  match node.kind, node with
  | .sequence, .sequence _ items =>
    items.forM meet
    mean number (.list items)
  | .pairs, .sequence _ items => mean number (.pairs (← meetPairs items))
  | .mapping, _ =>
    mean number (.table (Keyed.ofPairs (← meetEntries (← mergedEntries number))))
  | .set, _ =>
    let entries ← meetEntries (← mergedEntries number)
    mean number (.set (inOrder (Keyed.keys (Keyed.ofPairs entries))))
  | _, _ => fail .malformed

/-- Takes the turns of all collections, at most a number of them. -/
def takeTurns : Nat → Read Unit
  | 0 => return ()
  | bound + 1 => do
    match (← get).waiting with
    | [] => return ()
    | number :: rest =>
      modify fun r => { r with waiting := rest }
      takeTurn number
      takeTurns bound

end Read

/-- What a document means: the meanings of its nodes by their numbers, where it begins, and whether
    some collection in it is within itself. -/
structure Web where
  meanings : Array (Option Meaning)
  root : Nat
  isKnotted : Bool

namespace Web

/-- What a document means that holds an empty mapping. -/
def empty : Web := ⟨#[some (.table [])], 0, false⟩

/-- The entries of a node that means a table. -/
def table? (web : Web) (number : Nat) : Option (Keyed Key Nat) :=
  match web.meanings[number]?.join with
  | some (.table entries) => some entries
  | _ => none

/-- The data that a node means, given how often a collection is laid out within itself and the
    numbers of the collections around it. The first argument bounds how deep it goes. -/
def laidOut (meanings : Array (Option Meaning)) (isKnotted : Bool) (unrolling : Nat) :
    Nat → (around : List Nat) → (number : Nat) → Data
  | 0, _, _ => .null
  | bound + 1, around, number =>
    let within := laidOut meanings isKnotted unrolling bound (number :: around)
    let isDeep := isKnotted && decide (unrolling ≤ around.count number)
    let content : Data := match meanings[number]?.join with
      | none => .null
      | some (.scalar value) => value
      | some (.list items) => .list (if isDeep then [] else items.map within)
      | some (.pairs entries) =>
        .list (if isDeep then [] else entries.map fun (key, value) =>
          .tuple [within key, within value])
      | some (.table entries) =>
        .table (if isDeep then [] else entries.map fun (key, value) => (key, within value))
      | some (.set members) => .set (members.map Key.toData)
    match isKnotted, content with
    | true, .list _ | true, .table _ => .knot number content
    | _, _ => content

/-- How often a collection is laid out within itself, for those who look at data that nothing is
    laid over. -/
def unrolling : Nat := 6

/-- The data that a web means, where a number of levels may be laid over it. -/
def toData (web : Web) (levels : Nat) : Data :=
  let unrolling := unrolling + levels
  laidOut web.meanings web.isKnotted unrolling ((unrolling + 1) * web.meanings.size + 1) [] web.root

/-- The entries of the table that a web means, where a number of levels may be laid over it. -/
def entries (web : Web) (levels : Nat) : Keyed Key Data := (web.toData levels).table?.getD []

end Web

/-- What a document means. -/
def Document.web (document : Document) : Except Problem Web := do
  let size := document.nodes.size
  let read : Read Unit := do
    Read.meet document.root
    Read.takeTurns size
  let (_, reader) ← read.run ⟨document.nodes, Array.replicate size none, []⟩
  return ⟨reader.meanings, document.root, document.isKnotted⟩

end TagAudit.Yaml
