import TagAudit.Yaml.Node

/-!
# Merging mappings

A mapping may say that others are merged into it: their entries come first, and its own entries
replace theirs under the same key. Of several mappings in a sequence the first counts most, so its
entries come last among them. What is merged into a mapping has been merged before.

The sign for the value that a mapping stands for is an ordinary key once the mapping is read as one.
-/

namespace TagAudit.Yaml.Nodes

/-- The first value of a merge key, and the other entries. -/
def firstMerge? (nodes : Nodes) : List (Nat × Nat) → Option (Nat × List (Nat × Nat))
  | [] => none
  | (key, value) :: rest =>
    if (nodes.node key).kind = .merge then some (value, rest)
    else (firstMerge? nodes rest).map fun (merged, others) => (merged, (key, value) :: others)

/-- The mappings that the value of a merge key stands for. -/
def mappingsOf? (nodes : Nodes) (number : Nat) : Option (List Nat) :=
  match nodes.node number with
  | .mapping .. => some [number]
  | .sequence _ items =>
    if items.all fun item => (nodes.node item).isMapping then some items else none
  | .scalar .. => none

/-- The nodes with a key that is only a sign made a text. -/
def withPlainKey (nodes : Nodes) (key : Nat) : Nodes :=
  if (nodes.node key).kind = .defaultKey then nodes.put key ((nodes.node key).withKind .text)
  else nodes

/-- The nodes with all merging done in one of them. The last argument holds the entries merged into
    it so far, and the first bounds how often a merge key is met. -/
def mergeInto : Nat → (number : Nat) → Nodes → (merged : List (Nat × Nat)) → Except Problem Nodes
  | 0, _, nodes, _ => .ok nodes
  | bound + 1, number, nodes, merged =>
    match nodes.firstMerge? (nodes.entries number) with
    | none =>
      let own := nodes.entries number
      .ok ((own.foldl (fun nodes entry => nodes.withPlainKey entry.1) nodes).putEntries number
        (merged ++ own))
    | some (value, others) =>
      match nodes.mappingsOf? value with
      | none => .error .malformed
      | some mappings => do
        let nodes ← mappings.foldlM (fun nodes mapping => mergeInto bound mapping nodes [])
          (nodes.putEntries number others)
        mergeInto bound number nodes (merged ++ (mappings.reverse.map nodes.entries).flatten)

/-- The number of entries in all mappings. -/
def entryCount (nodes : Nodes) : Nat :=
  nodes.foldl (fun n node => match node with | .mapping _ entries => n + entries.length | _ => n) 0

/-- The nodes with all merging done in a mapping. -/
def merge (nodes : Nodes) (number : Nat) : Except Problem Nodes :=
  mergeInto (nodes.entryCount + 1) number nodes []

end TagAudit.Yaml.Nodes
