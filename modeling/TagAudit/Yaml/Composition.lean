import TagAudit.Yaml.Node
import TagAudit.Yaml.Token

/-!
# Composing a document

The tokens of a stream form a document. A node may be given a name and be held under that name
further on, even within itself; a name is given once. Tags are abbreviated by handles, which
directives in front of the document may introduce.

A stream holds at most one document. One without any is the same as an empty scalar. Where the
tokens stop because something is wrong with the stream, that counts only if the tokens before it are
in order.
-/

namespace TagAudit.Yaml

/-- How far composing has come. -/
structure Composer where
  /-- The tokens that are left. -/
  left : List Token
  /-- What is wrong with the stream after them, if anything is. -/
  problem : Option Problem
  handles : Keyed Text Text := []
  /-- The numbers of the nodes that have a name. -/
  named : Keyed Text Nat := []
  /-- The nodes so far; one that is not complete is empty. -/
  nodes : Nodes := #[]
  /-- The numbers of the nodes that are not complete. -/
  incomplete : List Nat := []
  /-- Whether a node is held within itself. -/
  isKnotted : Bool := false

/-- A composition of part of a document. -/
abbrev Compose (α : Type) := StateT Composer (Except Problem) α

namespace Compose

/-- The handles that need no directive. -/
def usualHandles : Keyed Text Text := [("!", "!"), ("!!", knownTags)]

/-- Gives up. -/
def fail {α : Type} : Compose α := fun _ => .error .malformed

/-- The next token. -/
def peek : Compose (Option Token) := fun s =>
  match s.left, s.problem with
  | [], some problem => .error problem
  | left, _ => .ok (left.head?, s)

/-- Passes the next token. -/
def skip : Compose Unit := fun s => .ok ((), { s with left := s.left.tail })

/-- Whether the next token is one of several. -/
def faces (tokens : List Token) : Compose Bool := do
  return ((← peek).map tokens.contains).getD false

/-- Passes the next token if it is a given one, and tells whether it was. -/
def skips (t : Token) : Compose Bool := do
  if ← faces [t] then
    skip
    return true
  else return false

/-- Passes a token that has to come next. -/
def expect (t : Token) : Compose Unit := do
  if ← skips t then return () else fail

/-- The name of a node, if it is given one next. -/
def nodeName : Compose (Option Text) := do
  match ← peek with
  | some (.anchor name) =>
    skip
    return some name
  | _ => return none

/-- The tag of a node, if it is given one next. -/
def nodeTag : Compose (Option (Option Text × Text)) := do
  match ← peek with
  | some (.tag handle? suffix) =>
    skip
    return some (handle?, suffix)
  | _ => return none

/-- A tag with its handle written out. -/
def writtenOut : Option (Option Text × Text) → Compose (Option Text)
  | none => return none
  | some (none, suffix) => return some suffix
  | some (some handle, suffix) => do
    match (← get).handles.get? handle with
    | some start => return some (start ++ suffix)
    | none => fail

/-- The name and the tag of a node, in either order. -/
def properties : Compose (Option Text × Option Text) := do
  match ← nodeName with
  | some name => return (some name, ← writtenOut (← nodeTag))
  | none =>
    let tag ← nodeTag
    let name ← if tag.isSome then nodeName else pure none
    return (name, ← writtenOut tag)

/-- Gives the next number to a node that is not complete. -/
def reserve : Compose Nat := fun s =>
  let number := s.nodes.size
  .ok (number, { s with nodes := s.nodes.push .empty, incomplete := number :: s.incomplete })

/-- Names a node; the name must not have been given. -/
def declare (number : Nat) : Option Text → Compose Unit
  | none => return ()
  | some name => do
    if (← get).named.has name then fail
    else modify fun s => { s with named := s.named.put name number }

/-- Completes a node. -/
def complete (number : Nat) (node : Node) : Compose Unit :=
  modify fun s => { s with
    nodes := s.nodes.put number node
    incomplete := s.incomplete.filter fun other => other != number }

/-- Adds a complete node. -/
def add (node : Node) : Compose Nat := do
  let number ← reserve
  complete number node
  return number

/-- The node that has a name. -/
def named (name : Text) : Compose Nat := do
  match (← get).named.get? name with
  | some number =>
    modify fun s => { s with isKnotted := s.isKnotted || s.incomplete.contains number }
    return number
  | none => fail

/-- The type that a tag names, or else the one that goes without saying. -/
def kindOr (usual : Kind) : Option Text → Kind
  | none => usual
  | some tag => if tag == Text.ofString "!" then usual else .ofTag tag

/-- The type of a scalar. The lone mark as a tag asks for the type that the form suggests. -/
def scalarKind (text : Text) (isPlain : Bool) : Option Text → Kind
  | none => if isPlain then Scalar.kindOfPlain text else .text
  | some tag => if tag == Text.ofString "!" then Scalar.kindOfPlain text else .ofTag tag

/-- Where a node stands. -/
inductive Place where
  /-- Inside brackets. -/
  | flow
  | block
  /-- In a block mapping, where the items of a sequence need not be indented. -/
  | entry
deriving DecidableEq

/-- The tokens before which a part of a block mapping is left out. -/
def noBlockPart : List Token := [.key, .value, .blockEnd]

mutual
/-- A node. The number bounds how much further composing goes; it is used up by one for each step,
    and each but a few steps pass a token. -/
def node (place : Place) : Nat → Compose Nat
  | 0 => fail
  | bound + 1 => do
    match ← peek with
    | some (.reference name) =>
      skip
      named name
    | _ =>
      let (name, tag) ← properties
      let next ← peek
      let number ← reserve
      declare number name
      complete number (← content place name tag next bound)
      return number

/-- A node after its name and tag, given the next token. -/
def content (place : Place) (name tag : Option Text) (next : Option Token) : Nat → Compose Node
  | 0 => fail
  | bound + 1 => do
    match next with
    | some (.scalar text isPlain) =>
      skip
      return .scalar (scalarKind text isPlain tag) text
    | some .flowSequenceStart =>
      skip
      return .sequence (kindOr .sequence tag) (← flowItems true bound)
    | some .flowMappingStart =>
      skip
      return .mapping (kindOr .mapping tag) (← flowPairs true bound)
    | some .blockSequenceStart =>
      if place = .flow then fail
      else
        skip
        return .sequence (kindOr .sequence tag) (← blockItems bound)
    | some .blockMappingStart =>
      if place = .flow then fail
      else
        skip
        return .mapping (kindOr .mapping tag) (← blockPairs bound)
    | some .blockEntry =>
      if place = .entry then return .sequence (kindOr .sequence tag) (← looseItems bound)
      else absent
    | _ => absent
where
  /-- A node of which only the name or the tag is there. -/
  absent : Compose Node :=
    if name.isSome || tag.isSome then return .scalar (scalarKind [] tag.isNone tag) [] else fail

/-- A node unless one of some tokens comes next, and else an empty one. -/
def nodeUnless (tokens : List Token) (place : Place) : Nat → Compose Nat
  | 0 => fail
  | bound + 1 => do if ← faces tokens then add .empty else node place bound

/-- The items of a block sequence. -/
def blockItems : Nat → Compose (List Nat)
  | 0 => fail
  | bound + 1 => do
    if ← skips .blockEntry then
      let item ← nodeUnless [.blockEntry, .blockEnd] .block bound
      return item :: (← blockItems bound)
    else
      expect .blockEnd
      return []

/-- The items of a sequence that is not indented. -/
def looseItems : Nat → Compose (List Nat)
  | 0 => fail
  | bound + 1 => do
    if ← skips .blockEntry then
      let item ← nodeUnless (.blockEntry :: noBlockPart) .block bound
      return item :: (← looseItems bound)
    else return []

/-- The entries of a block mapping. -/
def blockPairs : Nat → Compose (List (Nat × Nat))
  | 0 => fail
  | bound + 1 => do
    if ← skips .key then
      let key ← nodeUnless noBlockPart .entry bound
      let value ← if ← skips .value then nodeUnless noBlockPart .entry bound else add .empty
      return (key, value) :: (← blockPairs bound)
    else
      expect .blockEnd
      return []

/-- An entry inside brackets after the sign before its key, given the closing bracket. -/
def flowPair (closing : Token) : Nat → Compose (Nat × Nat)
  | 0 => fail
  | bound + 1 => do
    let key ← nodeUnless [.value, .flowEntry, closing] .flow bound
    let value ← if ← skips .value then nodeUnless [.flowEntry, closing] .flow bound
      else add .empty
    return (key, value)

/-- The items of a sequence in brackets; before any but the first there is a comma. -/
def flowItems (isFirst : Bool) : Nat → Compose (List Nat)
  | 0 => fail
  | bound + 1 => do
    if ← skips .flowSequenceEnd then return []
    else
      if !isFirst then expect .flowEntry
      if ← skips .key then
        let item ← add (.mapping .mapping [← flowPair .flowSequenceEnd bound])
        return item :: (← flowItems false bound)
      else if ← skips .flowSequenceEnd then return []
      else
        let item ← node .flow bound
        return item :: (← flowItems false bound)

/-- The entries of a mapping in braces; before any but the first there is a comma. -/
def flowPairs (isFirst : Bool) : Nat → Compose (List (Nat × Nat))
  | 0 => fail
  | bound + 1 => do
    if ← skips .flowMappingEnd then return []
    else
      if !isFirst then expect .flowEntry
      if ← skips .key then
        let pair ← flowPair .flowMappingEnd bound
        return pair :: (← flowPairs false bound)
      else if ← skips .flowMappingEnd then return []
      else
        let key ← node .flow bound
        let value ← add .empty
        return (key, value) :: (← flowPairs false bound)
end

/-- The directives in front of a document, at most a number of them. -/
def directives (version : Bool) : Nat → Compose Unit
  | 0 => fail
  | bound + 1 => do
    match ← peek with
    | some (.versionDirective major) =>
      skip
      if version || major ≠ 1 then fail else directives true bound
    | some (.tagDirective handle start) =>
      skip
      if (← get).handles.has handle then fail
      else
        modify fun s => { s with handles := s.handles.put handle start }
        directives version bound
    | some .otherDirective =>
      skip
      directives version bound
    | _ =>
      modify fun s => { s with
        handles := s.handles ++ usualHandles.filter fun usual => !s.handles.has usual.1 }

/-- Whether a token begins a document that is marked as one. -/
def opensDocument : Token → Bool
  | .versionDirective _ | .tagDirective .. | .otherDirective | .documentStart => true
  | _ => false

/-- Passes the marks at the end of a document, after which nothing may follow. -/
def finish : Compose Unit := fun s =>
  if s.left.all fun t => t == .documentEnd then
    match s.problem with
    | some problem => .error problem
    | none => .ok ((), { s with left := [] })
  else .error .malformed

/-- The root of the only document of a stream. -/
def root (bound : Nat) : Compose Nat := do
  match ← peek with
  | none => add .empty
  | some first =>
    let root ←
      if opensDocument first then do
        directives false bound
        expect .documentStart
        match ← peek with
        | none => add .empty
        | some next =>
          if next == .documentEnd || opensDocument next then add .empty else node .block bound
      else do
        directives false bound
        node .block bound
    finish
    return root

end Compose

/-- The document that the tokens of a stream form. -/
def Document.ofTokens (tokens : Tokens) : Except Problem Document := do
  let bound := 4 * tokens.found.length + 4
  let (root, s) ← (Compose.root bound).run { left := tokens.found, problem := tokens.problem }
  return ⟨s.nodes, root, s.isKnotted⟩

end TagAudit.Yaml
