import TagAudit.Text

/-!
# Texts that are like each other

How like two texts are is measured by what they share: the longest block that stands in both, then
what is shared to the left of it and to the right. The measure is the share of that in the two texts
together. Texts that share three fifths are alike.

Blocks of the same length are told apart by where they stand, first in the first text and then in
the second; the earlier one counts.
-/

namespace TagAudit.Text

/-- The length of the beginning that two texts share. -/
def commonStart : Text → Text → Nat
  | a :: rest, b :: others => if a = b then commonStart rest others + 1 else 0
  | _, _ => 0

/-- A block that stands in two texts. -/
structure Block where
  inFirst : Nat
  inSecond : Nat
  length : Nat

/-- The longest block that begins at a place in a first text, given what follows there, if it is
    longer than another. -/
def Block.longerAt (found : Block) (place : Nat) (rest : Text) : (inSecond : Nat) → Text → Block
  | _, [] => found
  | inSecond, c :: others =>
    let length := commonStart rest (c :: others)
    let found := if found.length < length then ⟨place, inSecond, length⟩ else found
    found.longerAt place rest (inSecond + 1) others

/-- The longest block that stands in two texts, if it is longer than another, from a place in the
    first on. -/
def Block.longer (found : Block) (second : Text) : (place : Nat) → Text → Block
  | _, [] => found
  | place, c :: rest => (found.longerAt place (c :: rest) 0 second).longer second (place + 1) rest

/-- The longest block that stands in two texts. -/
def longestBlock (first second : Text) : Block := Block.longer ⟨0, 0, 0⟩ second 0 first

/-- How many code points two texts share in blocks, at most a number of which is taken one inside
    the other. -/
def sharedWithin : Nat → Text → Text → Nat
  | 0, _, _ => 0
  | bound + 1, first, second =>
    let block := longestBlock first second
    if block.length = 0 then 0
    else
      block.length + sharedWithin bound (first.take block.inFirst) (second.take block.inSecond)
        + sharedWithin bound (first.drop (block.inFirst + block.length))
          (second.drop (block.inSecond + block.length))

/-- How many code points two texts share. -/
def shared (first second : Text) : Nat := sharedWithin first.length first second

/-- How like a text is to another, as a fraction. -/
def likeness (first second : Text) : Nat × Nat :=
  (2 * shared first second, first.length + second.length)

/-- Whether two texts are alike. -/
def areAlike (first second : Text) : Bool :=
  let (shared, all) := likeness first second
  decide (3 * all ≤ 5 * shared)

/-- The most texts that are suggested in place of another. -/
def suggestionLimit : Nat := 3

/-- The texts that are most like a given one and alike to it, in order. Of texts that are equally
    like it the later ones come first. -/
def alikeTo (given : Text) (choices : List Text) : List Text :=
  let comesFirst (left right : Text) : Bool :=
    let (a, b) := likeness left given
    let (c, d) := likeness right given
    decide (c * b < a * d) || (decide (a * d = c * b) && precedes right left)
  let best := ((choices.filter fun choice => areAlike choice given).mergeSort comesFirst).take
    suggestionLimit
  best.mergeSort precedes

end TagAudit.Text
