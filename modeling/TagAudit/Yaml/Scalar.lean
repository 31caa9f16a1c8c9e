import TagAudit.Yaml.Moment
import TagAudit.Yaml.Number

/-!
# What scalars mean

Every node has a type, which a tag names. A plain scalar without a tag has the type that its form
suggests: a few words are truth values or null, and several notations of numbers are numbers,
bases two, eight, sixteen and sixty among them. Anything else is a text.

A tag may force a type on a scalar whose form does not fit it; then there is no such value.
-/

namespace TagAudit.Yaml

/-- The type of a node. -/
inductive Kind where
  | null | bool | integer | real | binary | timestamp | text
  | sequence | mapping | set | pairs
  /-- The key of a mapping that is merged into the one around it. -/
  | merge
  /-- The key of the value that a mapping stands for. -/
  | defaultKey
  | unknown
deriving DecidableEq

/-- The beginning of the tags of known types. -/
def knownTags : Text := "tag:yaml.org,2002:"

/-- The type that a tag names. -/
def Kind.ofTag (tag : Text) : Kind :=
  let named : List (Text × Kind) :=
    [("null", .null), ("bool", .bool), ("int", .integer), ("float", .real), ("binary", .binary),
      ("timestamp", .timestamp), ("str", .text), ("seq", .sequence), ("map", .mapping),
      ("set", .set), ("omap", .pairs), ("pairs", .pairs), ("merge", .merge), ("value", .defaultKey)]
  match Text.after? knownTags tag with
  | none => .unknown
  | some name => ((named.find? fun entry => entry.1 == name).map Prod.snd).getD .unknown

namespace Scalar

/-- The words for truth values in small letters. -/
def boolWords : List (Text × Bool) :=
  [("yes", true), ("no", false), ("true", true), ("false", false), ("on", true), ("off", false)]

/-- The truth value that a word means, in letters of any case. -/
def bool? (t : Text) : Option Bool :=
  (boolWords.find? fun entry => entry.1 == t.toLower).map Prod.snd

/-- A text in small letters, in capital letters, and with one capital letter in front. -/
def spellings (word : Text) : List Text :=
  let capital (c : CodePoint) : CodePoint :=
    if bounded : 0x61 ≤ c.val ∧ c.val ≤ 0x7A then ⟨c.val - 0x20, by omega⟩ else c
  [word, word.map capital, (word.take 1).map capital ++ word.drop 1]

/-- Whether a plain scalar is a truth value. -/
def isBoolForm (t : Text) : Bool := boolWords.any fun entry => (spellings entry.1).contains t

/-- Whether a plain scalar is null. -/
def isNullForm (t : Text) : Bool :=
  t.isEmpty || t == Text.ofString "~" || (spellings "null").contains t

/-- A digit or a low line, which may stand between digits. -/
def isDigitOrLine (c : CodePoint) : Bool := c.isDigit || c = '_'

/-- Whether a text is one or two digits that count units below sixty. -/
def isSixtieth : Text → Bool
  | [c] => c.isDigit
  | [c, d] => decide (0x30 ≤ c.val) && decide (c.val ≤ 0x35) && d.isDigit
  | _ => false

/-- Whether a text is the whole part of a number in decimal. -/
def isWholePart : Text → Bool
  | [] => false
  | c :: rest => c.isDigit && rest.all isDigitOrLine

/-- Whether a plain scalar is an integer. -/
def isIntForm (t : Text) : Bool :=
  match Number.unsigned t with
  | [] => false
  | first :: rest =>
    if first = '0' then
      match rest with
      | [] => true
      | second :: digits =>
        if second = 'b' then
          !digits.isEmpty && digits.all fun c : CodePoint => c = '0' || c = '1' || c = '_'
        else if second = 'x' then
          !digits.isEmpty && digits.all fun c => (c.digitValue? 16).isSome || c = '_'
        else rest.all fun c => (c.digitValue? 8).isSome || c = '_'
    else
      match Text.parts ':' (first :: rest) with
      | [] => false
      | whole :: sixtieths => isWholePart whole && sixtieths.all isSixtieth

/-- Whether a text is an exponent, sign included, or nothing. -/
def isExponent : Text → Bool
  | [] => true
  | [_] | [_, _] => false
  | mark :: sign :: digits =>
    (mark = 'e' || mark = 'E') && (sign = '+' || sign = '-') && digits.all CodePoint.isDigit

/-- Whether a plain scalar is a number with a point. -/
def isRealForm (t : Text) : Bool :=
  let body := Number.unsigned t
  let whole := body.takeWhile fun c : CodePoint => c ≠ '.'
  match body.drop whole.length with
  | [] => false
  | _ :: fraction =>
    let digits := fraction.takeWhile isDigitOrLine
    let rest := fraction.drop digits.length
    match Text.parts ':' whole with
    | [] => false
    | [_] =>
      if whole.isEmpty then
        (body == t && isWholePart digits && isExponent rest)
          || (spellings "inf").contains fraction
          || (body == t
            && [Text.ofString "nan", Text.ofString "NaN", Text.ofString "NAN"].contains fraction)
      else isWholePart whole && isExponent rest
    | first :: sixtieths => isWholePart first && sixtieths.all isSixtieth && rest.isEmpty

/-- A text without the end of a line at its end, which is no part of the form of what stands before
    it. -/
def form (t : Text) : Text :=
  match t.reverse with
  | last :: before :: rest => if last = '\n' then (before :: rest).reverse else t
  | _ => t

/-- The type that a form suggests. -/
def kindOfForm (t : Text) : Kind :=
  if isBoolForm t then .bool
  else if isRealForm t then .real
  else if isIntForm t then .integer
  else if t == Text.ofString "<<" then .merge
  else if isNullForm t then .null
  else if Moment.isForm t then .timestamp
  else if t == Text.ofString "=" then .defaultKey
  else if [Text.ofString "!", Text.ofString "&", Text.ofString "*"].contains t then .unknown
  else .text

/-- The type of a plain scalar without a tag. -/
def kindOfPlain (t : Text) : Kind := kindOfForm (form t)

/-- The value of a letter in base 64. -/
def sextet? (c : CodePoint) : Option Nat :=
  if 0x41 ≤ c.val ∧ c.val ≤ 0x5A then some (c.val - 0x41)
  else if 0x61 ≤ c.val ∧ c.val ≤ 0x7A then some (c.val - 0x47)
  else if c.isDigit then some (c.val + 4)
  else if c = '+' then some 62
  else if c = '/' then some 63
  else none

/-- The bytes that a text in base 64 spells, given the letters of the present group of four and the
    number of signs that fill it up. Other code points than letters and those signs are passed
    over, and a group that is filled up ends the text. -/
def bytes? : (group : List Nat) → (filled : Nat) → Text → Option (List UInt8)
  | group, _, [] => if group.isEmpty then some [] else none
  | group, filled, c :: rest =>
    if c = '=' then
      if 2 ≤ group.length ∧ 4 ≤ group.length + filled + 1 then some []
      else bytes? group (if 2 ≤ group.length then filled + 1 else filled) rest
    else
      match sextet? c, group with
      | none, _ => bytes? group filled rest
      | some v, [] => bytes? [v] 0 rest
      | some v, [a] => (bytes? [a, v] 0 rest).map (UInt8.ofNat (a * 4 + v / 16) :: ·)
      | some v, [a, b] => (bytes? [a, b, v] 0 rest).map (UInt8.ofNat (b * 16 + v / 4) :: ·)
      | some v, _ :: _ :: d :: _ => (bytes? [] 0 rest).map (UInt8.ofNat (d * 64 + v) :: ·)

/-- The moment that a text spells. -/
def moment (t : Text) : Except Problem Moment :=
  match Moment.read? (form t) with
  | none => .error .noMoment
  | some (moment, _) => if moment.isReal then .ok moment else .error .noValue

/-- The value of a scalar of a type. -/
def toData (t : Text) : Kind → Except Problem Data
  | .null => .ok .null
  | .bool =>
    match bool? t with
    | some b => .ok (.bool b)
    | none => .error .noWord
  | .integer => (Number.integer t).map .int
  | .real => (Number.real t).map .real
  | .timestamp => (moment t).map Moment.toData
  | .binary =>
    match if t.all fun c => c.val < 0x80 then bytes? [] 0 t else none with
    | some bytes => .ok (.bytes bytes)
    | none => .error .malformed
  | .text => .ok (.text t)
  | _ => .error .malformed

end Scalar

end TagAudit.Yaml
