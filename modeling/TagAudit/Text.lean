/-!
# Text as code points

The names inside a class file, and the paths and messages built from them, may hold surrogate
halves that stand alone. A `Text` is therefore a list of arbitrary code points, and the library's
own words enter it from string literals.

Texts are ordered by code point, from the first difference on. Every operation here is a list
operation, so the list library's laws apply without a detour through a string type.
-/

namespace TagAudit

/-- A code point: a number below `0x110000`, surrogates included. -/
abbrev CodePoint := Fin 0x110000

/-- A sequence of code points, in reading order. -/
abbrev Text := List CodePoint

namespace CodePoint

/-- Every character is a code point; the converse fails on surrogates only. -/
def ofChar (c : Char) : CodePoint := ⟨c.toNat, by
  have valid := c.valid
  unfold UInt32.isValidChar Nat.isValidChar at valid
  simp only [Char.toNat]
  omega⟩

instance : Coe Char CodePoint := ⟨ofChar⟩

/-- The code point with a number; numbers count modulo the number of code points. -/
def ofNat (n : Nat) : CodePoint := ⟨n % 0x110000, Nat.mod_lt n (Nat.zero_lt_succ _)⟩

/-- Whether a code point has a smaller number than another. -/
def before (left right : CodePoint) : Bool := Nat.blt left.val right.val

/-- The first half of a surrogate pair. -/
def isHighSurrogate (c : CodePoint) : Bool := 0xD800 ≤ c.val && c.val < 0xDC00

/-- The second half of a surrogate pair. -/
def isLowSurrogate (c : CodePoint) : Bool := 0xDC00 ≤ c.val && c.val < 0xE000

/-- A surrogate, which stands for no character when it is alone. -/
def isSurrogate (c : CodePoint) : Bool := c.isHighSurrogate || c.isLowSurrogate

/-- Whether a code point is a surrogate that stands for a byte of a name. -/
def isByte (c : CodePoint) : Bool := 0xDC80 ≤ c.val && c.val < 0xDD00

/-- The decimal digits of ASCII, the only ones that numbers are written in here. -/
def isDigit (c : CodePoint) : Bool := 0x30 ≤ c.val && c.val ≤ 0x39

/-- A small or capital letter of ASCII. -/
def isLetter (c : CodePoint) : Bool :=
  (0x41 ≤ c.val && c.val ≤ 0x5A) || (0x61 ≤ c.val && c.val ≤ 0x7A)

/-- The value of a digit in a base up to sixteen; letters count in either case. -/
def digitValue? (base : Nat) (c : CodePoint) : Option Nat :=
  let value :=
    if c.isDigit then some (c.val - 0x30)
    else if 0x61 ≤ c.val ∧ c.val ≤ 0x66 then some (c.val - 0x57)
    else if 0x41 ≤ c.val ∧ c.val ≤ 0x46 then some (c.val - 0x37)
    else none
  value.filter (· < base)

/-- The code points with the property White_Space. -/
def isBlank (c : CodePoint) : Bool :=
  (0x09 ≤ c.val && c.val ≤ 0x0D) || (0x2000 ≤ c.val && c.val ≤ 0x200A)
    || [0x20, 0x85, 0xA0, 0x1680, 0x2028, 0x2029, 0x202F, 0x205F, 0x3000].contains c.val

/-- The code points that part words from each other: blanks, and the four separators among the
    control codes. -/
def separatesWords (c : CodePoint) : Bool := c.isBlank || (0x1C ≤ c.val && c.val ≤ 0x1F)

/-- Capital letters of ASCII become small ones, and nothing else changes. -/
def toLower (c : CodePoint) : CodePoint :=
  if bounded : 0x41 ≤ c.val ∧ c.val ≤ 0x5A then ⟨c.val + 0x20, by omega⟩ else c

/-- The digit with a value below sixteen, capital letters following nine. -/
def ofDigit (value : Nat) : CodePoint :=
  if small : value < 10 then ⟨0x30 + value, by omega⟩
  else ⟨0x37 + value % 16, by omega⟩

end CodePoint

namespace Text

/-- The library's own words, which hold no surrogate. -/
def ofString (s : String) : Text := s.toList.map CodePoint.ofChar

instance : Coe String Text := ⟨ofString⟩

/-- The digits of a number in a base, most significant first. The first argument bounds their
    number; a bound of at least the digit count, as `digits` gives, makes the answer exact. -/
def digitsUpTo (base : Nat) : Nat → Nat → List Nat
  | 0, _ => []
  | bound + 1, n => if n < base then [n] else digitsUpTo base bound (n / base) ++ [n % base]

/-- The digits of a number in a base of at least two, most significant first; zero has one. -/
def digits (base n : Nat) : List Nat := digitsUpTo base (n.log2 + 1) n

/-- A natural number in decimal. -/
def ofNat (n : Nat) : Text := (digits 10 n).map CodePoint.ofDigit

/-- An integer in decimal, with a minus sign when it is negative. -/
def ofInt : Int → Text
  | .ofNat n => ofNat n
  | .negSucc n => '-' :: ofNat (n + 1)

/-- A text with a minus sign in front, when there is to be one. -/
def minusIf (negative : Bool) (t : Text) : Text := if negative then '-' :: t else t

/-- A number in a base, with zeros in front up to a width. -/
def padded (base width n : Nat) : Text :=
  let written := (digits base n).map CodePoint.ofDigit
  List.replicate (width - written.length) ('0' : CodePoint) ++ written

/-- A number in hexadecimal with small letters and zeros in front up to a width. -/
def lowerHex (width n : Nat) : Text := (padded 16 width n).map CodePoint.toLower

/-- Whether a text begins with another. -/
def startsWith (t start : Text) : Bool := start.isPrefixOf t

/-- Whether a text ends with another. -/
def endsWith (t ending : Text) : Bool := ending.isSuffixOf t

/-- What follows a given beginning, when the text has it. -/
def after? (start : Text) : Text → Option Text
  | t => if start.isPrefixOf t then some (t.drop start.length) else none

/-- The texts one after another with a separator between neighbours. -/
def joined (separator : Text) (parts : List Text) : Text := separator.intercalate parts

/-- Every occurrence of one code point exchanged for another. -/
def exchange (old new : CodePoint) (t : Text) : Text := t.map fun c => if c = old then new else c

/-- The words of a text, which stand between separators of words. -/
def words (t : Text) : List Text :=
  (partsWhere t).filter fun word => !word.isEmpty
where
  /-- The parts between separators of words. -/
  partsWhere : Text → List Text
    | [] => [[]]
    | c :: rest =>
      match partsWhere rest with
      | [] => [[c]]
      | part :: parts => if c.separatesWords then [] :: part :: parts else (c :: part) :: parts

/-- The parts between the separators; a text without one is its own only part. -/
def parts (separator : CodePoint) : Text → List Text
  | [] => [[]]
  | c :: rest =>
    match parts separator rest with
    | [] => [[c]]
    | part :: parts => if c = separator then [] :: part :: parts else (c :: part) :: parts

/-- Capital letters of ASCII become small ones. -/
def toLower (t : Text) : Text := t.map CodePoint.toLower

/-- The text without the code points of a class at either end. -/
def trimmed (drop : CodePoint → Bool) (t : Text) : Text :=
  ((t.dropWhile drop).reverse.dropWhile drop).reverse

/-- The text as a string, unless a surrogate stands in it. -/
def toString? (t : Text) : Option String :=
  if t.any CodePoint.isSurrogate then none
  else some (String.ofList (t.map fun c => Char.ofNat c.val))

/-- The order of lists, given the order of their items: the first items that differ decide, and a
    beginning comes before the whole. Equal lists precede each other. -/
def listPrecedes {α : Type} [DecidableEq α] (before : α → α → Bool) : List α → List α → Bool
  | [], _ => true
  | _ :: _, [] => false
  | a :: rest, b :: others => if a = b then listPrecedes before rest others else before a b

/-- The order of texts, by code point. -/
def precedes (left right : Text) : Bool := listPrecedes CodePoint.before left right

end Text

end TagAudit
