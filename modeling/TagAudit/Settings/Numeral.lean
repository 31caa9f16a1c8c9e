import TagAudit.Text.Integer

/-!
# Numerals in settings

An integer in settings may be spelled as a text: blanks around it, a sign, digits of ASCII with
single low lines between them, and a fraction of zeros. Zeros in front count for nothing, and among
them any number of low lines may stand. A minus sign may also stand after zeros, and then what is
before it counts for nothing. There is an upper limit to the number of digits.
-/

namespace TagAudit.Numeral

/-- What is left of a numeral without zeros and low lines in front, given the last of them. The
    last one stays if there is nothing else, or nothing but a fraction. -/
def afterZeros : (last : CodePoint) → Text → Option Text
  | last, [] => some [last]
  | last, c :: rest =>
    if c = '0' || c = '_' then afterZeros c rest
    else if c.isDigit || c = '-' then some (c :: rest)
    else if c = '.' then some (last :: c :: rest)
    else none

/-- A numeral without a sign from the first digit on that counts. -/
def withoutZeros : Text → Option Text
  | [] => none
  | c :: rest =>
    if c = '0' then afterZeros c rest
    else if c.isDigit || c = '-' then some (c :: rest)
    else none

/-- A numeral without its fraction, if that is one of zeros. -/
def withoutFraction (t : Text) : Text :=
  let whole := t.takeWhile fun c : CodePoint => c ≠ '.'
  match t.drop whole.length with
  | _ :: zero :: zeros => if (zero :: zeros).all fun c => c = '0' then whole else t
  | _ => t

/-- The integer that a minus sign, which may be missing, and digits spell. No zero stands in front
    of another digit. -/
def plain? (t : Text) : Option (Nat × Int) :=
  let unsigned := if t.startsWith "-" then t.drop 1 else t
  if Text.startsWith unsigned "0" && 1 < unsigned.length then none
  else (Text.unsigned? (CodePoint.digitValue? 10) unsigned).map fun n =>
    ((unsigned.filter CodePoint.isDigit).length, if t.startsWith "-" then -(n : Int) else n)

/-- What a numeral spells. -/
inductive Reading where
  | unreadable
  /-- There are more digits than a numeral may have. -/
  | tooLong
  | integer (n : Int)
deriving DecidableEq

/-- Reads a numeral. -/
def read (t : Text) : Reading :=
  let t := t.trimmed CodePoint.isBlank
  let isNegative := t.startsWith "-"
  let unsigned := if isNegative || t.startsWith "+" then t.drop 1 else t
  if t.startsWith "+-" then .unreadable
  else
    match ((withoutZeros unsigned).map withoutFraction).bind fun rest =>
        plain? (if isNegative then '-' :: rest else rest) with
    | none => .unreadable
    | some (digits, n) => if Text.digitLimit < digits then .tooLong else .integer n

end TagAudit.Numeral
