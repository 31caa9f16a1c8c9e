import TagAudit.Binary64
import TagAudit.Text.Integer

/-!
# Numbers in text

A number is spelled in decimal, with a point and an exponent that may both be missing, or by one of
the words for infinity and for what is no number. A sign may stand in front and blanks around it,
and letters count in either case. The number is the one nearest to what is spelled.
-/

namespace TagAudit.Binary64

/-- The digits of a fraction, if one comes next, and what follows. -/
def fractionDigits (t : Text) : Text × Text :=
  match t with
  | c :: rest =>
    if c = '.' then
      let digits := rest.takeWhile CodePoint.isDigit
      (digits, rest.drop digits.length)
    else ([], t)
  | [] => ([], [])

/-- The exponent that a text is, in small letters; nothing spells zero. -/
def exponent? : Text → Option Int
  | [] => some 0
  | mark :: rest => if mark = 'e' then Text.signed? (Text.natural? 10) rest else none

/-- The number that a text without a sign spells in decimal. -/
def ofDecimal? (t : Text) : Option Binary64 :=
  let whole := t.takeWhile CodePoint.isDigit
  let (fraction, rest) := fractionDigits (t.drop whole.length)
  (Text.natural? 10 (whole ++ fraction)).bind fun mantissa =>
    (exponent? rest).map fun exponent =>
      .ofDecimal false mantissa (exponent - (fraction.length : Int))

/-- The words that spell numbers. -/
def spelledWords : List (Text × Binary64) :=
  [("inf", .infinity false), ("infinity", .infinity false), ("nan", .nan)]

/-- The number that a text without a sign spells, in small letters. -/
def ofUnsigned? (t : Text) : Option Binary64 :=
  match spelledWords.find? fun entry => entry.1 == t with
  | some (_, x) => some x
  | none => ofDecimal? t

/-- The number with a sign, which what is no number does not have. -/
def withSign (negative : Bool) (x : Binary64) : Binary64 :=
  match x.shape with
  | .notANumber => x
  | _ => if negative then x.neg else x

/-- The number that a text spells. -/
def ofText? (t : Text) : Option Binary64 :=
  match (Text.withPlainDigits (t.trimmed CodePoint.isBlank)).map CodePoint.toLower with
  | [] => none
  | c :: rest =>
    if c = '-' || c = '+' then (ofUnsigned? rest).map (withSign (c = '-'))
    else ofUnsigned? (c :: rest)

end TagAudit.Binary64
