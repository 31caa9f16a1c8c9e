import TagAudit.Data
import TagAudit.Text.Integer

/-!
# Reading JSON text

A JSON text is one value with blanks around it. Beyond the standard, three words name the numbers
that are not finite, and strings may hold surrogate halves that stand alone. Where a key occurs
twice in an object, the last value stays.

A reader takes what it reads from the front of a text and returns the rest, or nothing if the text
does not begin with what it reads.
-/

namespace TagAudit.Data.Json

/-- The blanks of JSON. -/
def isBlank (c : CodePoint) : Bool := c = ' ' || c = '\t' || c = '\n' || c = '\r'

/-- What follows blanks. -/
def passBlanks (t : Text) : Text := t.dropWhile isBlank

/-- What follows a sign. -/
def after? (sign : CodePoint) : Text → Option Text
  | [] => none
  | c :: rest => if c = sign then some rest else none

/-- The letters that escape one code point after a backslash. -/
def letterEscapes : List (Char × Nat) :=
  [('"', 0x22), ('\\', 0x5C), ('/', 0x2F), ('b', 0x08), ('f', 0x0C), ('n', 0x0A), ('r', 0x0D),
    ('t', 0x09)]

/-- The number of four hexadecimal digits. -/
def fourDigits? (t : Text) : Option (Nat × Text) := do
  let digits ← (t.take 4).mapM (CodePoint.digitValue? 16)
  if digits.length < 4 then none else return (digits.foldl (fun n d => n * 16 + d) 0, t.drop 4)

/-- An escape after its backslash. Two of them that spell the halves of a surrogate pair are one
    code point. -/
def escape? : Text → Option (CodePoint × Text)
  | [] => none
  | letter :: rest =>
    if letter = 'u' then do
      let (first, afterFirst) ← fourDigits? rest
      let single := (CodePoint.ofNat first, afterFirst)
      if 0xD800 ≤ first ∧ first < 0xDC00 then
        match Text.after? "\\u" afterFirst with
        | none => return single
        | some more =>
          let (second, afterSecond) ← fourDigits? more
          if 0xDC00 ≤ second ∧ second < 0xE000 then
            let n := 0x10000 + (first - 0xD800) * 0x400 + (second - 0xDC00)
            return (CodePoint.ofNat n, afterSecond)
          else return single
      else return single
    else
      (letterEscapes.find? fun entry => CodePoint.ofChar entry.1 == letter).map fun entry =>
        (CodePoint.ofNat entry.2, rest)

/-- A string after its first quote, with the code points so far in reverse and at most a number of
    them still to come. -/
def string? : Nat → Text → (reversed : Text) → Option (Text × Text)
  | 0, _, _ => none
  | _ + 1, [], _ => none
  | bound + 1, c :: rest, reversed =>
    if c = '"' then some (reversed.reverse, rest)
    else if c = '\\' then do
      let (escaped, rest) ← escape? rest
      string? bound rest (escaped :: reversed)
    else if c.val < 0x20 then none
    else string? bound rest (c :: reversed)

/-- The value of decimal digits. -/
def decimal (digits : Text) : Nat := digits.foldl (fun n d => n * 10 + (d.val - 0x30)) 0

/-- An exponent, which has digits; nothing is taken where there is none. -/
def exponent (t : Text) : Option Int × Text :=
  match t with
  | [] => (none, t)
  | mark :: rest =>
    if mark = 'e' || mark = 'E' then
      let (negative, unsigned) : Bool × Text := match rest with
        | sign :: digits =>
          if sign = '-' then (true, digits) else if sign = '+' then (false, digits)
          else (false, rest)
        | [] => (false, rest)
      let digits := unsigned.takeWhile CodePoint.isDigit
      if digits.isEmpty then (none, t)
      else
        let n : Int := decimal digits
        (some (if negative then -n else n), unsigned.drop digits.length)
    else (none, t)

/-- The digits of a fraction; nothing is taken where there are none. -/
def fraction (t : Text) : Text × Text :=
  match after? '.' t with
  | none => ([], t)
  | some rest =>
    let digits := rest.takeWhile CodePoint.isDigit
    if digits.isEmpty then ([], t) else (digits, rest.drop digits.length)

/-- A number after its sign. -/
def number? (negative : Bool) (t : Text) : Option (Data × Text) :=
  let whole := match t with
    | first :: _ => if first = '0' then [first] else t.takeWhile CodePoint.isDigit
    | [] => []
  if whole.isEmpty then none
  else
    let (places, rest) := fraction (t.drop whole.length)
    match places, exponent rest with
    | [], (none, rest) =>
      let n : Int := decimal whole
      if Text.digitLimit < whole.length then none
      else some (.int (if negative then -n else n), rest)
    | _, (exponent?, rest) =>
      let mantissa := decimal (whole ++ places)
      let exponent := exponent?.getD 0 - (places.length : Int)
      some (.real (.ofDecimal negative mantissa exponent), rest)

/-- The words that are values. -/
def words : List (Text × Data) :=
  [("null", .null), ("true", .bool true), ("false", .bool false), ("NaN", .real .nan),
    ("Infinity", .real (.infinity false)), ("-Infinity", .real (.infinity true))]

/-- A word that is a value. -/
def word? (t : Text) : Option (Data × Text) :=
  words.findSome? fun (word, value) => (Text.after? word t).map fun rest => (value, rest)

mutual
/-- A value. The number bounds how much further reading goes; each step but a few takes
    something. -/
def value? : Nat → Text → Option (Data × Text)
  | 0, _ => none
  | bound + 1, t =>
    match t with
    | [] => none
    | c :: rest =>
      if c = '"' then (string? (rest.length + 1) rest []).map fun (s, rest) => (.text s, rest)
      else if c = '[' then
        match after? ']' (passBlanks rest) with
        | some rest => some (.list [], rest)
        | none => (items? bound (passBlanks rest)).map fun (items, rest) => (.list items, rest)
      else if c = '{' then
        match after? '}' (passBlanks rest) with
        | some rest => some (.table [], rest)
        | none => (entries? bound (passBlanks rest)).map fun (entries, rest) =>
            (.table (Keyed.ofPairs entries), rest)
      else
        match word? t with
        | some found => some found
        | none => if c = '-' then number? true rest else number? false t

/-- The items of an array from the next one to the closing bracket. -/
def items? : Nat → Text → Option (List Data × Text)
  | 0, _ => none
  | bound + 1, t => do
    let (item, rest) ← value? bound t
    let rest := passBlanks rest
    match after? ',' rest with
    | some rest =>
      let (others, rest) ← items? bound (passBlanks rest)
      return (item :: others, rest)
    | none => return ([item], ← after? ']' rest)

/-- The entries of an object from the next one to the closing brace. -/
def entries? : Nat → Text → Option (List (Key × Data) × Text)
  | 0, _ => none
  | bound + 1, t => do
    let afterQuote ← after? '"' t
    let (name, rest) ← string? (afterQuote.length + 1) afterQuote []
    let (value, rest) ← value? bound (passBlanks (← after? ':' (passBlanks rest)))
    let rest := passBlanks rest
    match after? ',' rest with
    | some rest =>
      let (others, rest) ← entries? bound (passBlanks rest)
      return ((Key.text name, value) :: others, rest)
    | none => return ([(Key.text name, value)], ← after? '}' rest)
end

/-- The value that a JSON text spells. -/
def read? (t : Text) : Option Data := do
  let (value, rest) ← value? (2 * t.length + 2) (passBlanks t)
  if (passBlanks rest).isEmpty then return value else none

end TagAudit.Data.Json
