/-!
# Binary floating point numbers

Class files hold binary64 numbers, settings and clock readings are binary64, and all of them are
printed. A number is kept as its 64 bits, and everything that is asked about it is answered by
exact arithmetic on the fraction those bits denote, so rounding happens in one place: `ofRatio`.
-/

namespace TagAudit

/-- A binary64 number as its bits. -/
structure Binary64 where
  bits : UInt64
deriving DecidableEq, Inhabited

namespace Binary64

/-- What the bits denote. A finite number is `significand * 2 ^ exponent`, with a sign that also
    tells the two zeros apart. -/
inductive Shape where
  | notANumber
  | infinite (negative : Bool)
  | finite (negative : Bool) (significand : Nat) (exponent : Int)
deriving DecidableEq

/-- The number that the bits denote. -/
def shape (x : Binary64) : Shape :=
  let n := x.bits.toNat
  let negative := n / Nat.pow 2 63 = 1
  let exponent : Nat := n / Nat.pow 2 52 % 2048
  let fraction := n % Nat.pow 2 52
  if exponent = 2047 then
    if fraction = 0 then .infinite negative else .notANumber
  else if exponent = 0 then .finite negative fraction (-1074)
  else .finite negative (Nat.pow 2 52 + fraction) ((exponent : Int) - 1075)

/-- The bits of a sign and a magnitude below `2 ^ 63`. -/
def ofMagnitude (negative : Bool) (magnitude : Nat) : Binary64 :=
  ⟨UInt64.ofNat ((if negative then Nat.pow 2 63 else 0) + magnitude)⟩

/-- Infinity with a sign. -/
def infinity (negative : Bool) : Binary64 := ofMagnitude negative (2047 * Nat.pow 2 52)

/-- The value that is not a number. -/
def nan : Binary64 := ofMagnitude false (2047 * Nat.pow 2 52 + Nat.pow 2 51)

/-- Zero with a sign. -/
def zero (negative : Bool) : Binary64 := ofMagnitude negative 0

/-- Rounds a quotient to the nearest natural number, a half to the even neighbour. -/
def roundQuotient (num den : Nat) : Nat :=
  let floor := num / den
  let twice := 2 * (num % den)
  if twice < den then floor
  else if den < twice then floor + 1
  else if floor % 2 = 0 then floor else floor + 1

/-- Divides a fraction by a power of two. -/
def scaled (num den : Nat) (exponent : Int) : Nat × Nat :=
  match exponent with
  | .ofNat e => (num, den * Nat.pow 2 e)
  | .negSucc e => (num * Nat.pow 2 (e + 1), den)

/-- The exponent at which a positive quotient has 53 digits in base two, no lower than the
    least one. -/
def exponentFor (num den : Nat) : Int :=
  let estimate : Int := (num.log2 : Int) - (den.log2 : Int) - 53
  let (top, bottom) := scaled num den estimate
  let exponent := if top / bottom < Nat.pow 2 53 then estimate else estimate + 1
  max exponent (-1074)

/-- The number nearest to a quotient, a half going to the even neighbour. Quotients beyond the
    largest finite number become infinite. -/
def ofRatio (negative : Bool) (num den : Nat) : Binary64 :=
  if num = 0 then zero negative
  else
    let exponent := exponentFor num den
    let (top, bottom) := scaled num den exponent
    let rounded := roundQuotient top bottom
    let (significand, exponent) :=
      if rounded = Nat.pow 2 53 then (Nat.pow 2 52, exponent + 1) else (rounded, exponent)
    if 971 < exponent then infinity negative
    else if significand < Nat.pow 2 52 then ofMagnitude negative significand
    else
      ofMagnitude negative
        ((exponent + 1075).toNat * Nat.pow 2 52 + (significand - Nat.pow 2 52))

/-- The number nearest to `mantissa * 10 ^ exponent`. -/
def ofDecimal (negative : Bool) (mantissa : Nat) (exponent : Int) : Binary64 :=
  if mantissa = 0 then zero negative
  else match exponent with
  | .ofNat e => if 400 < e then infinity negative else ofRatio negative (mantissa * Nat.pow 10 e) 1
  | .negSucc e =>
    if mantissa.log2 + 400 < e then zero negative
    else ofRatio negative mantissa (Nat.pow 10 (e + 1))

/-- The number nearest to an integer. -/
def ofInt (n : Int) : Binary64 := ofRatio (n < 0) n.natAbs 1

/-- The absolute value as a fraction. -/
def asFraction (significand : Nat) : Int → Nat × Nat
  | .ofNat e => (significand * Nat.pow 2 e, 1)
  | .negSucc e => (significand, Nat.pow 2 (e + 1))

/-- Whether the number is finite and whole, and then which integer it is. -/
def toInt? (x : Binary64) : Option Int :=
  match x.shape with
  | .finite negative significand exponent =>
    let (num, den) := asFraction significand exponent
    if num % den = 0 then
      some (if negative then -((num / den : Nat) : Int) else ((num / den : Nat) : Int))
    else none
  | _ => none

/-- The difference of two numbers, rounded once. -/
def sub (x y : Binary64) : Binary64 :=
  match x.shape, y.shape with
  | .notANumber, _ | _, .notANumber => nan
  | .infinite s, .infinite t => if s = t then nan else infinity s
  | .infinite s, _ => infinity s
  | _, .infinite t => infinity !t
  | .finite s m e, .finite t n f =>
    let (a, b) := asFraction m e
    let (c, d) := asFraction n f
    let left : Int := (if s then -1 else 1) * ((a * d : Nat) : Int)
    let right : Int := (if t then -1 else 1) * ((c * b : Nat) : Int)
    let difference := left - right
    if difference = 0 then zero (s && !t && a == 0)
    else ofRatio (difference < 0) difference.natAbs (b * d)

/-- The number with the other sign. -/
def neg (x : Binary64) : Binary64 := ⟨x.bits ^^^ 0x8000000000000000⟩

/-- The sum of two numbers, rounded once. -/
def add (x y : Binary64) : Binary64 := x.sub y.neg

/-- The product of two numbers, rounded once. -/
def mul (x y : Binary64) : Binary64 :=
  match x.shape, y.shape with
  | .notANumber, _ | _, .notANumber => nan
  | .infinite s, .infinite t => infinity (s != t)
  | .infinite s, .finite t n _ | .finite t n _, .infinite s =>
    if n = 0 then nan else infinity (s != t)
  | .finite s m e, .finite t n f =>
    let (a, b) := asFraction m e
    let (c, d) := asFraction n f
    ofRatio (s != t) (a * c) (b * d)

/-- Rounds to a number of decimal places by the exact value, a half going to the even digit. -/
def roundPlaces (places : Nat) (x : Binary64) : Binary64 :=
  match x.shape with
  | .finite negative significand exponent =>
    let (num, den) := asFraction significand exponent
    ofRatio negative (roundQuotient (num * Nat.pow 10 places) den) (Nat.pow 10 places)
  | _ => x

/-- Widens the bits of a binary32 number; every one of them is also a binary64 number. -/
def ofBinary32 (bits : Nat) : Binary64 :=
  let negative := bits / Nat.pow 2 31 % 2 = 1
  let exponent : Nat := bits / Nat.pow 2 23 % 256
  let fraction := bits % Nat.pow 2 23
  if exponent = 255 then
    if fraction = 0 then infinity negative else nan
  else if exponent = 0 then ofRatio negative fraction (Nat.pow 2 149)
  else
    let (num, den) := scaled (Nat.pow 2 23 + fraction) 1 (150 - (exponent : Int))
    ofRatio negative num den

end Binary64

end TagAudit
