import TagAudit.Text
import TagAudit.Binary64

/-!
# The shortest decimal that reads back

Each finite number rounds from an interval of decimals around it, ends included when its
significand is even. Of the decimal grids with one, two, three digits and so on, the first that
has a point in the interval gives the digits: the nearer of the number's two neighbours on that
grid, the even one when they are equally near. Seventeen digits always suffice.

The written form is positional while the first digit stands between the fourth place after the
point and the sixteenth before it, and then always shows a point; otherwise it has an exponent of
at least two digits.
-/

namespace TagAudit.Binary64

/-- The power of ten that a positive quotient reaches. -/
def decimalExponent (num den : Nat) : Int :=
  if den ≤ num then ((Text.digits 10 (num / den)).length : Int) - 1
  else
    let length := (Text.digits 10 (den / num)).length
    if num * Nat.pow 10 (length - 1) = den then 1 - (length : Int) else -(length : Int)

/-- The interval of decimals that round to a number, in quarters of the last binary place. -/
structure RoundingInterval where
  low : Nat
  value : Nat
  high : Nat
  closed : Bool
  /-- The exponent of two of a quarter. -/
  exponent : Int

/-- The rounding interval of a positive number. It is narrower below a power of two, where the
    binary places below are half as wide. -/
def RoundingInterval.of (significand : Nat) (exponent : Int) : RoundingInterval :=
  { low := 4 * significand - (if significand = Nat.pow 2 52 ∧ -1074 < exponent then 1 else 2)
    value := 4 * significand
    high := 4 * significand + 2
    closed := significand % 2 == 0
    exponent := exponent - 2 }

/-- Two to an integer power as a fraction. -/
def powerOfTwo : Int → Nat × Nat
  | .ofNat e => (Nat.pow 2 e, 1)
  | .negSucc e => (1, Nat.pow 2 (e + 1))

/-- Ten to an integer power as a fraction. -/
def powerOfTen : Int → Nat × Nat
  | .ofNat e => (Nat.pow 10 e, 1)
  | .negSucc e => (1, Nat.pow 10 (e + 1))

/-- The point of a decimal grid that lies in an interval and is nearest to its number, if any. -/
def RoundingInterval.onGrid? (interval : RoundingInterval) (grid : Int) : Option Nat :=
  let (twoTop, twoBottom) := powerOfTwo interval.exponent
  let (tenTop, tenBottom) := powerOfTen grid
  let quarter := twoTop * tenBottom
  let step := tenTop * twoBottom
  let inside := fun point : Nat =>
    let place := point * step
    if interval.closed then
      decide (interval.low * quarter ≤ place ∧ place ≤ interval.high * quarter)
    else decide (interval.low * quarter < place ∧ place < interval.high * quarter)
  let below := interval.value * quarter / step
  let above := below + 1
  match inside below, inside above with
  | true, false => some below
  | false, true => some above
  | false, false => none
  | true, true =>
    let down := interval.value * quarter - below * step
    let up := above * step - interval.value * quarter
    if down < up then some below
    else if up < down then some above
    else if below % 2 = 0 then some below else some above

/-- The first grid with a point in the interval, from a number of digits on, and that point. -/
def RoundingInterval.search (interval : RoundingInterval) (top : Int) :
    (left : Nat) → (digits : Nat) → Nat × Int
  | 0, digits => (interval.value, top - digits + 1)
  | left + 1, digits =>
    let grid := top - digits + 1
    match interval.onGrid? grid with
    | some point => (point, grid)
    | none => search interval top left (digits + 1)

/-- The shortest decimal `point * 10 ^ grid` that reads back as a positive number. -/
def shortest (significand : Nat) (exponent : Int) : Nat × Int :=
  let (num, den) := asFraction significand exponent
  (RoundingInterval.of significand exponent).search (decimalExponent num den) 17 1

/-- How numbers that are not finite are written. -/
structure Words where
  notANumber : Text
  infinite : Text

/-- The decimal `point * 10 ^ grid` with its digits in place, or with an exponent. -/
def placed (point : Nat) (grid : Int) : Text :=
  let digits := (Text.digits 10 point).reverse.dropWhile (· == 0) |>.reverse
  let dropped := (Text.digits 10 point).length - digits.length
  let written : Text := digits.map CodePoint.ofDigit
  let grid := grid + (dropped : Int)
  let first : Int := grid + (written.length : Int) - 1
  if -4 ≤ first ∧ first < 16 then
    if 0 ≤ grid then written ++ List.replicate grid.toNat ('0' : CodePoint) ++ ".0"
    else if 0 ≤ first then
      written.take (first.toNat + 1) ++ "." ++ written.drop (first.toNat + 1)
    else "0." ++ List.replicate (-first - 1).toNat ('0' : CodePoint) ++ written
  else
    let mantissa : Text :=
      if written.length = 1 then written else written.take 1 ++ "." ++ written.drop 1
    mantissa ++ (if first < 0 then "e-" else "e+" : Text) ++ Text.padded 10 2 first.natAbs

/-- A number in its shortest written form. -/
def written (words : Words) (x : Binary64) : Text :=
  match x.shape with
  | .notANumber => words.notANumber
  | .infinite negative => Text.minusIf negative words.infinite
  | .finite negative 0 _ => Text.minusIf negative "0.0"
  | .finite negative significand exponent =>
    let (point, grid) := shortest significand exponent
    Text.minusIf negative (placed point grid)

end TagAudit.Binary64
