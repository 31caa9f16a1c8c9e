import TagAudit.Binary64.Spelling
import TagAudit.Text.Case
import TagAudit.Yaml.Cursor

/-!
# The numbers that scalars spell

Low lines anywhere in a number count for nothing. A sign may stand in front. After it an integer may
be in base two, sixteen or eight, which it announces, or in base sixty, with colons between its
parts. A number that is no integer may be in base sixty as well.

A scalar that only claims to be a number may be none, or have nothing after the sign.
-/

namespace TagAudit.Yaml

namespace Number

/-- The text without low lines. -/
def withoutLines (t : Text) : Text := t.filter fun c : CodePoint => c ≠ '_'

/-- The text without the sign in front of it. -/
def unsigned (t : Text) : Text :=
  match t with
  | [] => []
  | c :: rest => if c = '-' || c = '+' then rest else t

/-- Whether a text has a minus sign in front. -/
def isNegative (t : Text) : Bool := t.startsWith "-"

/-- The integer that a text without a sign in front spells. -/
def unsigned? (t : Text) : Option Int :=
  match Text.after? "0b" t, Text.after? "0x" t with
  | some digits, _ => Text.integer? 2 digits
  | none, some digits => Text.integer? 16 digits
  | none, none =>
    if t.startsWith "0" then Text.integer? 8 t
    else ((Text.parts ':' t).mapM (Text.integer? 10)).map fun parts =>
      parts.foldl (fun n part => n * 60 + part) 0

/-- The integer that a scalar spells. -/
def integer (t : Text) : Except Problem Int :=
  let t := withoutLines t
  let body := unsigned t
  if body.isEmpty then .error .nothingSpelled
  else match unsigned? body with
    | none => .error .noValue
    | some n => .ok (if isNegative t then -n else n)

/-- The number that parts in base sixty spell, the least one first, given the weight of that one. -/
def sixtieths (weight : Nat) (total : Binary64) : List Binary64 → Binary64
  | [] => total
  | part :: rest => sixtieths (weight * 60) (total.add (part.mul (.ofInt weight))) rest

/-- The most parts that a number in base sixty may have; with more of them the weight of the first
    is beyond all numbers. -/
def partLimit : Nat := 174

/-- The number that a text without a sign in front spells, in small letters. -/
def unsignedReal (t : Text) : Except Problem Binary64 :=
  if t == Text.ofString ".inf" then .ok (.infinity false)
  else if t == Text.ofString ".nan" then .ok .nan
  else match (Text.parts ':' t).mapM Binary64.ofText? with
    | none => .error .noValue
    | some [x] => .ok x
    | some parts =>
      if partLimit < parts.length then .error .tooLarge
      else .ok (sixtieths 1 (.zero false) parts.reverse)

/-- The number that a scalar spells. -/
def real (t : Text) : Except Problem Binary64 :=
  let t := (withoutLines t).lowered
  if t.isEmpty then .error .nothingSpelled
  else (unsignedReal (unsigned t)).map (Binary64.withSign (isNegative t))

end Number

end TagAudit.Yaml
