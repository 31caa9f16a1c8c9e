import TagAudit.Data

/-!
# Dates and times

A date is written with four digits, two and two. A time of day may follow after a `T` or blanks,
with a fraction of the second and a distance from universal time, and then month and day may have
one digit. Not every date that can be written exists.
-/

namespace TagAudit.Yaml

/-- A time of day. -/
structure TimeOfDay where
  hour : Nat
  minute : Nat
  second : Nat
  microsecond : Nat
  /-- The distance from universal time in minutes, if it is given. -/
  offset : Option Int

/-- A date, or a point in time. -/
structure Moment where
  year : Nat
  month : Nat
  day : Nat
  time : Option TimeOfDay

namespace Moment

/-- A number of at least so many digits and at most so many, and what follows them. -/
def number? (least most : Nat) (t : Text) : Option (Nat × Text) :=
  let digits := (t.take most).takeWhile CodePoint.isDigit
  if digits.length < least then none
  else some (digits.foldl (fun n d => n * 10 + (d.val - 0x30)) 0, t.drop digits.length)

/-- What follows a sign. -/
def after? (sign : CodePoint) : Text → Option Text
  | [] => none
  | c :: rest => if c = sign then some rest else none

/-- What follows the sign between date and time. -/
def afterDate? (t : Text) : Option Text :=
  match t with
  | [] => none
  | c :: rest =>
    if c = 'T' || c = 't' then some rest
    else if c = ' ' || c = '\t' then some (rest.dropWhile fun c : CodePoint => c = ' ' || c = '\t')
    else none

/-- The distance from universal time at the end of a text, if the text is nothing else. -/
def offset? (t : Text) : Option (Option Int) :=
  match t.dropWhile fun c : CodePoint => c = ' ' || c = '\t' with
  | [] => if t.isEmpty then some none else none
  | c :: rest =>
    if c = 'Z' then if rest.isEmpty then some (some 0) else none
    else if c = '+' || c = '-' then do
      let (hours, rest) ← number? 1 2 rest
      let minutes ← if rest.isEmpty then some 0 else do
        let (minutes, rest) ← number? 2 2 (← after? ':' rest)
        if rest.isEmpty then some minutes else none
      let distance : Int := ((hours * 60 + minutes : Nat) : Int)
      return some (if c = '-' then -distance else distance)
    else none

/-- A fraction in millionths; further digits are dropped. -/
def microseconds (digits : Text) : Nat :=
  ((digits ++ List.replicate 6 ('0' : CodePoint)).take 6).foldl
    (fun n d => n * 10 + (d.val - 0x30)) 0

/-- A time of day and nothing else. -/
def timeOfDay? (t : Text) : Option TimeOfDay := do
  let (hour, rest) ← number? 1 2 t
  let (minute, rest) ← number? 2 2 (← after? ':' rest)
  let (second, rest) ← number? 2 2 (← after? ':' rest)
  match after? '.' rest with
  | none => return ⟨hour, minute, second, 0, ← offset? rest⟩
  | some fraction =>
    let digits := fraction.takeWhile CodePoint.isDigit
    return ⟨hour, minute, second, microseconds digits, ← offset? (fraction.drop digits.length)⟩

/-- The moment that a text spells, and whether month and day have two digits each. -/
def read? (t : Text) : Option (Moment × Bool) := do
  let (year, rest) ← number? 4 4 t
  let (month, afterMonth) ← number? 1 2 (← after? '-' rest)
  let (day, afterDay) ← number? 1 2 (← after? '-' afterMonth)
  let isWide := afterDay.length + 10 == t.length
  if afterDay.isEmpty then return (⟨year, month, day, none⟩, isWide)
  else return (⟨year, month, day, ← timeOfDay? (← afterDate? afterDay)⟩, isWide)

/-- Whether a text has the form of a moment. -/
def isForm (t : Text) : Bool :=
  match read? t with
  | some (moment, isWide) => moment.time.isSome || isWide
  | none => false

/-- Whether a year has a leap day. -/
def isLeap (year : Nat) : Bool := year % 4 == 0 && (year % 100 != 0 || year % 400 == 0)

/-- The number of days of a month. -/
def daysOf (year month : Nat) : Nat :=
  if month = 2 then if isLeap year then 29 else 28
  else if [4, 6, 9, 11].contains month then 30 else 31

/-- Whether a time of day exists; its distance from universal time is less than a day. -/
def isTime (t : TimeOfDay) : Bool :=
  decide (t.hour < 24) && decide (t.minute < 60) && decide (t.second < 60)
    && ((t.offset.map fun offset => decide (offset.natAbs < 1440)).getD true)

/-- Whether a moment exists. -/
def isReal (m : Moment) : Bool :=
  decide (1 ≤ m.year) && decide (1 ≤ m.month) && decide (m.month ≤ 12) && decide (1 ≤ m.day)
    && decide (m.day ≤ daysOf m.year m.month) && ((m.time.map isTime).getD true)

/-- The distance from universal time as it is written. -/
def offsetText (offset : Int) : Text :=
  (if offset < 0 then "-" else "+" : Text) ++ Text.padded 10 2 (offset.natAbs / 60) ++ ":"
    ++ Text.padded 10 2 (offset.natAbs % 60)

/-- A moment as it is written. -/
def plain (m : Moment) : Text :=
  let date := Text.padded 10 4 m.year ++ "-" ++ Text.padded 10 2 m.month ++ "-"
    ++ Text.padded 10 2 m.day
  match m.time with
  | none => date
  | some t =>
    date ++ " " ++ Text.padded 10 2 t.hour ++ ":" ++ Text.padded 10 2 t.minute ++ ":"
      ++ Text.padded 10 2 t.second
      ++ (if t.microsecond = 0 then [] else '.' :: Text.padded 10 6 t.microsecond : Text)
      ++ (t.offset.map offsetText).getD []

/-- The distance from universal time as the value that it is. -/
def offsetLiteral (offset : Int) : Text :=
  if offset = 0 then "datetime.timezone.utc"
  else
    let days : Int := if offset < 0 then -1 else 0
    let seconds := 60 * (offset - 1440 * days)
    let parts : List Text :=
      (if days = 0 then [] else ["days=" ++ Text.ofInt days])
        ++ (if seconds = 0 then [] else ["seconds=" ++ Text.ofInt seconds])
    "datetime.timezone(datetime.timedelta(" ++ Text.joined ", " parts ++ "))"

/-- A moment as the value that it is. -/
def literal (m : Moment) : Text :=
  let date : List Text := [m.year, m.month, m.day].map Text.ofNat
  match m.time with
  | none => "datetime.date(" ++ Text.joined ", " date ++ ")"
  | some t =>
    let fine : List Nat :=
      if t.microsecond ≠ 0 then [t.second, t.microsecond]
      else if t.second ≠ 0 then [t.second] else []
    let zone : List Text :=
      (t.offset.map fun offset => "tzinfo=" ++ offsetLiteral offset).toList
    "datetime.datetime(" ++
      Text.joined ", " (date ++ ([t.hour, t.minute] ++ fine).map Text.ofNat ++ zone) ++ ")"

/-- A moment as data. -/
def toData (m : Moment) : Data := .moment m.plain m.literal

end Moment

end TagAudit.Yaml
