import TagAudit.Text.Case
import TagAudit.Text.Integer

/-!
# Arguments of actions

A tag may name an action with arguments. They are written as literal values: numbers with a sign,
complex ones as a sum, texts and bytes in quotes, the words for truth values and for nothing, three
dots, and tuples, sets and tables of literal values. Neighbouring texts are one. A comma too many
makes a tuple. Members of sets and keys of tables may be neither sets nor tables.

Here only matters whether arguments can be read, so reading yields a kind of value at most.
-/

namespace TagAudit.Markup

/-- What is known of a literal value. -/
inductive Literal where
  /-- A number without a sign. -/
  | number (isImaginary : Bool)
  /-- A real or imaginary number with a sign. -/
  | signed (isImaginary : Bool)
  /-- Any other value, and whether it can be a key. -/
  | value (isKey : Bool)
deriving DecidableEq

namespace Literal

/-- Whether a value can be a key. -/
def isKey : Literal → Bool
  | number _ | signed _ => true
  | value isKey => isKey

/-- A value with a sign in front. -/
def negated? : Literal → Option Literal
  | number isImaginary => some (signed isImaginary)
  | _ => none

/-- The sum of two values: a real number, and an imaginary one without a sign. -/
def sum? : Literal → Literal → Option Literal
  | number false, number true | signed false, number true => some (value true)
  | _, _ => none

/-- Whether a code point can be part of a name. -/
def isNamePart (c : CodePoint) : Bool :=
  c.isLetter || c.isDigit || c = '_' || c.isWithin CodePoint.casedRuns
    || (Text.decimalValue? c).isSome

/-- What follows blanks and a comment; ends of lines are blanks inside brackets only. -/
def afterBlanks (inside : Bool) : (isComment : Bool) → Text → Text
  | _, [] => []
  | isComment, c :: rest =>
    if c = '\n' || c = '\r' then
      if inside then afterBlanks inside false rest else c :: rest
    else if isComment then afterBlanks inside true rest
    else if c = ' ' || c = '\t' || c.val = 0x0C then afterBlanks inside false rest
    else if c = '#' then afterBlanks inside true rest
    else c :: rest

/-- Whether a text is digits of a base with single low lines between them. -/
def isDigits (base : Nat) (t : Text) : Bool :=
  (Text.parts '_' t).all fun group =>
    !group.isEmpty && group.all fun c => (c.digitValue? base).isSome

/-- The digits and low lines at the beginning of a text. -/
def digitsOf (t : Text) : Text := t.takeWhile fun c : CodePoint => c.isDigit || c = '_'

/-- A number in another base than ten, given what follows the zero in front of it. -/
def based? (rest : Text) : Option Text :=
  match rest with
  | [] => none
  | mark :: rest =>
    let base? : Option Nat :=
      if mark = 'x' || mark = 'X' then some 16
      else if mark = 'o' || mark = 'O' then some 8
      else if mark = 'b' || mark = 'B' then some 2
      else none
    match base? with
    | none => none
    | some base =>
      let digits := rest.takeWhile fun c : CodePoint => (c.digitValue? 16).isSome || c = '_'
      let digits := if Text.startsWith digits "_" then digits.drop 1 else digits
      if isDigits base digits then
        some (rest.dropWhile fun c : CodePoint => (c.digitValue? 16).isSome || c = '_')
      else none

/-- What follows an exponent, which may be missing, and whether there was one. -/
def afterExponent (t : Text) : Text × Bool :=
  match t with
  | mark :: rest =>
    let unsigned := match rest with
      | c :: after => if c = '+' || c = '-' then after else rest
      | [] => rest
    let digits := digitsOf unsigned
    if (mark = 'e' || mark = 'E') && isDigits 10 digits then
      (unsigned.drop digits.length, true)
    else (t, false)
  | [] => (t, false)

/-- A number at the beginning of a text, and what follows it. -/
def number? (t : Text) : Option (Literal × Text) :=
  let found : Option (Literal × Text) :=
    match (Text.after? "0" t).bind based? with
    | some rest => some (.number false, rest)
    | none =>
      let whole := digitsOf t
      let rest := t.drop whole.length
      let (fraction, rest, hasPoint) : Text × Text × Bool := match rest with
        | c :: after =>
          if c = '.' then (digitsOf after, after.drop (digitsOf after).length, true)
          else ([], rest, false)
        | [] => ([], rest, false)
      let (rest, hasExponent) := afterExponent rest
      let (rest, isImaginary) : Text × Bool := match rest with
        | c :: after => if c = 'j' || c = 'J' then (after, true) else (rest, false)
        | [] => (rest, false)
      let isWritten := (whole.isEmpty || isDigits 10 whole)
        && (fraction.isEmpty || isDigits 10 fraction) && !(whole.isEmpty && fraction.isEmpty)
      let isWhole := !hasPoint && !hasExponent && !isImaginary
      let hasIdleZero := Text.startsWith whole "0"
        && whole.any fun c : CodePoint => c ≠ '0' && c ≠ '_'
      if isWritten && !(isWhole && hasIdleZero) then some (.number isImaginary, rest) else none
  match found with
  | some (literal, rest) =>
    match rest with
    | c :: _ => if isNamePart c || c = '.' then none else some (literal, rest)
    | [] => some (literal, rest)
  | none => none

/-- The number of hexadecimal digits that an escape has after its letter, in a text or in bytes. -/
def escapeWidth? (isBytes : Bool) (letter : CodePoint) : Option Nat :=
  if letter = 'x' then some 2
  else if isBytes then none
  else if letter = 'u' then some 4
  else if letter = 'U' then some 8
  else none

/-- Whether an escape is complete, given its letter and what follows. -/
def isEscape (isBytes : Bool) (letter : CodePoint) (rest : Text) : Bool :=
  match escapeWidth? isBytes letter with
  | some width =>
    let digits := rest.take width
    digits.length == width && digits.all (fun c => (c.digitValue? 16).isSome)
      && decide (digits.foldl (fun n c => n * 16 + (c.digitValue? 16).getD 0) 0 < 0x110000)
  | none =>
    if letter = 'N' && !isBytes then
      Text.startsWith rest "\x7b" && (rest.drop 1).any fun c : CodePoint => c.val = 0x7D
    else true

/-- What follows the quotes that end a text, given how it is written. -/
def afterQuoted (isBytes isRaw : Bool) (quotes : Text) : (bound : Nat) → Text → Option Text
  | 0, _ => none
  | bound + 1, t =>
    if quotes.isPrefixOf t then some (t.drop quotes.length)
    else match t with
    | [] => none
    | c :: rest =>
      if c = '\n' && quotes.length = 1 then none
      else if isBytes && 0x80 ≤ c.val then none
      else if c ≠ '\\' then afterQuoted isBytes isRaw quotes bound rest
      else match rest with
      | [] => none
      | letter :: rest =>
        if isBytes && 0x80 ≤ letter.val then none
        else if isRaw || isEscape isBytes letter rest then
          afterQuoted isBytes isRaw quotes bound rest
        else none

/-- What stands before the quotes of a text: whether it is bytes, and whether it is raw. -/
def quoteMarks : List (Text × Bool × Bool) :=
  [("", false, false), ("u", false, false), ("r", false, true), ("b", true, false),
    ("br", true, true), ("rb", true, true)]

/-- A text or bytes in quotes at the beginning of a text, and what follows. -/
def quoted? (t : Text) : Option (Bool × Text) :=
  let mark := t.takeWhile CodePoint.isLetter
  match quoteMarks.find? fun entry => entry.1 == Text.toLower mark with
  | none => none
  | some (_, isBytes, isRaw) =>
    match t.drop mark.length with
    | [] => none
    | quote :: rest =>
      if quote ≠ '"' && quote ≠ '\'' then none
      else
        let quotes : Text :=
          if [quote, quote].isPrefixOf rest then [quote, quote, quote] else [quote]
        (afterQuoted isBytes isRaw quotes (rest.length + 1)
          (rest.drop (quotes.length - 1))).map (isBytes, ·)

/-- The texts at the beginning of a text, which are all bytes or none of them, and what follows. -/
def texts? (inside : Bool) : (bound : Nat) → (before : Option Bool) → Text → Option Text
  | 0, _, _ => none
  | bound + 1, before, t =>
    match quoted? t, before with
    | none, none => none
    | none, some _ => some t
    | some (isBytes, rest), before =>
      if before.all fun other => other == isBytes then
        texts? inside bound isBytes (afterBlanks inside false rest)
      else none

/-- The words that are values. -/
def valueWords : List Text := ["True", "False", "None"]

mutual
/-- A value without a sign, and what follows it. The number bounds how deep values may be. -/
def atom? (inside : Bool) : (bound : Nat) → Text → Option (Literal × Text)
  | 0, _ => none
  | bound + 1, t =>
    match t with
    | [] => none
    | c :: rest =>
      if c = '(' then
        match Text.after? ")" (afterBlanks true false rest) with
        | some rest => some (.value true, rest)
        | none =>
          match items? true false bound (afterBlanks true false rest) with
          | some ([first], false, rest) => (Text.after? ")" rest).map (first, ·)
          | some (items, _, rest) => (Text.after? ")" rest).map (.value (items.all isKey), ·)
          | none => none
      else if c.val = 0x7B then
        match Text.after? "\x7d" (afterBlanks true false rest) with
        | some rest => some (.value false, rest)
        | none =>
          match items? true true bound (afterBlanks true false rest) with
          | some (items, _, rest) =>
            if items.all isKey then (Text.after? "\x7d" rest).map (.value false, ·) else none
          | none => none
      else if Text.startsWith t "..." then some (.value true, t.drop 3)
      else
        match texts? inside (t.length + 1) none t with
        | some rest => some (.value true, rest)
        | none =>
          let word := t.takeWhile isNamePart
          let rest := t.drop word.length
          if valueWords.contains word then some (.value true, rest)
          else if word = Text.ofString "set" then
            match Text.after? "(" (afterBlanks inside false rest) with
            | some rest =>
              (Text.after? ")" (afterBlanks true false rest)).map (.value false, ·)
            | none => none
          else number? t

/-- A value that may have a sign, and what follows it. -/
def term? (inside : Bool) : (bound : Nat) → Text → Option (Literal × Text)
  | 0, _ => none
  | bound + 1, t =>
    match t with
    | [] => none
    | c :: rest =>
      if c = '+' || c = '-' then do
        let (literal, rest) ← atom? inside bound (afterBlanks inside false rest)
        return (← literal.negated?, rest)
      else atom? inside bound t

/-- A value or a sum of two, and what follows it and the blanks after it. -/
def expression? (inside : Bool) : (bound : Nat) → Text → Option (Literal × Text)
  | 0, _ => none
  | bound + 1, t => do
    let (first, rest) ← term? inside bound t
    let rest := afterBlanks inside false rest
    match rest with
    | [] => return (first, rest)
    | c :: others =>
      if c = '+' || c = '-' then
        let (second, rest) ← atom? inside bound (afterBlanks inside false others)
        return (← first.sum? second, afterBlanks inside false rest)
      else return (first, rest)

/-- Values with commas between them, whether a comma follows the last, and what follows. In braces
    either every value has another after a colon, or none; only the first of the two is kept. -/
def items? (inside inBraces : Bool) : (bound : Nat) → Text → Option (List Literal × Bool × Text)
  | 0, _ => none
  | bound + 1, t => do
    let (first, rest) ← expression? inside bound t
    match (if inBraces then Text.after? ":" rest else none) with
    | some rest =>
      let (_, rest) ← expression? inside bound (afterBlanks true false rest)
      let (others, rest) ← entries? bound rest
      return (first :: others, false, rest)
    | none =>
      match Text.after? "," rest with
      | none => return ([first], false, rest)
      | some rest =>
        let rest := afterBlanks inside false rest
        if rest.isEmpty || Text.startsWith rest ")" || Text.startsWith rest "\x7d" then
          return ([first], true, rest)
        else
          let (others, _, rest) ← items? inside false bound rest
          return (first :: others, true, rest)

/-- The entries of a table after the first: their keys, and what follows. -/
def entries? : (bound : Nat) → Text → Option (List Literal × Text)
  | 0, _ => none
  | bound + 1, t =>
    match Text.after? "," t with
    | none => some ([], t)
    | some rest => do
      let rest := afterBlanks true false rest
      if Text.startsWith rest "\x7d" then return ([], rest)
      else
        let (key, rest) ← expression? true bound rest
        let rest ← Text.after? ":" rest
        let (_, rest) ← expression? true bound (afterBlanks true false rest)
        let (others, rest) ← entries? bound rest
        return (key :: others, rest)
end

/-- Whether a text is a literal value, or several with commas between them. -/
def isWritten (t : Text) : Bool :=
  !(t.any fun c => c.val = 0 || c.isSurrogate) &&
    match items? false false (8 * t.length + 8) (afterBlanks false false t) with
    | some (_, _, rest) => rest.isEmpty
    | none => false

end Literal

/-- Whether an action can be read: it is literal values, or the name of a handler with values in
    parentheses after it, or without. -/
def isAction (parameters : Text) : Bool :=
  let t := parameters.trimmed CodePoint.separatesWords
  let name := t.takeWhile fun c : CodePoint => Literal.isNamePart c || c = '.'
  let rest := t.drop name.length
  if rest.isEmpty then true
  else if Text.startsWith rest "(" && Text.endsWith rest ")" && !rest.contains '\n' then
    Literal.isWritten rest
  else Literal.isWritten t

end TagAudit.Markup
