import TagAudit.Text

/-!
# Integers in text

An integer is spelled with a sign, which may be missing, and with digits. Some readers let single
low lines stand between digits, and some know bases that are announced by a zero and a letter. Which
code points are digits depends on who reads, too: some readers know those of ASCII only, and others
the decimal digits of every script. An integer in base ten must not be too long.
-/

namespace TagAudit.Text

/-- The zeros of the scripts that have decimal digits; the other nine digits follow each. -/
def zeros : List Nat :=
  [0x30, 0x660, 0x6F0, 0x7C0, 0x966, 0x9E6, 0xA66, 0xAE6, 0xB66, 0xBE6, 0xC66, 0xCE6, 0xD66, 0xDE6,
    0xE50, 0xED0, 0xF20, 0x1040, 0x1090, 0x17E0, 0x1810, 0x1946, 0x19D0, 0x1A80, 0x1A90, 0x1B50,
    0x1BB0, 0x1C40, 0x1C50, 0xA620, 0xA8D0, 0xA900, 0xA9D0, 0xA9F0, 0xAA50, 0xABF0, 0xFF10, 0x104A0,
    0x10D30, 0x11066, 0x110F0, 0x11136, 0x111D0, 0x112F0, 0x11450, 0x114D0, 0x11650, 0x116C0,
    0x11730, 0x118E0, 0x11950, 0x11C50, 0x11D50, 0x11DA0, 0x16A60, 0x16AC0, 0x16B50,
    0x1D7CE, 0x1D7D8, 0x1D7E2, 0x1D7EC, 0x1D7F6, 0x1E140, 0x1E2F0, 0x1E950, 0x1FBF0]

/-- The value of a decimal digit of any script. -/
def decimalValue? (c : CodePoint) : Option Nat :=
  (zeros.find? fun first => first ≤ c.val && c.val < first + 10).map fun first => c.val - first

/-- The text with the decimal digits of every script exchanged for those of ASCII. -/
def withPlainDigits (t : Text) : Text :=
  t.map fun c => ((decimalValue? c).map CodePoint.ofDigit).getD c

/-- The most digits that an integer in base ten may have. -/
def digitLimit : Nat := 4300

/-- The number that digits in a base spell. -/
def natural? (base : Nat) (t : Text) : Option Nat :=
  if t.isEmpty then none
  else (t.mapM (CodePoint.digitValue? base)).map fun digits =>
    digits.foldl (fun n d => n * base + d) 0

/-- The number that digits spell, with single low lines between them. -/
def unsigned? (valueOf : CodePoint → Option Nat) (t : Text) : Option Nat :=
  let groups := parts '_' t
  if groups.any List.isEmpty then none
  else (groups.flatten.mapM valueOf).map fun values => values.foldl (fun n v => n * 10 + v) 0

/-- The integer that a sign and what follows it spell, given how what follows is read. -/
def signed? (unsigned : Text → Option Nat) : Text → Option Int
  | [] => none
  | c :: rest =>
    if c = '-' then (unsigned rest).map fun n => -(n : Int)
    else if c = '+' then (unsigned rest).map Int.ofNat
    else (unsigned (c :: rest)).map Int.ofNat

/-- The letter that announces a base. -/
def baseLetter? (base : Nat) : Option CodePoint :=
  if base = 2 then some 'b' else if base = 8 then some 'o' else if base = 16 then some 'x' else none

/-- Digits without the zero and the letter that announce their base, if these are there. -/
def withoutBase (base : Nat) (t : Text) : Text :=
  match t with
  | zero :: letter :: digits =>
    if zero = '0' && baseLetter? base == some letter.toLower then digits else t
  | _ => t

/-- The integer that a text spells in a base, with blanks around it. -/
def integer? (base : Nat) (t : Text) : Option Int :=
  let t := withPlainDigits (t.trimmed CodePoint.isBlank)
  signed? (fun digits =>
    if base = 10 && digitLimit < digits.length then none
    else natural? base (withoutBase base digits)) t

end TagAudit.Text
