import TagAudit.Text.Units

/-!
# UTF-8 and its class-file dialect

Class files hold text in a dialect of UTF-8: the code point zero is the pair `C0 80`, and a code
point above `0xFFFF` is written as its two surrogates, three bytes each. A reader of the dialect
also meets plain zero bytes, lone surrogates and four-byte sequences, and takes all of them.
Configuration files hold standard UTF-8, where none of these liberties are allowed.

Both decoders read one sequence at a time from the left and refuse the whole input at the first
byte that begins no sequence. Only the dialect joins surrogate halves afterwards, so the text it
returns never has a high surrogate directly before a low one.
-/

namespace TagAudit.Utf8

/-- What a dialect takes beyond standard UTF-8. -/
structure Dialect where
  /-- The pair `C0 80` stands for the code point zero. -/
  pairedZero : Bool
  /-- Three-byte sequences may denote surrogates. -/
  surrogates : Bool

/-- Standard UTF-8. -/
def standard : Dialect := ⟨false, false⟩

/-- The dialect of class files, before surrogate halves are joined. -/
def classFile : Dialect := ⟨true, true⟩

/-- Whether a byte can stand after the first one of a sequence. -/
def isContinuation (b : UInt8) : Bool := 0x80 ≤ b.toNat && b.toNat < 0xC0

/-- The code point of a two-byte sequence; shorter code points are no two-byte sequences. -/
def two? (dialect : Dialect) (a b : UInt8) : Option CodePoint :=
  if dialect.pairedZero && a.toNat == 0xC0 && b.toNat == 0x80 then some (CodePoint.ofNat 0)
  else if 0xC2 ≤ a.toNat && a.toNat < 0xE0 && isContinuation b then
    some (CodePoint.ofNat ((a.toNat - 0xC0) * 0x40 + (b.toNat - 0x80)))
  else none

/-- The code point of a three-byte sequence; shorter code points are no three-byte sequences. -/
def three? (dialect : Dialect) (a b c : UInt8) : Option CodePoint :=
  if 0xE0 ≤ a.toNat && a.toNat < 0xF0 && isContinuation b && isContinuation c then
    let value := (a.toNat - 0xE0) * 0x1000 + (b.toNat - 0x80) * 0x40 + (c.toNat - 0x80)
    if value < 0x800 then none
    else if 0xD800 ≤ value && value < 0xE000 && !dialect.surrogates then none
    else some (CodePoint.ofNat value)
  else none

/-- The code point of a four-byte sequence, from `0x10000` to `0x10FFFF`. -/
def four? (a b c d : UInt8) : Option CodePoint :=
  if 0xF0 ≤ a.toNat && a.toNat < 0xF5 && isContinuation b && isContinuation c
      && isContinuation d then
    let value := (a.toNat - 0xF0) * 0x40000 + (b.toNat - 0x80) * 0x1000
      + (c.toNat - 0x80) * 0x40 + (d.toNat - 0x80)
    if bounded : value < 0x110000 then
      if value < 0x10000 then none else some ⟨value, bounded⟩
    else none
  else none

/-- The code points of a byte sequence in order, or nothing if some byte begins no sequence. -/
def sequences? (dialect : Dialect) : List UInt8 → Option Text
  | [] => some []
  | a :: rest =>
    if a.toNat < 0x80 then
      (sequences? dialect rest).map (CodePoint.ofNat a.toNat :: ·)
    else match rest with
    | [] => none
    | b :: rest =>
      match two? dialect a b with
      | some c => (sequences? dialect rest).map (c :: ·)
      | none =>
        match rest with
        | [] => none
        | c :: rest =>
          match three? dialect a b c with
          | some p => (sequences? dialect rest).map (p :: ·)
          | none =>
            match rest with
            | [] => none
            | d :: rest =>
              match four? a b c d with
              | some p => (sequences? dialect rest).map (p :: ·)
              | none => none

/-- Decodes standard UTF-8. -/
def decode? (bytes : List UInt8) : Option Text := sequences? standard bytes

/-- Decodes class-file text, joining surrogate halves that stand next to each other. -/
def decodeClassFile? (bytes : List UInt8) : Option Text :=
  (sequences? classFile bytes).map Text.joinHalves

/-- Whether a byte can stand second in a sequence of three or four bytes. -/
def isSecond (a b : UInt8) : Bool :=
  let least := if a.toNat = 0xE0 then 0xA0 else if a.toNat = 0xF0 then 0x90 else 0x80
  let greatest := if a.toNat = 0xED then 0x9F else if a.toNat = 0xF4 then 0x8F else 0xBF
  decide (least ≤ b.toNat) && decide (b.toNat ≤ greatest)

/-- The number of bytes that are passed over together where no sequence begins: the beginning of a
    sequence that breaks off, or a single byte. -/
def brokenLength : List UInt8 → Nat
  | a :: b :: rest =>
    if a.toNat < 0xE0 || 0xF5 ≤ a.toNat || !isSecond a b then 1
    else match rest with
      | c :: _ => if 0xF0 ≤ a.toNat && isContinuation c then 3 else 2
      | [] => 2
  | _ => 1

/-- The code point that bytes begin with and the length of its sequence. -/
def first? (bytes : List UInt8) : Option (CodePoint × Nat) :=
  (List.range 5).findSome? fun length =>
    match decode? (bytes.take length) with
    | some [c] => some (c, length)
    | _ => none

/-- The code points of bytes, at most a number of them, with the replacement character for what is
    no UTF-8. -/
def decodeUpTo : Nat → List UInt8 → Text
  | 0, _ => []
  | _, [] => []
  | bound + 1, bytes =>
    match first? bytes with
    | some (c, length) => c :: decodeUpTo bound (bytes.drop length)
    | none => .ofNat 0xFFFD :: decodeUpTo bound (bytes.drop (brokenLength bytes))

/-- Decodes standard UTF-8, with the replacement character for what is none. -/
def decodeLeniently (bytes : List UInt8) : Text := decodeUpTo bytes.length bytes

/-- The sequence of one code point that is below `0x10000`, or its four-byte sequence. -/
def sequenceOf (c : CodePoint) : List UInt8 :=
  if c.val < 0x80 then [UInt8.ofNat c.val]
  else if c.val < 0x800 then
    [UInt8.ofNat (0xC0 + c.val / 0x40), UInt8.ofNat (0x80 + c.val % 0x40)]
  else if c.val < 0x10000 then
    [UInt8.ofNat (0xE0 + c.val / 0x1000), UInt8.ofNat (0x80 + c.val / 0x40 % 0x40),
      UInt8.ofNat (0x80 + c.val % 0x40)]
  else
    [UInt8.ofNat (0xF0 + c.val / 0x40000), UInt8.ofNat (0x80 + c.val / 0x1000 % 0x40),
      UInt8.ofNat (0x80 + c.val / 0x40 % 0x40), UInt8.ofNat (0x80 + c.val % 0x40)]

/-- Writes UTF-8; a surrogate is written as its three bytes, which only the dialect reads back. -/
def encode (t : Text) : List UInt8 := t.flatMap sequenceOf

/-- Writes a name, in which surrogates from the last part of their range stand for single bytes. -/
def encodeName (t : Text) : List UInt8 :=
  t.flatMap fun c => if c.isByte then [UInt8.ofNat (c.val % 0x100)] else sequenceOf c

/-- Writes a code point as a compiler does: zero as two bytes, an astral one as its halves. -/
def classFileSequenceOf (c : CodePoint) : List UInt8 :=
  if c.val = 0 then [0xC0, 0x80]
  else (Text.unitsOf c).flatMap fun unit => sequenceOf (CodePoint.ofNat unit)

/-- Writes class-file text as a compiler does. -/
def encodeClassFile (t : Text) : List UInt8 := t.flatMap classFileSequenceOf

end TagAudit.Utf8
