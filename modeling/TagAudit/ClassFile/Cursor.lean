import TagAudit.Binary64
import TagAudit.ClassFile.Defect

/-!
# A cursor over bytes

A cursor knows how many bytes it has passed and which ones are left. The one thing it does is to
take a number of bytes: it either advances by exactly that number and returns them, or it reports
where it stands, what was wanted and what is there, and does not move. Numbers are big-endian
readings of the bytes taken.
-/

namespace TagAudit.ClassFile

/-- A position in a byte sequence: the number of bytes before it and the bytes from it on. -/
structure Cursor where
  offset : Nat
  rest : List UInt8
deriving DecidableEq

namespace Cursor

/-- The position before the first byte. -/
def start (data : List UInt8) : Cursor := ⟨0, data⟩

/-- The number of bytes left. -/
def remaining (c : Cursor) : Nat := c.rest.length

/-- Splits off the first bytes of a list, if it has that many. It never looks further than it
    splits, so taking from a long file costs no more than what is taken. -/
def splitFirst? : Nat → List UInt8 → Option (List UInt8 × List UInt8)
  | 0, rest => some ([], rest)
  | _ + 1, [] => none
  | width + 1, b :: rest =>
    (splitFirst? width rest).map fun (taken, after) => (b :: taken, after)

/-- Takes a number of bytes. A negative number is wanted in vain, like one that is too large. -/
def take (c : Cursor) : Int → Except Defect (List UInt8 × Cursor)
  | .ofNat width =>
    match splitFirst? width c.rest with
    | some (taken, after) => .ok (taken, ⟨c.offset + width, after⟩)
    | none => .error (.truncated c.offset width c.remaining)
  | .negSucc n => .error (.truncated c.offset (.negSucc n) c.remaining)

end Cursor

/-- The number that bytes spell, most significant first. -/
def bigEndian (bytes : List UInt8) : Nat := bytes.foldl (fun n b => n * 256 + b.toNat) 0

/-- The two's complement reading of a number below `2 ^ width`. -/
def signed (width n : Nat) : Int :=
  if n < Nat.pow 2 (width - 1) then n else (n : Int) - (Nat.pow 2 width : Nat)

/-- What can be asked of a cursor. -/
inductive Operation where
  | u1 | u2 | u4 | s4 | s8 | f4 | f8
  | bytes (width : Int)
  | skip (width : Int)
deriving DecidableEq

/-- What a successful operation returns. -/
inductive Operation.Answer where
  | number (n : Int)
  | real (x : Binary64)
  | bytes (taken : List UInt8)
  | nothing
deriving DecidableEq

namespace Operation

/-- The number of bytes an operation takes. -/
def width : Operation → Int
  | u1 => 1 | u2 => 2 | u4 => 4 | s4 => 4 | s8 => 8 | f4 => 4 | f8 => 8
  | bytes width => width
  | skip width => width

/-- The reading of the bytes an operation took. -/
def answer (taken : List UInt8) : Operation → Answer
  | u1 | u2 | u4 => .number (bigEndian taken)
  | s4 => .number (signed 32 (bigEndian taken))
  | s8 => .number (signed 64 (bigEndian taken))
  | f4 => .real (Binary64.ofBinary32 (bigEndian taken))
  | f8 => .real ⟨UInt64.ofNat (bigEndian taken)⟩
  | bytes _ => .bytes taken
  | skip _ => .nothing

/-- Performs an operation; the cursor moves only when it succeeds. -/
def perform (operation : Operation) (c : Cursor) : Except Defect Answer × Cursor :=
  match c.take operation.width with
  | .ok (taken, after) => (.ok (operation.answer taken), after)
  | .error defect => (.error defect, c)

/-- Performs operations in order, going on after failures, with the cursor after each. -/
def performAll (c : Cursor) : List Operation → List (Except Defect Answer × Cursor)
  | [] => []
  | operation :: rest =>
    let step := operation.perform c
    step :: performAll step.2 rest

end Operation

end TagAudit.ClassFile
