import TagAudit.ClassFile.Cursor

/-!
# Readings

A reading says how bytes are consumed before anything is consumed: it takes bytes and goes on with
them, passes over bytes it never looks at, asks where it stands, fails, or is done. Running a
reading walks a cursor through it.

Because a reading is data, what holds of every reading is shown once, by induction on readings:
that the answer depends on the bytes taken only, that bytes after the last one taken make no
difference, that every report of missing bytes is true. What a class file means is then written as
one reading, and inherits all of this.
-/

namespace TagAudit.ClassFile

/-- A plan for consuming bytes and producing a value. -/
inductive Reading (α : Type) : Type where
  | done (value : α)
  | fail (defect : Defect)
  /-- Takes bytes and goes on with them. -/
  | take (width : Nat) (next : List UInt8 → Reading α)
  /-- Passes over bytes without looking at them. -/
  | skip (width : Nat) (next : Reading α)
  /-- Goes on with the number of bytes passed so far. -/
  | position (next : Nat → Reading α)

namespace Reading

variable {α β : Type}

/-- Goes on with a second reading that may depend on the first one's value. -/
def bind (r : Reading α) (f : α → Reading β) : Reading β :=
  match r with
  | .done value => f value
  | .fail defect => .fail defect
  | .take width next => .take width fun taken => (next taken).bind f
  | .skip width next => .skip width (next.bind f)
  | .position next => .position fun offset => (next offset).bind f

instance : Monad Reading where
  pure := .done
  bind := bind

/-- Walks a cursor through a reading. -/
def run (r : Reading α) (c : Cursor) : Except Defect (α × Cursor) :=
  match r with
  | .done value => .ok (value, c)
  | .fail defect => .error defect
  | .take width next =>
    match c.take width with
    | .ok (taken, after) => (next taken).run after
    | .error defect => .error defect
  | .skip width next =>
    match c.take width with
    | .ok (_, after) => next.run after
    | .error defect => .error defect
  | .position next => (next c.offset).run c

/-- The stretches that a run passes over unseen, each as its first offset and its length. -/
def unseen (r : Reading α) (c : Cursor) : List (Nat × Nat) :=
  match r with
  | .done _ => []
  | .fail _ => []
  | .take width next =>
    match c.take width with
    | .ok (taken, after) => (next taken).unseen after
    | .error _ => []
  | .skip width next =>
    match c.take width with
    | .ok (_, after) => (c.offset, width) :: next.unseen after
    | .error _ => []
  | .position next => (next c.offset).unseen c

/-- The number of bytes passed so far. -/
def offset : Reading Nat := .position .done

/-- Passes over bytes without looking at them. -/
def pass (width : Nat) : Reading Unit := .skip width (.done ())

/-- The next bytes. -/
def bytes (width : Nat) : Reading (List UInt8) := .take width .done

/-- One byte as a number. -/
def u1 : Reading Nat := .take 1 fun taken => .done (bigEndian taken)

/-- Two bytes as a number. -/
def u2 : Reading Nat := .take 2 fun taken => .done (bigEndian taken)

/-- Four bytes as a number. -/
def u4 : Reading Nat := .take 4 fun taken => .done (bigEndian taken)

/-- A result that is already decided. -/
def ofExcept : Except Defect α → Reading α
  | .ok value => .done value
  | .error defect => .fail defect

/-- Reads a number of values and puts them behind those already read, which stand in reverse. -/
def timesOnto (step : Reading α) : Nat → List α → Reading (List α)
  | 0, reversed => .done reversed.reverse
  | count + 1, reversed => step.bind fun value => timesOnto step count (value :: reversed)

/-- Reads a number of values, one after another. -/
def times (count : Nat) (step : Reading α) : Reading (List α) := timesOnto step count []

end Reading

end TagAudit.ClassFile
