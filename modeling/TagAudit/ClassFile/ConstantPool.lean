import TagAudit.Text.Utf8
import TagAudit.ClassFile.Reading

/-!
# The constant pool

Everything a class file names, it names by an index into its pool. Slots are numbered from one;
slot zero is empty, and so is the second slot of every eight-byte constant. A pool is read until
its declared number of slots is filled, and an eight-byte constant that begins in the last slot
makes the file malformed.

Looking a constant up fails for one of two reasons that are told apart: the index lies outside the
pool, or its slot holds no constant of the kind asked for.
-/

namespace TagAudit.ClassFile

/-- A constant, with as much of its payload as anyone looks at. -/
inductive Constant where
  | text (raw : List UInt8)
  | integer (n : Int)
  | float (x : Binary64)
  | long (n : Int)
  | double (x : Binary64)
  | classRef (name : Nat)
  | string (text : Nat)
  /-- A reference of some other kind, whose payload is passed over. -/
  | reference (kind : ConstantKind)
deriving DecidableEq

namespace Constant

/-- The bytes of a text constant. -/
def text? : Constant → Option (List UInt8)
  | text raw => some raw
  | _ => none

/-- The value of an integer constant. -/
def integer? : Constant → Option Int
  | integer n => some n
  | _ => none

/-- The value of a long constant. -/
def long? : Constant → Option Int
  | long n => some n
  | _ => none

/-- The value of a float constant. -/
def float? : Constant → Option Binary64
  | float x => some x
  | _ => none

/-- The value of a double constant. -/
def double? : Constant → Option Binary64
  | double x => some x
  | _ => none

/-- The index of the name that a class constant holds. -/
def classRef? : Constant → Option Nat
  | classRef name => some name
  | _ => none

/-- Reads the payload of a constant whose tag has been read. -/
def reading : ConstantKind → Reading Constant
  | .text => do
    let length ← Reading.u2
    return .text (← Reading.bytes length)
  | .integer => do return .integer (signed 32 (← Reading.u4))
  | .float => do return .float (Binary64.ofBinary32 (← Reading.u4))
  | .long => do return .long (signed 64 (bigEndian (← Reading.bytes 8)))
  | .double => do return .double ⟨UInt64.ofNat (bigEndian (← Reading.bytes 8))⟩
  | .classRef => do return .classRef (← Reading.u2)
  | .string => do return .string (← Reading.u2)
  | kind => do
    Reading.pass kind.payload
    return .reference kind

end Constant

/-- A pool: one entry a slot, from slot zero on. -/
structure ConstantPool where
  slots : Array (Option Constant)

namespace ConstantPool

/-- Fills the remaining slots of a pool that declares `count` of them. The slot to be filled is the
    number of those filled so far. -/
def fill (count : Nat) : (left : Nat) → Array (Option Constant) → Reading ConstantPool
  | 0, slots => .done ⟨slots⟩
  | left + 1, slots =>
    Reading.u1.bind fun tag =>
      match ConstantKind.ofTag? tag with
      | none => .fail (.badConstantTag slots.size tag)
      | some kind =>
        (Constant.reading kind).bind fun constant =>
          if kind.slots = 2 then
            match left with
            | 0 => .fail (.poolOverrun count)
            | left + 1 => fill count left ((slots.push (some constant)).push none)
          else fill count left (slots.push (some constant))

/-- Reads the declared number of slots and the constants that fill them. -/
def reading : Reading ConstantPool := do
  let count ← Reading.u2
  fill count (count - 1) #[none]

/-- What a constant of one kind holds, by its index. -/
def pick {α : Type} (pool : ConstantPool) (kind : ConstantKind) (holds : Constant → Option α)
    (index : Nat) : Except Defect α :=
  if index = 0 ∨ pool.slots.size ≤ index then .error (.badConstantIndex index none)
  else match pool.slots[index]?.join.bind holds with
  | some value => .ok value
  | none => .error (.badConstantIndex index (some kind))

/-- The text at an index. -/
def text (pool : ConstantPool) (index : Nat) : Except Defect Text := do
  let raw ← pool.pick .text Constant.text? index
  match Utf8.decodeClassFile? raw with
  | some t => .ok t
  | none => .error (.undecodableText index)

/-- The name of the class at an index. -/
def className (pool : ConstantPool) (index : Nat) : Except Defect Text := do
  pool.text (← pool.pick .classRef Constant.classRef? index)

end ConstantPool

end TagAudit.ClassFile
