import TagAudit.ClassFile.ConstantPool
import TagAudit.ClassFile.Descriptor

/-!
# The layout of a class file

The file is read once, from the magic to the last attribute. Of all attributes only the runtime
visible annotations of instance fields are decoded; every other one is passed over by its declared
length, and so are interfaces, methods and the file's version. Static fields are read and dropped.
A file is described only when every byte of it is accounted for.

Element values nest. Each level takes at least one byte before it goes deeper, so a reading with
as many levels as the file has bytes reads every file as one with more levels would. No other limit
is set to the depth here. Where calls may only go so deep, as where an interpreter allows a thousand
of them, reading breaks off at a depth of about 490 values instead; that is left out.
-/

namespace TagAudit.ClassFile

/-- The first four bytes of every class file. -/
def magic : Nat := 0xCAFEBABE

/-- The name of the attribute that is decoded. -/
def annotationsAttribute : Text := "RuntimeVisibleAnnotations"

/-- The forms of element values, by what follows the tag. -/
inductive ElementForm where
  | integer | character | boolean | long | float | double | string
  | enum | classLiteral | nested | array
deriving DecidableEq

/-- The form that a tag announces: one of the letters `B C D F I J S Z s e c` or `@` or an
    opening bracket. -/
def ElementForm.ofTag? : Nat → Option ElementForm
  | 0x42 | 0x49 | 0x53 => some .integer
  | 0x43 => some .character
  | 0x5A => some .boolean
  | 0x4A => some .long
  | 0x46 => some .float
  | 0x44 => some .double
  | 0x73 => some .string
  | 0x65 => some .enum
  | 0x63 => some .classLiteral
  | 0x40 => some .nested
  | 0x5B => some .array
  | _ => none

section
variable (pool : ConstantPool)

/-- An index into the pool, and the text it stands for. -/
def textReading : Reading Text := Reading.u2.bind fun index => .ofExcept (pool.text index)

/-- An index into the pool, and what the constant of a kind there holds. -/
def constantReading {α : Type} (kind : ConstantKind) (holds : Constant → Option α) : Reading α :=
  Reading.u2.bind fun index => .ofExcept (pool.pick kind holds index)

/-- An annotation, given how to read the values in it. -/
def annotationOver (value : Reading ElementValue) : Reading Annotation := do
  let desc ← textReading pool
  let count ← Reading.u2
  let pairs ← Reading.times count do
    let name ← textReading pool
    return (name, ← value)
  return ⟨desc, pairs⟩

/-- An element value, given how to read the values nested in it. The inner reading is made only
    when a nested value begins, so no level is planned that the bytes do not reach. -/
def elementValueOver (inner : Unit → Reading ElementValue) : Reading ElementValue := do
  let offset ← Reading.offset
  let tag ← Reading.u1
  match ElementForm.ofTag? tag with
  | none => .fail (.badElementTag tag offset)
  | some .integer => return .int (← constantReading pool .integer Constant.integer?)
  | some .character =>
    let n ← constantReading pool .integer Constant.integer?
    return .text [CodePoint.ofNat (n % 0x10000).toNat]
  | some .boolean => return .bool ((← constantReading pool .integer Constant.integer?) != 0)
  | some .long => return .int (← constantReading pool .long Constant.long?)
  | some .float => return .real (← constantReading pool .float Constant.float?)
  | some .double => return .real (← constantReading pool .double Constant.double?)
  | some .string => return .text (← textReading pool)
  | some .enum =>
    let desc ← textReading pool
    return .enum desc (← textReading pool)
  | some .classLiteral => return .classLiteral (← textReading pool)
  | some .nested => return (← annotationOver pool (inner ())).toElement
  | some .array =>
    let count ← Reading.u2
    return .array (← Reading.times count (inner ()))

/-- An element value of at most a number of levels. Where no level is left, no byte is left
    either, if the levels were as many as the bytes, and then the byte wanted here is missing. -/
def elementValue : (levels : Nat) → Reading ElementValue
  | 0 => .take 1 fun _ => .done .null
  | levels + 1 => elementValueOver pool fun _ => elementValue levels

/-- An annotation with values of at most a number of levels. -/
def annotationReading (levels : Nat) : Reading Annotation :=
  annotationOver pool (elementValue pool levels)

/-- The body of an annotations attribute, which has to take exactly the declared length. -/
def annotationsReading (levels declared : Nat) : Reading (List Annotation) := do
  let start ← Reading.offset
  let count ← Reading.u2
  let annotations ← Reading.times count (annotationReading pool levels)
  let stop ← Reading.offset
  if stop - start = declared then return annotations
  else .fail (.annotationLength declared (stop - start) start)

/-- An attribute of a field, and the annotations it carries for an instance field. -/
def fieldAttribute (levels : Nat) (isStatic : Bool) : Reading (List Annotation) := do
  let name ← textReading pool
  let length ← Reading.u4
  if name = annotationsAttribute ∧ !isStatic then annotationsReading pool levels length
  else
    Reading.pass length
    return []

/-- A field; a static one is read and then dropped. -/
def fieldReading (levels : Nat) : Reading (Option Field) := do
  let flags ← Reading.u2
  let name ← textReading pool
  let descriptor ← textReading pool
  let isStatic := flags / 8 % 2 == 1
  let count ← Reading.u2
  let annotations ← Reading.times count (fieldAttribute pool levels isStatic)
  return if isStatic then none else some ⟨name, descriptor, flags, annotations.flatten⟩

end

/-- An attribute that is passed over, its name and its body. -/
def passAttribute : Reading Unit := do
  Reading.pass 2
  let length ← Reading.u4
  Reading.pass length

/-- A list of attributes that are passed over. -/
def passAttributes : Reading Unit := do
  let count ← Reading.u2
  let _ ← Reading.times count passAttribute

/-- A method, of which nothing is kept. -/
def passMethod : Reading Unit := do
  Reading.pass 6
  passAttributes

/-- A class file up to its last attribute. -/
def classReading (levels : Nat) : Reading ClassDescriptor := do
  let first ← Reading.u4
  if first ≠ magic then .fail (.badMagic first)
  else
    Reading.pass 2
    Reading.pass 2
    let pool ← ConstantPool.reading
    let flags ← Reading.u2
    let name ← Reading.u2.bind fun index => .ofExcept (pool.className index)
    Reading.pass 2
    let interfaces ← Reading.u2
    Reading.pass (2 * interfaces)
    let fieldCount ← Reading.u2
    let fields ← Reading.times fieldCount (fieldReading pool levels)
    let methodCount ← Reading.u2
    let _ ← Reading.times methodCount passMethod
    passAttributes
    return ⟨name, flags, fields.filterMap id⟩

/-- The class that bytes describe, or the first defect met in reading them. -/
def parse (data : List UInt8) : Except Defect ClassDescriptor :=
  match (classReading data.length).run (.start data) with
  | .error defect => .error defect
  | .ok (described, after) =>
    match after.rest with
    | [] => .ok described
    | left => .error (.trailingBytes left.length)

end TagAudit.ClassFile
