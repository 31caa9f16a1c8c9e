import TagAudit.ClassFile.Layout
import TagAudit.Proofs.ClassFile.BigEndian

/-!
# The class-file format

A class file as its author means it: a pool of entries, flags and indexes as machine words, fields
and methods with attributes, and attributes that either hold bytes or runtime visible annotations
with values that nest to any depth. Everything that a spelling could get wrong by itself is absent
here. Counts and lengths are those of the lists, a declared pool is filled by its entries, and an
attribute is as long as what it holds.

Each kind of item has a spelling, a condition on the sizes that words can hold, a condition on the
indexes that have to name an entry of some kind, and a meaning. Where an index names nothing of the
kind, the meaning is filled by a default; items that satisfy the condition on indexes never use it.
Nothing in this module mentions how bytes are read.
-/

namespace TagAudit.ClassFile

/-- An entry of a constant pool, with everything that it says. -/
inductive PoolEntry where
  | text (raw : List UInt8)
  | integer (n : Int32)
  | float (bits : UInt32)
  | long (n : Int64)
  | double (bits : UInt64)
  | classRef (name : UInt16)
  | string (text : UInt16)
  | fieldRef (owner member : UInt16)
  | methodRef (owner member : UInt16)
  | interfaceMethodRef (owner member : UInt16)
  | nameAndType (name descriptor : UInt16)
  | methodHandle (form : UInt8) (target : UInt16)
  | methodType (descriptor : UInt16)
  | dynamic (bootstrap member : UInt16)
  | invokeDynamic (bootstrap member : UInt16)
  | moduleName (name : UInt16)
  | packageName (name : UInt16)
deriving DecidableEq

namespace PoolEntry

/-- The kind of an entry. -/
def kind : PoolEntry → ConstantKind
  | text _ => .text | integer _ => .integer | float _ => .float | long _ => .long
  | double _ => .double | classRef _ => .classRef | string _ => .string
  | fieldRef .. => .fieldRef | methodRef .. => .methodRef
  | interfaceMethodRef .. => .interfaceMethodRef | nameAndType .. => .nameAndType
  | methodHandle .. => .methodHandle | methodType _ => .methodType | dynamic .. => .dynamic
  | invokeDynamic .. => .invokeDynamic | moduleName _ => .moduleName
  | packageName _ => .packageName

/-- What follows the tag of an entry. A text has its length in front. -/
def payload : PoolEntry → List UInt8
  | text raw => bytesOf 2 raw.length ++ raw
  | integer n => bytesOf 4 n.toUInt32.toNat
  | float bits => bytesOf 4 bits.toNat
  | long n => bytesOf 8 n.toUInt64.toNat
  | double bits => bytesOf 8 bits.toNat
  | classRef index | string index | methodType index | moduleName index | packageName index =>
    bytesOf 2 index.toNat
  | fieldRef first second | methodRef first second | interfaceMethodRef first second
  | nameAndType first second | dynamic first second | invokeDynamic first second =>
    bytesOf 2 first.toNat ++ bytesOf 2 second.toNat
  | methodHandle form target => bytesOf 1 form.toNat ++ bytesOf 2 target.toNat

/-- The spelling of an entry. -/
def bytes (e : PoolEntry) : List UInt8 := bytesOf 1 e.kind.tag ++ e.payload

/-- The length of a text fits the word that declares it. -/
def Fits : PoolEntry → Prop
  | text raw => raw.length < 65536
  | _ => True

/-- The bytes of a text. -/
def text? : PoolEntry → Option (List UInt8)
  | text raw => some raw
  | _ => none

/-- The index of the name of a class. -/
def classRef? : PoolEntry → Option UInt16
  | classRef name => some name
  | _ => none

/-- The word of an integer. -/
def integer? : PoolEntry → Option Int32
  | integer n => some n
  | _ => none

/-- The word of a long integer. -/
def long? : PoolEntry → Option Int64
  | long n => some n
  | _ => none

/-- The bits of a single-precision number. -/
def float? : PoolEntry → Option UInt32
  | float bits => some bits
  | _ => none

/-- The bits of a double-precision number. -/
def double? : PoolEntry → Option UInt64
  | double bits => some bits
  | _ => none

end PoolEntry

/-- The entries of a constant pool, in the order of their slots. -/
abbrev Pool := List PoolEntry

namespace Pool

/-- The number of slots that entries take up, two for an entry of eight bytes. -/
def slotCount : Pool → Nat
  | [] => 0
  | e :: rest => e.kind.slots + slotCount rest

/-- The entry that starts at an index. Indexes begin at one, and no entry starts at the second slot
of another. -/
def entryAt? : Pool → Nat → Option PoolEntry
  | [], _ => none
  | e :: rest, index =>
    if index = 1 then some e
    else if index ≤ e.kind.slots then none
    else entryAt? rest (index - e.kind.slots)

/-- What the entry at an index holds, if it is of the kind asked for. -/
def held? {σ : Type} (pool : Pool) (holds : PoolEntry → Option σ) (index : UInt16) : Option σ :=
  (pool.entryAt? index.toNat).bind holds

/-- The text that an index names, if its bytes can be decoded. -/
def text? (pool : Pool) (index : UInt16) : Option Text :=
  (pool.held? PoolEntry.text? index).bind Utf8.decodeClassFile?

/-- The text that the class at an index is named by. -/
def className? (pool : Pool) (index : UInt16) : Option Text :=
  (pool.held? PoolEntry.classRef? index).bind pool.text?

/-- The text that an index names, if it names one. -/
def textAt (pool : Pool) (index : UInt16) : Text := (pool.text? index).getD []

end Pool

/-- The forms of element values that are held by a constant. -/
inductive ConstantForm where
  | byte | char | double | float | int | long | short | boolean | string
deriving DecidableEq

namespace ConstantForm

/-- The letter that announces a form. -/
def tag : ConstantForm → Nat
  | byte => 'B'.toNat | char => 'C'.toNat | double => 'D'.toNat | float => 'F'.toNat
  | int => 'I'.toNat | long => 'J'.toNat | short => 'S'.toNat | boolean => 'Z'.toNat
  | string => 's'.toNat

/-- The value that the constant at an index stands for, if it is of the kind that holds the form. A
character is the lowest sixteen bits of its constant. -/
def value? (pool : Pool) (index : UInt16) : ConstantForm → Option ElementValue
  | byte | int | short => (pool.held? PoolEntry.integer? index).map fun n => .int n.toInt
  | char => (pool.held? PoolEntry.integer? index).map fun n =>
    .text [CodePoint.ofNat (n.toUInt32.toNat % 0x10000)]
  | boolean => (pool.held? PoolEntry.integer? index).map fun n => .bool (n != 0)
  | long => (pool.held? PoolEntry.long? index).map fun n => .int n.toInt
  | float => (pool.held? PoolEntry.float? index).map fun bits =>
    .real (Binary64.ofBinary32 bits.toNat)
  | double => (pool.held? PoolEntry.double? index).map fun bits => .real ⟨bits⟩
  | string => (pool.text? index).map .text

end ConstantForm

/-- An element value as it is written: indexes and nested values. -/
inductive ElementInfo where
  | constant (form : ConstantForm) (index : UInt16)
  | enum (type name : UInt16)
  | classLiteral (type : UInt16)
  | nested (type : UInt16) (pairs : List (UInt16 × ElementInfo))
  | array (items : List ElementInfo)

namespace ElementInfo

mutual
/-- The spelling of an element value: its tag and what the tag announces. -/
def bytes : ElementInfo → List UInt8
  | constant form index => bytesOf 1 form.tag ++ bytesOf 2 index.toNat
  | enum type name => bytesOf 1 'e'.toNat ++ bytesOf 2 type.toNat ++ bytesOf 2 name.toNat
  | classLiteral type => bytesOf 1 'c'.toNat ++ bytesOf 2 type.toNat
  | nested type pairs =>
    bytesOf 1 '@'.toNat ++ (bytesOf 2 type.toNat ++ bytesOf 2 pairs.length ++ pairBytes pairs)
  | array items => bytesOf 1 '['.toNat ++ (bytesOf 2 items.length ++ itemBytes items)

/-- The spelling of pairs of a name and a value. -/
def pairBytes : List (UInt16 × ElementInfo) → List UInt8
  | [] => []
  | (name, value) :: rest => bytesOf 2 name.toNat ++ bytes value ++ pairBytes rest

/-- The spelling of values in a row. -/
def itemBytes : List ElementInfo → List UInt8
  | [] => []
  | value :: rest => bytes value ++ itemBytes rest
end

mutual
/-- What an element value stands for. -/
def value (pool : Pool) : ElementInfo → ElementValue
  | constant form index => (form.value? pool index).getD .null
  | enum type name => .enum (pool.textAt type) (pool.textAt name)
  | classLiteral type => .classLiteral (pool.textAt type)
  | nested type pairs => .nested (pool.textAt type) (pairValues pool pairs)
  | array items => .array (itemValues pool items)

/-- What pairs of a name and a value stand for. -/
def pairValues (pool : Pool) : List (UInt16 × ElementInfo) → List (Text × ElementValue)
  | [] => []
  | (name, item) :: rest => (pool.textAt name, value pool item) :: pairValues pool rest

/-- What values in a row stand for. -/
def itemValues (pool : Pool) : List ElementInfo → List ElementValue
  | [] => []
  | item :: rest => value pool item :: itemValues pool rest
end

/-- The counts of pairs and items, at every depth, fit the words that declare them. -/
inductive Fits : ElementInfo → Prop where
  | constant (form : ConstantForm) (index : UInt16) : Fits (.constant form index)
  | enum (type name : UInt16) : Fits (.enum type name)
  | classLiteral (type : UInt16) : Fits (.classLiteral type)
  | nested (type : UInt16) (pairs : List (UInt16 × ElementInfo))
      (counted : pairs.length < 65536) (each : ∀ pair ∈ pairs, Fits pair.2) :
      Fits (.nested type pairs)
  | array (items : List ElementInfo) (counted : items.length < 65536)
      (each : ∀ item ∈ items, Fits item) : Fits (.array items)

/-- Every index of an element value, at every depth, names an entry of the kind required, and the
texts among them can be decoded. -/
inductive Resolves (pool : Pool) : ElementInfo → Prop where
  | constant (form : ConstantForm) (index : UInt16)
      (held : (form.value? pool index).isSome) : Resolves pool (.constant form index)
  | enum (type name : UInt16) (typed : (pool.text? type).isSome)
      (named : (pool.text? name).isSome) : Resolves pool (.enum type name)
  | classLiteral (type : UInt16) (typed : (pool.text? type).isSome) :
      Resolves pool (.classLiteral type)
  | nested (type : UInt16) (pairs : List (UInt16 × ElementInfo))
      (typed : (pool.text? type).isSome) (named : ∀ pair ∈ pairs, (pool.text? pair.1).isSome)
      (each : ∀ pair ∈ pairs, Resolves pool pair.2) : Resolves pool (.nested type pairs)
  | array (items : List ElementInfo) (each : ∀ item ∈ items, Resolves pool item) :
      Resolves pool (.array items)

/-- Pairs are spelled one behind the other. -/
theorem pairBytes_eq (pairs : List (UInt16 × ElementInfo)) :
    pairBytes pairs = pairs.flatMap fun pair => bytesOf 2 pair.1.toNat ++ pair.2.bytes := by
  induction pairs with
  | nil => rfl
  | cons pair rest inductionHypothesis =>
    rw [pairBytes, inductionHypothesis, List.flatMap_cons]

/-- Items are spelled one behind the other. -/
theorem itemBytes_eq (items : List ElementInfo) : itemBytes items = items.flatMap bytes := by
  induction items with
  | nil => rfl
  | cons item rest inductionHypothesis => rw [itemBytes, inductionHypothesis, List.flatMap_cons]

/-- Pairs stand for pairs. -/
theorem pairValues_eq (pool : Pool) (pairs : List (UInt16 × ElementInfo)) :
    pairValues pool pairs = pairs.map fun pair => (pool.textAt pair.1, pair.2.value pool) := by
  induction pairs with
  | nil => rfl
  | cons pair rest inductionHypothesis =>
    rw [pairValues, inductionHypothesis, List.map_cons]

/-- Items stand for items. -/
theorem itemValues_eq (pool : Pool) (items : List ElementInfo) :
    itemValues pool items = items.map (value pool) := by
  induction items with
  | nil => rfl
  | cons item rest inductionHypothesis => rw [itemValues, inductionHypothesis, List.map_cons]

end ElementInfo

/-- An annotation as it is written. -/
structure AnnotationInfo where
  type : UInt16
  pairs : List (UInt16 × ElementInfo)

namespace AnnotationInfo

/-- The spelling of an annotation. -/
def bytes (a : AnnotationInfo) : List UInt8 :=
  bytesOf 2 a.type.toNat ++ bytesOf 2 a.pairs.length
    ++ a.pairs.flatMap fun pair => bytesOf 2 pair.1.toNat ++ pair.2.bytes

/-- What an annotation stands for. -/
def described (pool : Pool) (a : AnnotationInfo) : Annotation :=
  ⟨pool.textAt a.type, a.pairs.map fun pair => (pool.textAt pair.1, pair.2.value pool)⟩

/-- The counts in an annotation fit the words that declare them. -/
def Fits (a : AnnotationInfo) : Prop :=
  a.pairs.length < 65536 ∧ ∀ pair ∈ a.pairs, pair.2.Fits

/-- Every index in an annotation names an entry of the kind required. -/
def Resolves (pool : Pool) (a : AnnotationInfo) : Prop :=
  (pool.text? a.type).isSome ∧
    ∀ pair ∈ a.pairs, (pool.text? pair.1).isSome ∧ pair.2.Resolves pool

/-- The annotation as a value of another one. -/
def toElement (a : AnnotationInfo) : ElementInfo := .nested a.type a.pairs

end AnnotationInfo

/-- What an attribute holds: bytes of whatever meaning, or runtime visible annotations. -/
inductive AttributeBody where
  | payload (raw : List UInt8)
  | annotations (list : List AnnotationInfo)

namespace AttributeBody

/-- The spelling of what an attribute holds. -/
def bytes : AttributeBody → List UInt8
  | payload raw => raw
  | annotations list => bytesOf 2 list.length ++ list.flatMap AnnotationInfo.bytes

/-- The counts among annotations fit the words that declare them. -/
def Fits : AttributeBody → Prop
  | payload _ => True
  | annotations list => list.length < 65536 ∧ ∀ a ∈ list, a.Fits

end AttributeBody

/-- An attribute of a field, a method or a class. -/
structure AttributeInfo where
  name : UInt16
  body : AttributeBody

namespace AttributeInfo

/-- The spelling of an attribute. It declares the length of what it holds. -/
def bytes (a : AttributeInfo) : List UInt8 :=
  bytesOf 2 a.name.toNat ++ bytesOf 4 a.body.bytes.length ++ a.body.bytes

/-- The annotations that an attribute carries for an instance field. -/
def annotations (pool : Pool) (a : AttributeInfo) : List Annotation :=
  match a.body with
  | .payload _ => []
  | .annotations list => list.map (AnnotationInfo.described pool)

/-- The length of an attribute and the counts in it fit the words that declare them. -/
def Fits (a : AttributeInfo) : Prop := a.body.bytes.length < 4294967296 ∧ a.body.Fits

/-- The indexes of an attribute of an instance field name what they have to. Annotations stand
under the name of annotations and nothing else does. -/
def Resolves (pool : Pool) (a : AttributeInfo) : Prop :=
  match a.body with
  | .payload _ => (pool.text? a.name).isSome ∧ pool.text? a.name ≠ some annotationsAttribute
  | .annotations list =>
    pool.text? a.name = some annotationsAttribute ∧ ∀ x ∈ list, x.Resolves pool

end AttributeInfo

/-- The spelling of a list of attributes. -/
def attributeBytes (attributes : List AttributeInfo) : List UInt8 :=
  bytesOf 2 attributes.length ++ attributes.flatMap AttributeInfo.bytes

/-- The number of attributes fits the word that declares it, and so does every size in them. -/
def AttributesFit (attributes : List AttributeInfo) : Prop :=
  attributes.length < 65536 ∧ ∀ a ∈ attributes, a.Fits

/-- A field or a method. -/
structure MemberInfo where
  flags : UInt16
  name : UInt16
  descriptor : UInt16
  attributes : List AttributeInfo

namespace MemberInfo

/-- The spelling of a member. -/
def bytes (m : MemberInfo) : List UInt8 :=
  bytesOf 2 m.flags.toNat ++ bytesOf 2 m.name.toNat ++ bytesOf 2 m.descriptor.toNat
    ++ attributeBytes m.attributes

/-- Whether a member belongs to the class and not to its instances: the bit of weight eight. -/
def isStatic (m : MemberInfo) : Bool := m.flags.toNat.testBit 3

/-- What an instance field stands for, with the annotations of all its attributes in order. -/
def described (pool : Pool) (m : MemberInfo) : Field :=
  ⟨pool.textAt m.name, pool.textAt m.descriptor, m.flags.toNat,
    m.attributes.flatMap (AttributeInfo.annotations pool)⟩

/-- The indexes of a field that have to name something do. Of a static field the annotations are
not among them. -/
structure Resolves (pool : Pool) (m : MemberInfo) : Prop where
  named : (pool.text? m.name).isSome
  typed : (pool.text? m.descriptor).isSome
  attributesNamed : ∀ a ∈ m.attributes, (pool.text? a.name).isSome
  annotated : m.isStatic = false → ∀ a ∈ m.attributes, a.Resolves pool

end MemberInfo

/-- A class file. -/
structure ClassInfo where
  minorVersion : UInt16
  majorVersion : UInt16
  pool : Pool
  flags : UInt16
  thisClass : UInt16
  superClass : UInt16
  interfaces : List UInt16
  fields : List MemberInfo
  methods : List MemberInfo
  attributes : List AttributeInfo

namespace ClassInfo

/-- The spelling of a class file. The pool declares one slot more than its entries take up. -/
def bytes (m : ClassInfo) : List UInt8 :=
  bytesOf 4 magic ++ bytesOf 2 m.minorVersion.toNat ++ bytesOf 2 m.majorVersion.toNat
    ++ bytesOf 2 (m.pool.slotCount + 1) ++ m.pool.flatMap PoolEntry.bytes
    ++ bytesOf 2 m.flags.toNat ++ bytesOf 2 m.thisClass.toNat ++ bytesOf 2 m.superClass.toNat
    ++ bytesOf 2 m.interfaces.length ++ m.interfaces.flatMap (fun index => bytesOf 2 index.toNat)
    ++ bytesOf 2 m.fields.length ++ m.fields.flatMap MemberInfo.bytes
    ++ bytesOf 2 m.methods.length ++ m.methods.flatMap MemberInfo.bytes
    ++ attributeBytes m.attributes

/-- What a class file stands for: the class with its instance fields in their order. -/
def described (m : ClassInfo) : ClassDescriptor :=
  ⟨(m.pool.className? m.thisClass).getD [], m.flags.toNat,
    (m.fields.filter fun f => !f.isStatic).map (MemberInfo.described m.pool)⟩

/-- The sizes in a class file fit the words that declare them, and the indexes that have to name
something do. -/
structure WellFormed (m : ClassInfo) : Prop where
  slotsFit : m.pool.slotCount + 1 < 65536
  entriesFit : ∀ e ∈ m.pool, e.Fits
  interfacesFit : m.interfaces.length < 65536
  fieldsFit : m.fields.length < 65536
  fieldAttributesFit : ∀ f ∈ m.fields, AttributesFit f.attributes
  methodsFit : m.methods.length < 65536
  methodAttributesFit : ∀ f ∈ m.methods, AttributesFit f.attributes
  attributesFit : AttributesFit m.attributes
  named : (m.pool.className? m.thisClass).isSome
  fieldsResolve : ∀ f ∈ m.fields, f.Resolves m.pool

end ClassInfo

end TagAudit.ClassFile
