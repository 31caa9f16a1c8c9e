import TagAudit.Proofs.ClassFile.ClassFormat
import TagAudit.Proofs.ClassFile.Failing

/-!
# Where class files ask for constants

An index is looked up at certain places of a class file only, and each place says of which kind the
constant has to be. The places are told here by the bytes before them: whole items that came first
and whose indexes named what they had to, and the beginning of the item that the index belongs to.
Values of annotations nest, and so do the places in them.
-/

namespace TagAudit.ClassFile

open Reading

/-- The kind of constant that holds a form. -/
def ConstantForm.kind : ConstantForm → ConstantKind
  | byte | char | int | short | boolean => .integer
  | long => .long
  | float => .float
  | double => .double
  | string => .text

variable (pool : Pool)

/-- The spelling of a pair of a name and a value. -/
def pairBytes (pair : UInt16 × ElementInfo) : List UInt8 :=
  bytesOf 2 pair.1.toNat ++ pair.2.bytes

/-- The name of a pair is a text, and its value fits and resolves. -/
def IsPair (pair : UInt16 × ElementInfo) : Prop :=
  (pool.text? pair.1).isSome ∧ pair.2.Fits ∧ pair.2.Resolves pool

mutual
/-- The places in an element value. -/
inductive ElementSite : Site where
  /-- A letter that stands for a constant asks for it. -/
  | constant (form : ConstantForm) : ElementSite (bytesOf 1 form.tag) form.kind
  | enumType : ElementSite (bytesOf 1 'e'.toNat) .text
  | enumName (type : UInt16) (typed : (pool.text? type).isSome) :
      ElementSite (bytesOf 1 'e'.toNat ++ bytesOf 2 type.toNat) .text
  | classLiteral : ElementSite (bytesOf 1 'c'.toNat) .text
  | nested {used : List UInt8} {kind : ConstantKind} (inside : AnnotationSite used kind) :
      ElementSite (bytesOf 1 '@'.toNat ++ used) kind
  | item {before used : List UInt8} {kind : ConstantKind}
      (amid : Amid (fun e : ElementInfo => e.Fits ∧ e.Resolves pool) ElementInfo.bytes before)
      (inside : ElementSite used kind) : ElementSite (bytesOf 1 '['.toNat ++ (before ++ used)) kind

/-- The places in an annotation. -/
inductive AnnotationSite : Site where
  | type : AnnotationSite [] .text
  | pair (type : UInt16) (typed : (pool.text? type).isSome) {before used : List UInt8}
      {kind : ConstantKind} (amid : Amid (IsPair pool) pairBytes before)
      (inside : PairSite used kind) :
      AnnotationSite (bytesOf 2 type.toNat ++ (before ++ used)) kind

/-- The places in a pair of a name and a value. -/
inductive PairSite : Site where
  | name : PairSite [] .text
  | value (name : UInt16) (named : (pool.text? name).isSome) {used : List UInt8}
      {kind : ConstantKind} (inside : ElementSite used kind) :
      PairSite (bytesOf 2 name.toNat ++ used) kind
end

/-- The places in an attribute of a field. Only what is named as annotations of an instance field is
looked into. -/
inductive AttributeSite (isStatic : Bool) : Site where
  | name : AttributeSite isStatic [] .text
  | annotated (name : UInt16) (named : pool.text? name = some annotationsAttribute)
      (ofInstance : isStatic = false) (length : Nat) (fits : length < 4294967296)
      {before used : List UInt8} {kind : ConstantKind}
      (amid : Amid (fun a : AnnotationInfo => a.Fits ∧ a.Resolves pool) AnnotationInfo.bytes before)
      (inside : AnnotationSite pool used kind) :
      AttributeSite isStatic (bytesOf 2 name.toNat ++ (bytesOf 4 length ++ (before ++ used))) kind

/-- An attribute of a field that is read without trouble. -/
def IsFieldAttribute (isStatic : Bool) (a : AttributeInfo) : Prop :=
  a.Fits ∧ (pool.text? a.name).isSome ∧ (isStatic = false → a.Resolves pool)

/-- The places in a field. -/
inductive FieldSite : Site where
  | name (flags : UInt16) : FieldSite (bytesOf 2 flags.toNat) .text
  | descriptor (flags name : UInt16) (named : (pool.text? name).isSome) :
      FieldSite (bytesOf 2 flags.toNat ++ bytesOf 2 name.toNat) .text
  | attribute (flags name descriptor : UInt16) (named : (pool.text? name).isSome)
      (typed : (pool.text? descriptor).isSome) {before used : List UInt8} {kind : ConstantKind}
      (amid : Amid (IsFieldAttribute pool (flags.toNat.testBit 3)) AttributeInfo.bytes before)
      (inside : AttributeSite pool (flags.toNat.testBit 3) used kind) :
      FieldSite (bytesOf 2 flags.toNat ++ (bytesOf 2 name.toNat ++
        (bytesOf 2 descriptor.toNat ++ (before ++ used)))) kind

/-- The places in the fields of a class, from its superclass on. -/
inductive MembersSite : Site where
  | field (superClass : UInt16) (interfaces : List UInt16) (counted : interfaces.length < 65536)
      {before used : List UInt8} {kind : ConstantKind}
      (amid : Amid (fun m : MemberInfo => AttributesFit m.attributes ∧ m.Resolves pool)
        MemberInfo.bytes before)
      (inside : FieldSite pool used kind) :
      MembersSite (bytesOf 2 superClass.toNat ++ ((bytesOf 2 interfaces.length ++
        interfaces.flatMap fun index => bytesOf 2 index.toNat) ++ (before ++ used))) kind

end TagAudit.ClassFile
