/-!
# What can be wrong with a class file

A class file is refused for one of nine reasons. Each is stated by the numbers that show it: where
the bytes ran out, which constant was asked for, what a tag was. Who reads the file adds its name
and the wording; here a defect is a fact about the bytes alone.
-/

namespace TagAudit.ClassFile

/-- The seventeen kinds of constant that a pool may hold. -/
inductive ConstantKind where
  | text | integer | float | long | double | classRef | string
  | fieldRef | methodRef | interfaceMethodRef | nameAndType
  | methodHandle | methodType | dynamic | invokeDynamic | moduleName | packageName
deriving DecidableEq, Repr

namespace ConstantKind

/-- The byte that announces a constant. -/
def tag : ConstantKind → Nat
  | text => 1 | integer => 3 | float => 4 | long => 5 | double => 6
  | classRef => 7 | string => 8 | fieldRef => 9 | methodRef => 10 | interfaceMethodRef => 11
  | nameAndType => 12 | methodHandle => 15 | methodType => 16 | dynamic => 17
  | invokeDynamic => 18 | moduleName => 19 | packageName => 20

/-- The kind that a byte announces, if any. -/
def ofTag? : Nat → Option ConstantKind
  | 1 => some text | 3 => some integer | 4 => some float | 5 => some long | 6 => some double
  | 7 => some classRef | 8 => some string | 9 => some fieldRef | 10 => some methodRef
  | 11 => some interfaceMethodRef | 12 => some nameAndType | 15 => some methodHandle
  | 16 => some methodType | 17 => some dynamic | 18 => some invokeDynamic
  | 19 => some moduleName | 20 => some packageName
  | _ => none

/-- Tags and kinds name each other. -/
theorem ofTag?_tag (kind : ConstantKind) : ofTag? kind.tag = some kind := by
  cases kind <;> rfl

/-- The number of payload bytes. A text has its own length, after two bytes that give it. -/
def payload : ConstantKind → Nat
  | text => 2 | integer | float => 4 | long | double => 8
  | classRef | string | methodType | moduleName | packageName => 2
  | methodHandle => 3
  | fieldRef | methodRef | interfaceMethodRef | nameAndType | dynamic | invokeDynamic => 4

/-- Eight-byte constants take two pool slots, and the second stays empty. -/
def slots : ConstantKind → Nat
  | long | double => 2
  | _ => 1

/-- The name under which a kind is reported. Only kinds that a reader asks for have one. -/
def label? : ConstantKind → Option String
  | text => some "Utf8" | integer => some "Integer" | float => some "Float"
  | long => some "Long" | double => some "Double" | classRef => some "Class"
  | string => some "String"
  | _ => none

end ConstantKind

/-- Why a class file is refused. -/
inductive Defect where
  /-- Fewer bytes are left than a read wants, or a read wants a negative number of them. -/
  | truncated (offset : Nat) (wanted : Int) (available : Nat)
  /-- The file does not begin with the class file magic. -/
  | badMagic (magic : Nat)
  /-- No kind of constant has this tag. -/
  | badConstantTag (index tag : Nat)
  /-- The index lies outside the pool, or the slot holds no constant of the expected kind. -/
  | badConstantIndex (index : Nat) (expected : Option ConstantKind)
  /-- No form of element value has this tag. -/
  | badElementTag (tag offset : Nat)
  /-- An eight-byte constant begins in the last slot of the pool. -/
  | poolOverrun (count : Nat)
  /-- The bytes of a text constant are no text. -/
  | undecodableText (index : Nat)
  /-- The annotations of an attribute take more or fewer bytes than the attribute declares. -/
  | annotationLength (declared held offset : Nat)
  /-- Bytes follow the last attribute of the class. -/
  | trailingBytes (count : Nat)
deriving DecidableEq

end TagAudit.ClassFile
