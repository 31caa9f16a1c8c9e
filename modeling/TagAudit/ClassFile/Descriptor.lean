import TagAudit.Text
import TagAudit.Binary64

/-!
# Class descriptors

What the audit needs to know of a class: its name, its instance fields in the order of their
declaration, and the annotations on each field that are visible at run time. Methods, code and
debug tables leave no trace here.
-/

namespace TagAudit.ClassFile

/-- The value of an annotation element. -/
inductive ElementValue where
  /-- No value. A class file never yields it; a description written by hand may. -/
  | null
  | int (n : Int)
  | bool (b : Bool)
  | real (x : Binary64)
  | text (t : Text)
  /-- A constant of an enumeration, by the descriptor of its type and its name. -/
  | enum (desc name : Text)
  /-- A class literal, by its descriptor. -/
  | classLiteral (desc : Text)
  /-- A nested annotation: the descriptor of its type and its pairs. -/
  | nested (desc : Text) (pairs : List (Text × ElementValue))
  | array (items : List ElementValue)

/-- An annotation: the descriptor of its type and its element pairs in order. -/
structure Annotation where
  desc : Text
  pairs : List (Text × ElementValue)

namespace Annotation

/-- The value of the first pair with a name. -/
def get? (a : Annotation) (name : Text) : Option ElementValue :=
  (a.pairs.find? fun pair => pair.1 == name).map Prod.snd

/-- The names of all pairs, in order and with repetitions. -/
def keys (a : Annotation) : List Text := a.pairs.map Prod.fst

/-- The annotation as an element of another one. -/
def toElement (a : Annotation) : ElementValue := .nested a.desc a.pairs

end Annotation

/-- A field with its annotations. -/
structure Field where
  name : Text
  descriptor : Text
  accessFlags : Int
  annotations : List Annotation

/-- The access flag of fields that belong to the class and not to its instances. -/
def staticFlag : Int := 8

namespace Field

/-- Whether the flags, as two's complement bits, have the static one set. -/
def isStatic (f : Field) : Bool := f.accessFlags / staticFlag % 2 == 1

/-- The first annotation of a type. -/
def findAnnotation? (f : Field) (desc : Text) : Option Annotation :=
  f.annotations.find? fun a => a.desc == desc

end Field

/-- A class: its name with slashes, its flags and its fields. -/
structure ClassDescriptor where
  name : Text
  accessFlags : Int
  fields : List Field

/-- The name as source code spells it, with dots for slashes. -/
def ClassDescriptor.dottedName (c : ClassDescriptor) : Text := c.name.exchange '/' '.'

/-- Place by place, a dot stands where a slash stood, and everything else as it was. -/
theorem ClassDescriptor.getElem?_dottedName (c : ClassDescriptor) (place : Nat) :
    c.dottedName[place]? =
      c.name[place]?.map fun point : CodePoint =>
        if point = '/' then ('.' : CodePoint) else point := by
  rw [dottedName, Text.exchange, List.getElem?_map]

/-- No slash is left in it. -/
theorem ClassDescriptor.not_mem_dottedName (c : ClassDescriptor) :
    ('/' : CodePoint) ∉ c.dottedName := by
  intro left
  obtain ⟨place, there⟩ := List.mem_iff_getElem?.mp left
  rw [getElem?_dottedName, Option.map_eq_some_iff] at there
  obtain ⟨point, -, same⟩ := there
  split at same
  · exact absurd same (by decide)
  · contradiction

end TagAudit.ClassFile
