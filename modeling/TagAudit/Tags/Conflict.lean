import TagAudit.ClassFile.Descriptor
import TagAudit.Log.Entry

/-!
# Tags and conflicts

A field has a tag when its first annotation of the tag type gives an integer: under the element
`value`, or as its only element. Two instance fields of one class with one tag are in conflict.
Under each tag that is reused, one conflict is recorded. It names the last of the fields that share
the tag, and the records stand in the order in which tags were first reused.

Classes are judged one by one. Tags shared by fields of different classes are no conflict.
-/

namespace TagAudit

open ClassFile

/-- The type of annotation that carries a tag unless settings name another. -/
def defaultTagType : Text := "Lio/protostuff/Tag;"

namespace ClassFile

/-- The integer that an element value is; truth values are none. -/
def ElementValue.int? : ElementValue → Option Int
  | .int n => some n
  | _ => none

/-- The value that a tag annotation gives: that of its first element `value`, or else that of its
    only element. -/
def Annotation.tagValue? (a : Annotation) : Option ElementValue :=
  match a.get? "value" with
  | some value => some value
  | none =>
    match a.pairs with
    | [(_, value)] => some value
    | _ => none

/-- The tag of a field. -/
def Field.tag? (tagType : Text) (f : Field) : Option Int :=
  ((f.findAnnotation? tagType).bind Annotation.tagValue?).bind ElementValue.int?

/-- The fields that instances have, in the order of their declaration. -/
def ClassDescriptor.instanceFields (c : ClassDescriptor) : List Field :=
  c.fields.filter fun f => !f.isStatic

end ClassFile

/-- A field that reuses a tag of its class. -/
structure Conflict where
  className : Text
  fieldName : Text
  tag : Int
deriving DecidableEq

namespace Conflict

/-- A conflict on one line. -/
def line (c : Conflict) : Text :=
  c.className ++ "#" ++ c.fieldName ++ " (tag=" ++ Text.ofInt c.tag ++ ")"

/-- A conflict as data. -/
def toData (c : Conflict) : Data :=
  .ofFields [("class_name", .text c.className), ("field_name", .text c.fieldName),
    ("tag_value", .int c.tag)]

end Conflict

/-- The conflicts of one class by tag. -/
abbrev Conflicts := Keyed Int Conflict

namespace Conflicts

/-- The tags of a class: for each instance field that has one, its name and its tag. -/
def taggedFields (tagType : Text) (c : ClassDescriptor) : List (Text × Int) :=
  c.instanceFields.filterMap fun f => (f.tag? tagType).map fun tag => (f.name, tag)

/-- Goes through tagged fields with the tags seen so far and the conflicts recorded so far. -/
def collect (className : Text) : (seen : List Int) → Conflicts → List (Text × Int) → Conflicts
  | _, conflicts, [] => conflicts
  | seen, conflicts, (name, tag) :: rest =>
    if tag ∈ seen then collect className seen (conflicts.put tag ⟨className, name, tag⟩) rest
    else collect className (tag :: seen) conflicts rest

/-- The conflicts of a class. -/
def ofClass (tagType : Text) (c : ClassDescriptor) : Conflicts :=
  collect c.dottedName [] [] (taggedFields tagType c)

/-- The entries made while a class is examined: one for each instance field. -/
def trace (tagType : Text) (logger : Log.Logger) (c : ClassDescriptor) : List Log.Entry :=
  c.instanceFields.map fun f =>
    logger.entry .debug "process_field"
      [("class_name", .text c.dottedName), ("field", .text f.name),
        ("tag", ((f.tag? tagType).map Data.int).getD .null)]

end Conflicts

end TagAudit
