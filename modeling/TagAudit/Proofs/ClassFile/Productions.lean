import TagAudit.ClassFile.Layout
import TagAudit.Proofs.ClassFile.Reads

/-!
# Productions of the layout

Each reading of the layout is brought into one form here: smaller readings bound one after another,
with every repetition under its count. A property that binds and counted repetitions inherit is
then shown of a production by going through it once, whatever the property is.
-/

namespace TagAudit.ClassFile

open Reading

namespace ConstantKind

/-- An entry takes up two slots, or one. -/
theorem slots_cases (kind : ConstantKind) : kind.slots = 2 ∨ kind.slots = 1 := by
  cases kind <;> simp [slots]

/-- An entry takes up some slot. -/
theorem slots_pos (kind : ConstantKind) : 0 < kind.slots := by
  rcases kind.slots_cases with two | one <;> omega

end ConstantKind

/-- A constant takes its own slot and leaves those behind it empty. There have to be as many slots
left as it takes. -/
theorem ConstantPool.fill_succ (count left : Nat) (slots : Array (Option Constant)) :
    fill count (left + 1) slots = Reading.u1.bind fun tag =>
      (ConstantKind.ofTag? tag).elim (.fail (.badConstantTag slots.size tag)) fun kind =>
        (Constant.reading kind).bind fun constant =>
          if kind.slots ≤ left + 1 then
            fill count (left + 1 - kind.slots)
              (slots ++ (some constant :: List.replicate (kind.slots - 1) none).toArray)
          else .fail (.poolOverrun count) := by
  rw [fill]
  congr
  funext tag
  cases ConstantKind.ofTag? tag with
  | none => rfl
  | some kind =>
    dsimp only [Option.elim]
    congr
    funext constant
    rcases kind.slots_cases with two | one
    · have filled : (slots.push (some constant)).push none =
          slots ++ #[some constant, none] := by
        apply Array.ext'
        simp
      cases left with
      | zero => simp [two]
      | succ left => simp [two, filled]
    · simp [one]

variable (pool : ConstantPool)

/-- An annotation is an index of its type and counted pairs. -/
theorem annotationOver_eq (inner : Reading ElementValue) :
    annotationOver pool inner = (textReading pool).bind fun desc =>
      (counted ((textReading pool).bind fun name => inner.bind fun value =>
        .done (name, value))).bind fun pairs => .done ⟨desc, pairs⟩ := by
  simp only [annotationOver, counted, bind_eq, pure_eq, bind_assoc]

/-- What is read behind the tag of a form, given how to read nested values. -/
def bodyReading (inner : Reading ElementValue) : ElementForm → Reading ElementValue
  | .integer =>
    (constantReading pool .integer Constant.integer?).bind fun n => .done (.int n)
  | .character =>
    (constantReading pool .integer Constant.integer?).bind fun n =>
      .done (.text [CodePoint.ofNat (n % 0x10000).toNat])
  | .boolean =>
    (constantReading pool .integer Constant.integer?).bind fun n => .done (.bool (n != 0))
  | .long => (constantReading pool .long Constant.long?).bind fun n => .done (.int n)
  | .float => (constantReading pool .float Constant.float?).bind fun x => .done (.real x)
  | .double => (constantReading pool .double Constant.double?).bind fun x => .done (.real x)
  | .string => (textReading pool).bind fun t => .done (.text t)
  | .enum => (textReading pool).bind fun desc =>
    (textReading pool).bind fun name => .done (.enum desc name)
  | .classLiteral => (textReading pool).bind fun desc => .done (.classLiteral desc)
  | .nested => (annotationOver pool inner).bind fun a => .done a.toElement
  | .array => (counted inner).bind fun items => .done (.array items)

/-- An element value is read as its tag and what the tag announces. -/
theorem elementValueOver_eq (inner : Unit → Reading ElementValue) :
    elementValueOver pool inner = Reading.offset.bind fun offset => Reading.u1.bind fun tag =>
      match ElementForm.ofTag? tag with
      | none => .fail (.badElementTag tag offset)
      | some form => bodyReading pool (inner ()) form := by
  rw [elementValueOver, bind_eq]
  congr
  funext offset
  rw [bind_eq]
  congr
  funext tag
  cases ElementForm.ofTag? tag with
  | none => rfl
  | some form =>
    cases form with
    | array => simp only [bodyReading, counted, bind_eq, pure_eq, bind_assoc]
    | _ => rfl

/-- The annotations of an attribute are counted, and measured from the first byte to the last. -/
theorem annotationsReading_eq (levels declared : Nat) :
    annotationsReading pool levels declared = Reading.offset.bind fun start =>
      (counted (annotationReading pool levels)).bind fun annotations =>
        Reading.offset.bind fun stop =>
          if stop - start = declared then .done annotations
          else .fail (.annotationLength declared (stop - start) start) := by
  simp only [annotationsReading, counted, bind_eq, pure_eq, bind_assoc]

/-- An attribute of a field is decoded or passed over, as its name and the field decide. -/
theorem fieldAttribute_eq (levels : Nat) (isStatic : Bool) :
    fieldAttribute pool levels isStatic = (textReading pool).bind fun name =>
      Reading.u4.bind fun length =>
        if name = annotationsAttribute ∧ !isStatic then annotationsReading pool levels length
        else (Reading.pass length).bind fun _ => .done [] := rfl

/-- A field is its flags, two indexes and counted attributes. -/
theorem fieldReading_eq (levels : Nat) :
    fieldReading pool levels = Reading.u2.bind fun flags =>
      (textReading pool).bind fun name => (textReading pool).bind fun descriptor =>
        (counted (fieldAttribute pool levels (flags / 8 % 2 == 1))).bind fun annotations =>
          .done (if flags / 8 % 2 == 1 then none
            else some ⟨name, descriptor, flags, annotations.flatten⟩) := by
  simp only [fieldReading, counted, bind_eq, pure_eq, bind_assoc]

/-- An attribute that is passed over is a word, a length and as many bytes. -/
theorem passAttribute_eq :
    passAttribute = (Reading.pass 2).bind fun _ => Reading.u4.bind Reading.pass := rfl

/-- Attributes that are passed over are counted. -/
theorem passAttributes_eq :
    passAttributes = (counted passAttribute).bind fun _ => .done () := by
  simp only [passAttributes, counted, bind_eq, pure_eq, bind_assoc]

/-- A method is three words and its attributes. -/
theorem passMethod_eq : passMethod = (Reading.pass 6).bind fun _ => passAttributes := rfl

/-- What follows the magic of a class file. -/
def afterMagic (levels : Nat) : Reading ClassDescriptor :=
  (Reading.pass 2).bind fun _ => (Reading.pass 2).bind fun _ =>
    ConstantPool.reading.bind fun pool => Reading.u2.bind fun flags =>
      (Reading.u2.bind fun index => .ofExcept (pool.className index)).bind fun name =>
        (Reading.pass 2).bind fun _ =>
          (Reading.u2.bind fun count => Reading.pass (2 * count)).bind fun _ =>
            (counted (fieldReading pool levels)).bind fun fields =>
              (counted passMethod).bind fun _ => passAttributes.bind fun _ =>
                .done ⟨name, flags, fields.filterMap id⟩

/-- A class file is the magic and what follows it. -/
theorem classReading_eq (levels : Nat) :
    classReading levels = Reading.u4.bind fun first =>
      if first ≠ magic then .fail (.badMagic first) else afterMagic levels := by
  simp only [classReading, afterMagic, counted, bind_eq, pure_eq, bind_assoc]

end TagAudit.ClassFile
