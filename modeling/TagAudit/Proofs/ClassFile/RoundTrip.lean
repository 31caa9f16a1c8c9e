import TagAudit.Proofs.ClassFile.ClassFormat

/-!
# Writing and reading a class file

Reading back what was written yields what it stands for, and whatever is read has been written that
way: every accepted input is the spelling of a well-formed class file, down to the last byte. The
two directions together leave the parser no freedom. It can neither lose or change anything that a
class file says, nor accept bytes that no class file is spelled with.

Well-formed is only what a spelling needs. Sizes fit the words that declare them, and an index that
is looked up names an entry of the kind that is looked for. Indexes that nobody looks up, and what
stands in attributes that are passed over, may be anything.
-/

namespace TagAudit.ClassFile

/-- Reading a class file that was written yields what it stands for, whatever its pool, its members
and the depth of its annotations. -/
theorem parse_bytes (m : ClassInfo) (wellFormed : m.WellFormed) :
    parse m.bytes = .ok m.described :=
  (parse_eq_ok_iff m.bytes m.described).mpr ⟨m, wellFormed, rfl, rfl⟩

/-- A class with one constant that takes two slots, one static field, and one instance field that
is annotated with an array of an integer and a nested annotation. -/
def annotatedClass : ClassInfo where
  minorVersion := 0
  majorVersion := 52
  pool := [.classRef 2, .text (Utf8.encode "p/A"), .long 5, .text (Utf8.encode "x"),
    .text (Utf8.encode "I"), .text (Utf8.encode "RuntimeVisibleAnnotations"),
    .text (Utf8.encode "LTag;"), .text (Utf8.encode "value"), .integer 7]
  flags := 33
  thisClass := 1
  superClass := 0
  interfaces := []
  fields := [⟨8, 5, 6, []⟩,
    ⟨2, 5, 6, [⟨7, .annotations [⟨8, [(9, .array [.constant .int 10, .nested 8 []])]⟩]⟩]⟩]
  methods := []
  attributes := [⟨2, .payload [1, 2, 3]⟩]

/-- The sizes and the indexes of the annotated class are in order. -/
theorem annotatedClass_wellFormed : annotatedClass.WellFormed where
  slotsFit := by decide +kernel
  entriesFit := by
    simp only [annotatedClass, List.forall_mem_cons, PoolEntry.Fits, List.not_mem_nil,
      false_implies, implies_true]
    decide +kernel
  interfacesFit := by decide
  fieldsFit := by decide
  fieldAttributesFit := by
    have fits : (ElementInfo.array [.constant .int 10, .nested 8 []]).Fits :=
      .array _ (by decide) (by simp [ElementInfo.Fits.constant, ElementInfo.Fits.nested])
    simp [annotatedClass, AttributesFit, AttributeInfo.Fits, AttributeBody.bytes,
      AttributeBody.Fits, AnnotationInfo.Fits, AnnotationInfo.bytes, ElementInfo.bytes,
      ElementInfo.itemBytes, ElementInfo.pairBytes, fits]
  methodsFit := by decide
  methodAttributesFit := by simp [annotatedClass]
  attributesFit := by
    simp [annotatedClass, AttributesFit, AttributeInfo.Fits, AttributeBody.bytes,
      AttributeBody.Fits]
  named := by decide +kernel
  fieldsResolve := by
    have texts : ∀ index ∈ [2, 5, 6, 8, 9], (annotatedClass.pool.text? index).isSome := by
      apply List.all_eq_true.mp
      decide +kernel
    have resolves : (ElementInfo.array [.constant .int 10, .nested 8 []]).Resolves
        annotatedClass.pool := by
      apply ElementInfo.Resolves.array
      simp only [List.forall_mem_cons, List.not_mem_nil, false_implies, implies_true, and_true]
      exact ⟨.constant .int 10 (by decide +kernel), .nested 8 [] (texts 8 (by decide))
        (by simp) (by simp)⟩
    have announced : annotatedClass.pool.text? 7 = some annotationsAttribute := by
      decide +kernel
    refine List.forall_mem_cons.mpr ⟨?_, List.forall_mem_cons.mpr ⟨?_, by simp⟩⟩
    · exact ⟨texts 5 (by decide), texts 6 (by decide), by simp, by simp⟩
    · refine ⟨texts 5 (by decide), texts 6 (by decide), by simp [announced], fun _ => ?_⟩
      simp only [List.forall_mem_cons, List.not_mem_nil, false_implies, implies_true, and_true,
        AttributeInfo.Resolves, AnnotationInfo.Resolves]
      exact ⟨announced, texts 8 (by decide), texts 9 (by decide), resolves⟩

/-- The annotated class is read back with its one instance field. -/
theorem annotatedClass_read :
    annotatedClass.WellFormed ∧ annotatedClass.described.fields.map Field.name = [("x" : Text)] ∧
      parse annotatedClass.bytes = .ok annotatedClass.described :=
  ⟨annotatedClass_wellFormed, by decide +kernel,
    parse_bytes annotatedClass annotatedClass_wellFormed⟩

/-- Whatever is read has been written: the input is the spelling of a well-formed class file, with
no byte left over, and the class described is what that class file stands for. -/
theorem exists_classInfo_of_parse (data : List UInt8) (described : ClassDescriptor)
    (parsed : parse data = .ok described) :
    ∃ m : ClassInfo, m.WellFormed ∧ m.bytes = data ∧ m.described = described :=
  (parse_eq_ok_iff data described).mp parsed

/-- The bytes of a class with a constant that takes two slots and one annotated field. -/
def compiledClass : List UInt8 :=
  [0xCA, 0xFE, 0xBA, 0xBE, 0, 0, 0, 52, 0, 8,
    7, 0, 2, 1, 0, 1, 0x41, 5, 0, 0, 0, 0, 0, 0, 0, 9, 3, 0, 0, 0, 7,
    1, 0, 25, 0x52, 0x75, 0x6E, 0x74, 0x69, 0x6D, 0x65, 0x56, 0x69, 0x73, 0x69, 0x62, 0x6C, 0x65,
    0x41, 0x6E, 0x6E, 0x6F, 0x74, 0x61, 0x74, 0x69, 0x6F, 0x6E, 0x73,
    1, 0, 1, 0x49,
    0, 33, 0, 1, 0, 0, 0, 0, 0, 1,
    0, 2, 0, 2, 0, 7, 0, 1, 0, 6, 0, 0, 0, 11, 0, 1, 0, 2, 0, 1, 0, 2, 0x49, 0, 5,
    0, 0, 0, 0]

/-- The compiled class is read, so it is the spelling of a well-formed class file. -/
theorem compiledClass_written :
    ∃ described, parse compiledClass = .ok described ∧
      ∃ m : ClassInfo, m.WellFormed ∧ m.bytes = compiledClass ∧ m.described = described := by
  have accepted : (parse compiledClass).toOption.isSome := by decide +kernel
  cases parsed : parse compiledClass with
  | error defect => simp [parsed, Except.toOption] at accepted
  | ok described =>
    exact ⟨described, rfl, exists_classInfo_of_parse compiledClass described parsed⟩

end TagAudit.ClassFile
