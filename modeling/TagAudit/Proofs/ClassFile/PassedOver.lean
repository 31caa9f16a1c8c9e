import TagAudit.Proofs.ClassFile.RoundTrip

/-!
# Deciding that a part of a class is passed over

A reader goes over the annotations of an instance field one by one and takes their length from what
it reads. Over those of a static field, and over any other attribute, it goes by the length that is
declared. A single bit of a field and a single index of an attribute decide which of the two
happens, and both can be rewritten where they stand in the bytes.

Such a rewriting takes away what is no longer read and nothing else. Everything behind the rewritten
place would be misread if the two ways of going over a part ever arrived at different places.
-/

namespace TagAudit.ClassFile

/-- Bytes with those from an offset on replaced by others. -/
def overwrite (data : List UInt8) (offset : Nat) (replacement : List UInt8) : List UInt8 :=
  data.take offset ++ replacement ++ data.drop (offset + replacement.length)

/-- A part that is known to stand at an offset is replaced by a part of the same length. -/
theorem overwrite_part (before part replacement after : List UInt8)
    (same : replacement.length = part.length) :
    overwrite (before ++ part ++ after) before.length replacement =
      before ++ replacement ++ after := by
  have front : (before ++ part ++ after).take before.length = before := by
    simp
  have back : (before ++ part ++ after).drop (before.length + replacement.length) = after := by
    rw [same, ← List.length_append, List.drop_left]
  rw [overwrite, front, back]

/-- The second byte of a part that is known to stand at an offset is changed alone. -/
theorem modify_second (change : UInt8 → UInt8) (before : List UInt8) (first second : UInt8)
    (after : List UInt8) :
    (before ++ first :: second :: after).modify (before.length + 1) change =
      before ++ first :: change second :: after :=
  List.modifyTailIdx_add (List.modifyHead change) 1 before _

section Items

variable {α β : Type} (parts : α → List β)

/-- What an item contributes stands between what those around it do, also if the item is put there
in place of another. -/
theorem flatMap_set (items : List α) (k : Nat) (item : α) (inside : k < items.length) :
    (items.set k item).flatMap parts =
      (items.take k).flatMap parts ++ parts item ++ (items.drop (k + 1)).flatMap parts := by
  rw [List.set_eq_take_append_cons_drop, if_pos inside, List.flatMap_append, List.flatMap_cons,
    List.append_assoc]

/-- Putting an item where it already stands changes nothing. -/
theorem set_self_of_getElem? (items : List α) (k : Nat) (item : α)
    (found : items[k]? = some item) : items.set k item = items := by
  obtain ⟨inside, rfl⟩ := List.getElem?_eq_some_iff.mp found
  exact List.set_getElem_self inside

end Items

namespace MemberInfo

/-- The spelling of a member up to the attribute at a position. -/
def beforeAttribute (f : MemberInfo) (j : Nat) : List UInt8 :=
  bytesOf 2 f.flags.toNat ++ bytesOf 2 f.name.toNat ++ bytesOf 2 f.descriptor.toNat
    ++ bytesOf 2 f.attributes.length ++ (f.attributes.take j).flatMap AttributeInfo.bytes

/-- How far into a member the attribute at a position begins. -/
def attributeOffset (f : MemberInfo) (j : Nat) : Nat := (f.beforeAttribute j).length

/-- The member with another attribute at a position. -/
def withAttribute (f : MemberInfo) (j : Nat) (a : AttributeInfo) : MemberInfo :=
  { f with attributes := f.attributes.set j a }

/-- The member marked as one of the class. -/
def marked (f : MemberInfo) : MemberInfo := { f with flags := f.flags ||| 8 }

/-- What an instance field stands for when the attribute at a position is not read. -/
def describedWithout (pool : Pool) (f : MemberInfo) (j : Nat) : Field :=
  { f.described pool with
    annotations := (f.attributes.eraseIdx j).flatMap (AttributeInfo.annotations pool) }

variable (f : MemberInfo) (j : Nat) (a : AttributeInfo)

/-- An attribute is spelled between those around it, whichever it is. -/
theorem bytes_withAttribute (inside : j < f.attributes.length) :
    (f.withAttribute j a).bytes =
      f.beforeAttribute j ++ a.bytes
        ++ (f.attributes.drop (j + 1)).flatMap AttributeInfo.bytes := by
  simp [withAttribute, bytes, attributeBytes, beforeAttribute, flatMap_set _ _ _ _ inside]

/-- A member is spelled around each of its attributes. -/
theorem bytes_eq_around {f : MemberInfo} {j : Nat} {a : AttributeInfo}
    (located : f.attributes[j]? = some a) :
    f.bytes = f.beforeAttribute j ++ a.bytes
      ++ (f.attributes.drop (j + 1)).flatMap AttributeInfo.bytes := by
  have inside : j < f.attributes.length := (List.getElem?_eq_some_iff.mp located).1
  have same : f.withAttribute j a = f := by
    rw [withAttribute, set_self_of_getElem? _ _ _ located]
  rw [← bytes_withAttribute f j a inside, same]

/-- A marked member belongs to the class. -/
@[simp] theorem isStatic_marked : f.marked.isStatic = true := by
  have bits : (f.flags ||| 8).toNat = f.flags.toNat ||| 8 := UInt16.toNat_or f.flags 8
  have mark : Nat.testBit 8 3 = true := by decide
  simp only [isStatic, marked, bits, Nat.testBit_or, mark, Bool.or_true]

/-- The mark is one bit of the second byte of the member. -/
theorem exists_flagBytes : ∃ (high low : UInt8) (rest : List UInt8),
    f.bytes = high :: low :: rest ∧ f.marked.bytes = high :: (low ||| 8) :: rest := by
  have bits : (f.flags ||| 8).toNat = f.flags.toNat ||| 8 := UInt16.toNat_or f.flags 8
  have high : (f.flags.toNat ||| 8) / 256 = f.flags.toNat / 256 := by
    simpa using Nat.or_div_two_pow (a := f.flags.toNat) (b := 8) (n := 8)
  refine ⟨UInt8.ofNat (f.flags.toNat / 256), UInt8.ofNat f.flags.toNat,
    bytesOf 2 f.name.toNat ++ bytesOf 2 f.descriptor.toNat ++ attributeBytes f.attributes, ?_, ?_⟩
  · simp [bytes, bytesOf]
  · simp [bytes, marked, bytesOf, bits, high]

variable {f j a} {pool : Pool}

/-- What a member has to name as one of the class it also has to name as one of the instances. -/
theorem Resolves.marked (resolves : f.Resolves pool) : f.marked.Resolves pool where
  named := resolves.named
  typed := resolves.typed
  attributesNamed := resolves.attributesNamed
  annotated := by simp

/-- An attribute that resolves may take the place of another. -/
theorem Resolves.withAttribute (resolves : f.Resolves pool) (named : (pool.text? a.name).isSome)
    (annotated : f.isStatic = false → a.Resolves pool) : (f.withAttribute j a).Resolves pool where
  named := resolves.named
  typed := resolves.typed
  attributesNamed := by
    intro x member
    obtain old | rfl := List.mem_or_eq_of_mem_set member
    · exact resolves.attributesNamed x old
    · exact named
  annotated := by
    intro instanceField x member
    obtain old | rfl := List.mem_or_eq_of_mem_set member
    · exact resolves.annotated instanceField x old
    · exact annotated instanceField

/-- Sizes that fit still do after one attribute is replaced by another that fits. -/
theorem attributesFit_withAttribute (fit : AttributesFit f.attributes) (own : a.Fits) :
    AttributesFit (f.withAttribute j a).attributes := by
  refine ⟨by simpa [withAttribute] using fit.1, fun x member => ?_⟩
  obtain old | rfl := List.mem_or_eq_of_mem_set member
  · exact fit.2 x old
  · exact own

/-- An attribute without annotations in the place of another takes those of the other away. -/
theorem described_withAttribute (inside : j < f.attributes.length)
    (bare : a.annotations pool = []) :
    (f.withAttribute j a).described pool = f.describedWithout pool j := by
  simp [withAttribute, described, describedWithout, flatMap_set _ _ _ _ inside, bare,
    List.eraseIdx_eq_take_drop_succ]

end MemberInfo

namespace AttributeInfo

/-- The attribute under another name. What it holds is bytes then, of whatever meaning. -/
def renamed (a : AttributeInfo) (index : UInt16) : AttributeInfo :=
  ⟨index, .payload a.body.bytes⟩

variable (a : AttributeInfo) (index : UInt16)

/-- The name of an attribute is its first two bytes. -/
theorem bytes_eq : a.bytes =
    bytesOf 2 a.name.toNat ++ (bytesOf 4 a.body.bytes.length ++ a.body.bytes) :=
  List.append_assoc ..

/-- An attribute is as long under any name. -/
theorem bytes_renamed : (a.renamed index).bytes =
    bytesOf 2 index.toNat ++ (bytesOf 4 a.body.bytes.length ++ a.body.bytes) :=
  bytes_eq _

variable {a index}

/-- What fits under one name fits under any. -/
theorem Fits.renamed (fits : a.Fits) : (a.renamed index).Fits := ⟨fits.1, trivial⟩

end AttributeInfo

namespace ClassInfo

/-- The spelling of a class file up to the field at a position. -/
def beforeField (m : ClassInfo) (k : Nat) : List UInt8 :=
  bytesOf 4 magic ++ bytesOf 2 m.minorVersion.toNat ++ bytesOf 2 m.majorVersion.toNat
    ++ bytesOf 2 (m.pool.slotCount + 1) ++ m.pool.flatMap PoolEntry.bytes
    ++ bytesOf 2 m.flags.toNat ++ bytesOf 2 m.thisClass.toNat ++ bytesOf 2 m.superClass.toNat
    ++ bytesOf 2 m.interfaces.length ++ m.interfaces.flatMap (fun index => bytesOf 2 index.toNat)
    ++ bytesOf 2 m.fields.length ++ (m.fields.take k).flatMap MemberInfo.bytes

/-- The spelling of a class file behind the field at a position. -/
def afterField (m : ClassInfo) (k : Nat) : List UInt8 :=
  (m.fields.drop (k + 1)).flatMap MemberInfo.bytes
    ++ bytesOf 2 m.methods.length ++ m.methods.flatMap MemberInfo.bytes
    ++ attributeBytes m.attributes

/-- Where the field at a position begins. -/
def fieldOffset (m : ClassInfo) (k : Nat) : Nat := (m.beforeField k).length

/-- The class file with another field at a position. -/
def withField (m : ClassInfo) (k : Nat) (f : MemberInfo) : ClassInfo :=
  { m with fields := m.fields.set k f }

/-- The number of instance fields in front of the field at a position. -/
def instancesBefore (m : ClassInfo) (k : Nat) : Nat :=
  (m.fields.take k).countP fun f => !f.isStatic

variable (m : ClassInfo) (k : Nat) (f : MemberInfo)

/-- A field is spelled between what is in front of it and behind it, whichever it is. -/
theorem bytes_withField (inside : k < m.fields.length) :
    (m.withField k f).bytes = m.beforeField k ++ f.bytes ++ m.afterField k := by
  simp [withField, bytes, beforeField, afterField, flatMap_set _ _ _ _ inside]

variable {m k f} {j : Nat} {a : AttributeInfo} {index : UInt16}

/-- A class file has the field that it has. -/
theorem withField_self (found : m.fields[k]? = some f) : m.withField k f = m := by
  rw [withField, set_self_of_getElem? _ _ _ found]

/-- A class file is spelled around each of its fields. -/
theorem bytes_eq_around (found : m.fields[k]? = some f) :
    m.bytes = m.beforeField k ++ f.bytes ++ m.afterField k := by
  have inside : k < m.fields.length := (List.getElem?_eq_some_iff.mp found).1
  rw [← bytes_withField m k f inside, withField_self found]

/-- Setting one bit of one byte marks the field that stands there. -/
theorem modify_bytes (found : m.fields[k]? = some f) :
    m.bytes.modify (m.fieldOffset k + 1) (· ||| 8) = (m.withField k f.marked).bytes := by
  have inside : k < m.fields.length := (List.getElem?_eq_some_iff.mp found).1
  obtain ⟨high, low, rest, plain, marked⟩ := f.exists_flagBytes
  rw [bytes_eq_around found, bytes_withField m k f.marked inside, plain, marked]
  simp only [List.append_assoc, List.cons_append]
  exact modify_second (· ||| 8) (m.beforeField k) high low (rest ++ m.afterField k)

/-- Overwriting two bytes gives the attribute that stands there another name. -/
theorem overwrite_bytes (found : m.fields[k]? = some f) (located : f.attributes[j]? = some a) :
    overwrite m.bytes (m.fieldOffset k + f.attributeOffset j) (bytesOf 2 index.toNat) =
      (m.withField k (f.withAttribute j (a.renamed index))).bytes := by
  have inside : k < m.fields.length := (List.getElem?_eq_some_iff.mp found).1
  have within : j < f.attributes.length := (List.getElem?_eq_some_iff.mp located).1
  have rewritten := overwrite_part (m.beforeField k ++ f.beforeAttribute j)
    (bytesOf 2 a.name.toNat) (bytesOf 2 index.toNat)
    (bytesOf 4 a.body.bytes.length ++ a.body.bytes
      ++ (f.attributes.drop (j + 1)).flatMap AttributeInfo.bytes ++ m.afterField k) (by simp)
  rw [bytes_eq_around found, MemberInfo.bytes_eq_around located, AttributeInfo.bytes_eq,
    bytes_withField m k _ inside, MemberInfo.bytes_withAttribute f j _ within,
    AttributeInfo.bytes_renamed]
  simpa [fieldOffset, MemberInfo.attributeOffset] using rewritten

/-- A class file stays well formed with another field in the place of one, if that field fits and
resolves. -/
theorem WellFormed.withField (wellFormed : m.WellFormed) (fit : AttributesFit f.attributes)
    (resolves : f.Resolves m.pool) : (m.withField k f).WellFormed where
  slotsFit := wellFormed.slotsFit
  entriesFit := wellFormed.entriesFit
  interfacesFit := wellFormed.interfacesFit
  fieldsFit := by simpa [ClassInfo.withField] using wellFormed.fieldsFit
  fieldAttributesFit := by
    intro x member
    obtain old | rfl := List.mem_or_eq_of_mem_set member
    · exact wellFormed.fieldAttributesFit x old
    · exact fit
  methodsFit := wellFormed.methodsFit
  methodAttributesFit := wellFormed.methodAttributesFit
  attributesFit := wellFormed.attributesFit
  named := wellFormed.named
  fieldsResolve := by
    intro x member
    obtain old | rfl := List.mem_or_eq_of_mem_set member
    · exact wellFormed.fieldsResolve x old
    · exact resolves

/-- What the instance fields among some fields stand for. -/
def instances (pool : Pool) (fields : List MemberInfo) : List Field :=
  (fields.filter fun f => !f.isStatic).map (MemberInfo.described pool)

/-- The instance fields are those of each field in turn, of which a static one has none. -/
theorem instances_eq_flatMap (pool : Pool) (fields : List MemberInfo) :
    instances pool fields =
      fields.flatMap fun f => if f.isStatic then [] else [f.described pool] := by
  induction fields with
  | nil => rfl
  | cons f rest inductionHypothesis =>
    by_cases static : f.isStatic = true
    · simpa [instances, static] using inductionHypothesis
    · simpa [instances, static] using inductionHypothesis

/-- The instance fields of a class file around one of its fields, whichever that is. -/
theorem exists_fields_around (found : m.fields[k]? = some f) :
    ∃ before after : List Field, before.length = m.instancesBefore k ∧
      m.described.fields =
        before ++ (if f.isStatic then [] else [f.described m.pool]) ++ after ∧
      ∀ f' : MemberInfo, (m.withField k f').described = { m.described with
        fields := before ++ (if f'.isStatic then [] else [f'.described m.pool]) ++ after } := by
  have inside : k < m.fields.length := (List.getElem?_eq_some_iff.mp found).1
  have around (f' : MemberInfo) : instances m.pool (m.fields.set k f') =
      instances m.pool (m.fields.take k) ++ (if f'.isStatic then [] else [f'.described m.pool])
        ++ instances m.pool (m.fields.drop (k + 1)) := by
    simp only [instances_eq_flatMap, flatMap_set _ _ _ _ inside]
  refine ⟨instances m.pool (m.fields.take k), instances m.pool (m.fields.drop (k + 1)), ?_, ?_, ?_⟩
  · simp [instances, instancesBefore, List.countP_eq_length_filter]
  · rw [← around f, set_self_of_getElem? _ _ _ found]
    rfl
  · intro f'
    rw [← around f']
    rfl

/-- A marked field is gone from the class, and nothing else is. -/
theorem described_marked (found : m.fields[k]? = some f) (instanceField : f.isStatic = false) :
    m.described.fields[m.instancesBefore k]? = some (f.described m.pool) ∧
      (m.withField k f.marked).described = { m.described with
        fields := m.described.fields.eraseIdx (m.instancesBefore k) } := by
  obtain ⟨before, after, counted, own, around⟩ := exists_fields_around found
  rw [around f.marked, own, instanceField, ← counted]
  simp [List.eraseIdx_append_of_length_le]

/-- Another field with the static bit of the one in its place changes that field at most. -/
theorem described_withField (found : m.fields[k]? = some f) (f' : MemberInfo)
    (sameBit : f'.isStatic = f.isStatic) :
    (m.withField k f').described = if f.isStatic then m.described else { m.described with
      fields := m.described.fields.set (m.instancesBefore k) (f'.described m.pool) } := by
  obtain ⟨before, after, counted, own, around⟩ := exists_fields_around found
  rw [around f', sameBit, ← counted]
  cases static : f.isStatic with
  | true =>
    have none : before ++ after = m.described.fields := by simp [own, static]
    simp [none]
  | false => simp [own, static]

end ClassInfo

/-- A byte string is accepted exactly as the spelling of what it stands for, and two of its parts
can be rewritten to have others passed over. With its static bit set a field disappears from the
class, and every other field stays as it was. With another name an attribute of annotations
disappears from its field, and every other attribute of the field stays. -/
theorem parse_passedOver (data : List UInt8) (described : ClassDescriptor)
    (accepted : parse data = .ok described) :
    (∃ m : ClassInfo, m.WellFormed ∧ m.bytes = data) ∧
      ∀ m : ClassInfo, m.WellFormed → m.bytes = data → m.described = described ∧
        ∀ (k : Nat) (f : MemberInfo), m.fields[k]? = some f →
          (f.isStatic = false →
            described.fields[m.instancesBefore k]? = some (f.described m.pool) ∧
            parse (data.modify (m.fieldOffset k + 1) (· ||| 8)) =
              .ok { described with
                fields := described.fields.eraseIdx (m.instancesBefore k) }) ∧
          ∀ (j : Nat) (a : AttributeInfo), f.attributes[j]? = some a →
            m.pool.text? a.name = some annotationsAttribute →
            ∀ (index : UInt16) (name : Text), m.pool.text? index = some name →
              name ≠ annotationsAttribute →
              parse (overwrite data (m.fieldOffset k + f.attributeOffset j)
                  (bytesOf 2 index.toNat)) =
                .ok (if f.isStatic then described else { described with
                  fields := described.fields.set (m.instancesBefore k)
                    (f.describedWithout m.pool j) }) := by
  obtain ⟨written, wellWritten, spelled, meant⟩ := (parse_eq_ok_iff data described).mp accepted
  refine ⟨⟨written, wellWritten, spelled⟩, ?_⟩
  rintro m wellFormed rfl
  have reads (m' : ClassInfo) (wellFormed' : m'.WellFormed) : parse m'.bytes = .ok m'.described :=
    (parse_eq_ok_iff _ _).mpr ⟨m', wellFormed', rfl, rfl⟩
  obtain rfl : m.described = described := Except.ok.inj ((reads m wellFormed).symm.trans accepted)
  refine ⟨rfl, fun k f found => ?_⟩
  have member : f ∈ m.fields := List.mem_of_getElem? found
  have fit := wellFormed.fieldAttributesFit f member
  have resolves := wellFormed.fieldsResolve f member
  constructor
  · intro instanceField
    obtain ⟨place, left⟩ := ClassInfo.described_marked found instanceField
    have wellFormed' : (m.withField k f.marked).WellFormed :=
      wellFormed.withField fit resolves.marked
    rw [ClassInfo.modify_bytes found, reads _ wellFormed', left]
    exact ⟨place, rfl⟩
  · intro j a located _ index name named other
    have within : j < f.attributes.length := (List.getElem?_eq_some_iff.mp located).1
    have known : (m.pool.text? index).isSome := Option.isSome_of_eq_some named
    have bare : (a.renamed index).Resolves m.pool := by
      refine ⟨known, fun same => other ?_⟩
      exact Option.some.inj (named.symm.trans same)
    have fits : (a.renamed index).Fits := (fit.2 a (List.mem_of_getElem? located)).renamed
    have wellFormed' : (m.withField k (f.withAttribute j (a.renamed index))).WellFormed :=
      wellFormed.withField (MemberInfo.attributesFit_withAttribute fit fits)
        (resolves.withAttribute known fun _ => bare)
    have same : (f.withAttribute j (a.renamed index)).isStatic = f.isStatic := rfl
    rw [ClassInfo.overwrite_bytes found located, reads _ wellFormed',
      ClassInfo.described_withField found _ same, MemberInfo.described_withAttribute within rfl]

/-- The one instance field of the annotated class goes with one bit, and its annotations with one
index. -/
theorem annotatedClass_passedOver :
    parse annotatedClass.bytes = .ok annotatedClass.described ∧
      parse (annotatedClass.bytes.modify (annotatedClass.fieldOffset 1 + 1) (· ||| 8)) =
        .ok ⟨annotatedClass.described.name, 33, []⟩ ∧
      parse (overwrite annotatedClass.bytes (annotatedClass.fieldOffset 1 + 8) (bytesOf 2 2)) =
        .ok ⟨annotatedClass.described.name, 33, [⟨("x" : Text), ("I" : Text), 2, []⟩]⟩ := by
  have accepted : parse annotatedClass.bytes = .ok annotatedClass.described :=
    (parse_eq_ok_iff _ _).mpr ⟨annotatedClass, annotatedClass_wellFormed, rfl, rfl⟩
  obtain ⟨_, rewritten⟩ := parse_passedOver annotatedClass.bytes _ accepted
  obtain ⟨_, each⟩ := rewritten annotatedClass annotatedClass_wellFormed rfl
  have found : annotatedClass.fields[1]? = some annotatedClass.fields[1] := rfl
  obtain ⟨marked, renamed⟩ := each 1 _ found
  obtain ⟨_, gone⟩ := marked (by decide)
  have bare := renamed 0 annotatedClass.fields[1].attributes[0] rfl (by decide +kernel) 2
    ("p/A" : Text) (by decide +kernel) (by decide +kernel)
  have texts : annotatedClass.pool.textAt 5 = ("x" : Text) ∧
      annotatedClass.pool.textAt 6 = ("I" : Text) := by decide +kernel
  have left : annotatedClass.described.fields.set (annotatedClass.instancesBefore 1)
      (annotatedClass.fields[1].describedWithout annotatedClass.pool 0) =
        [⟨annotatedClass.pool.textAt 5, annotatedClass.pool.textAt 6, 2, []⟩] := rfl
  rw [if_neg (by decide), left, texts.1, texts.2] at bare
  exact ⟨accepted, gone, bare⟩

end TagAudit.ClassFile
