import TagAudit.Proofs.ClassFile.PoolFormat
import TagAudit.Proofs.ClassFile.Productions

/-!
# Annotations of the format

Element values nest, so the reading of one is made for a number of levels. An induction on levels
shows that a reading with as many levels as there are bytes accepts exactly the spellings of element
values, of whatever depth: every level takes a byte before it goes deeper, so the levels never run
out before the bytes do.

What an element value stands for is found through the pool. A reading accepts a spelling only if
every index in it names what it has to, at every depth.
-/

namespace TagAudit.ClassFile

open Reading ConstantPool

variable (pool : Pool)

/-- An index is read as what is found there. -/
theorem reads_index {α : Type} (find : Nat → Except Defect α) (offset : Nat) (bytes : List UInt8)
    (value : α) :
    (Reading.u2.bind fun index => .ofExcept (find index)).Reads offset bytes value ↔
      ∃ index : UInt16, bytesOf 2 index.toNat = bytes ∧ find index.toNat = .ok value := by
  rw [reads_bind]
  constructor
  · rintro ⟨first, later, n, rfl, indexed, decided⟩
    obtain ⟨index, rfl, rfl⟩ := (reads_u2 _ _ _).mp indexed
    obtain ⟨rfl, found⟩ := (reads_ofExcept _ _ _ _).mp decided
    exact ⟨index, (List.append_nil _).symm, found⟩
  · rintro ⟨index, rfl, found⟩
    exact ⟨_, [], _, (List.append_nil _).symm, (reads_u2 _ _ _).mpr ⟨index, rfl, rfl⟩,
      (reads_ofExcept _ _ _ _).mpr ⟨rfl, found⟩⟩

/-- What is read through indexes that may name nothing is matched with the indexes that do. -/
theorem spells_of_named {α : Type} {r : Reading α} {spelling : UInt16 → List UInt8}
    (named? : UInt16 → Option α) (default : α)
    (reads : ∀ offset bytes result, r.Reads offset bytes result ↔
      ∃ index, spelling index = bytes ∧ named? index = some result) (bound : Nat) :
    r.Spells bound (fun index => (named? index).isSome) spelling
      (fun index => (named? index).getD default) := by
  intro offset bytes result _
  rw [reads]
  constructor
  · rintro ⟨index, spelled, found⟩
    exact ⟨index, by simp [found], spelled, by simp [found]⟩
  · rintro ⟨index, named, spelled, rfl⟩
    obtain ⟨value, found⟩ := Option.isSome_iff_exists.mp named
    exact ⟨index, spelled, by simp [found]⟩

/-- A text is read from an index that names it. -/
theorem reads_text (offset : Nat) (bytes : List UInt8) (t : Text) :
    (textReading (ofEntries pool)).Reads offset bytes t ↔
      ∃ index : UInt16, bytesOf 2 index.toNat = bytes ∧ pool.text? index = some t := by
  simp only [textReading, reads_index, text_eq_ok_iff]

/-- Texts are read from the indexes that name one. -/
theorem text_spells (bound : Nat) :
    (textReading (ofEntries pool)).Spells bound (fun index : UInt16 => (pool.text? index).isSome)
      (fun index => bytesOf 2 index.toNat) pool.textAt :=
  spells_of_named pool.text? [] (reads_text pool) bound

/-- The form that a constant form is read as. -/
def ConstantForm.form : ConstantForm → ElementForm
  | .byte | .int | .short => .integer
  | .char => .character
  | .boolean => .boolean
  | .long => .long
  | .float => .float
  | .double => .double
  | .string => .string

/-- A byte announces a form of element value exactly when it is the letter of one. -/
theorem ElementForm.ofTag?_eq_some_iff (tag : Nat) (form : ElementForm) :
    ElementForm.ofTag? tag = some form ↔
      (∃ c : ConstantForm, c.tag = tag ∧ c.form = form) ∨
      ('e'.toNat = tag ∧ ElementForm.enum = form) ∨
      ('c'.toNat = tag ∧ ElementForm.classLiteral = form) ∨
      ('@'.toNat = tag ∧ ElementForm.nested = form) ∨
      ('['.toNat = tag ∧ ElementForm.array = form) := by
  constructor
  · intro announced
    unfold ElementForm.ofTag? at announced
    split at announced
    · exact .inl ⟨.byte, rfl, Option.some.inj announced⟩
    · exact .inl ⟨.int, rfl, Option.some.inj announced⟩
    · exact .inl ⟨.short, rfl, Option.some.inj announced⟩
    · exact .inl ⟨.char, rfl, Option.some.inj announced⟩
    · exact .inl ⟨.boolean, rfl, Option.some.inj announced⟩
    · exact .inl ⟨.long, rfl, Option.some.inj announced⟩
    · exact .inl ⟨.float, rfl, Option.some.inj announced⟩
    · exact .inl ⟨.double, rfl, Option.some.inj announced⟩
    · exact .inl ⟨.string, rfl, Option.some.inj announced⟩
    · exact .inr (.inl ⟨rfl, Option.some.inj announced⟩)
    · exact .inr (.inr (.inl ⟨rfl, Option.some.inj announced⟩))
    · exact .inr (.inr (.inr (.inl ⟨rfl, Option.some.inj announced⟩)))
    · exact .inr (.inr (.inr (.inr ⟨rfl, Option.some.inj announced⟩)))
    · simp at announced
  · rintro (⟨c, rfl, rfl⟩ | ⟨rfl, rfl⟩ | ⟨rfl, rfl⟩ | ⟨rfl, rfl⟩ | ⟨rfl, rfl⟩)
    · cases c <;> rfl
    all_goals rfl

/-- A constant is read from an index that names an entry of the kind that holds its form. -/
theorem constant_spells (inner : Reading ElementValue) (form : ConstantForm) (bound : Nat) :
    (bodyReading (ofEntries pool) inner form.form).Spells bound
      (fun index : UInt16 => (form.value? pool index).isSome)
      (fun index => bytesOf 2 index.toNat) (fun index => (form.value? pool index).getD .null) := by
  -- Looking up and making a value of what is kept is the same as making it of what the entry says.
  have made {σ α : Type} (holds : PoolEntry → Option σ) (kept : Constant → Option α) (f : σ → α)
      (same : ∀ e : PoolEntry, kept e.constant = (holds e).map f) (kind : ConstantKind)
      (g : α → ElementValue) (offset : Nat) (bytes : List UInt8) (result : ElementValue) :
      ((constantReading (ofEntries pool) kind kept).bind fun value => .done (g value)).Reads
        offset bytes result ↔
      ∃ index : UInt16, bytesOf 2 index.toNat = bytes ∧
        (pool.held? holds index).map (fun held => g (f held)) = some result := by
    simp only [reads_map, constantReading, reads_index, pick_eq_ok_iff holds kept f same,
      Option.map_eq_some_iff]
    constructor
    · rintro ⟨_, ⟨index, spelled, held, found, rfl⟩, same⟩
      exact ⟨index, spelled, held, found, same⟩
    · rintro ⟨index, spelled, held, found, same⟩
      exact ⟨_, ⟨index, spelled, held, found, rfl⟩, same⟩
  have integers (e : PoolEntry) : e.constant.integer? = e.integer?.map Int32.toInt := by
    cases e <;> rfl
  apply spells_of_named
  intro offset bytes result
  cases form with
  | byte => exact made PoolEntry.integer? Constant.integer? Int32.toInt integers .integer _ _ _ _
  | int => exact made PoolEntry.integer? Constant.integer? Int32.toInt integers .integer _ _ _ _
  | short => exact made PoolEntry.integer? Constant.integer? Int32.toInt integers .integer _ _ _ _
  | char =>
    have lowest (n : Int32) : (n.toInt % 0x10000).toNat = n.toUInt32.toNat % 0x10000 := by
      have small : n.toUInt32.toNat < 4294967296 := n.toUInt32.toNat_lt
      rw [← signed_word32, signed]
      simp only [Nat.pow_eq]
      split <;> omega
    simp only [ConstantForm.value?, ← lowest]
    exact made PoolEntry.integer? Constant.integer? Int32.toInt integers .integer _ _ _ _
  | boolean =>
    have zero (n : Int32) : (n.toInt != 0) = (n != 0) := by
      have same : n.toInt = 0 ↔ n = 0 := by rw [← Int32.toInt_inj, Int32.toInt_zero]
      rw [Bool.eq_iff_iff, bne_iff_ne, bne_iff_ne, ne_eq, ne_eq, same]
    simp only [ConstantForm.value?, ← zero]
    exact made PoolEntry.integer? Constant.integer? Int32.toInt integers .integer _ _ _ _
  | long =>
    exact made PoolEntry.long? Constant.long? Int64.toInt (fun e => by cases e <;> rfl) .long
      _ _ _ _
  | float =>
    exact made PoolEntry.float? Constant.float? (fun bits => Binary64.ofBinary32 bits.toNat)
      (fun e => by cases e <;> rfl) .float _ _ _ _
  | double =>
    exact made PoolEntry.double? Constant.double? Binary64.mk (fun e => by cases e <;> rfl)
      .double _ _ _ _
  | string =>
    simp only [bodyReading, ConstantForm.form, reads_map, reads_text, ConstantForm.value?,
      Option.map_eq_some_iff]
    constructor
    · rintro ⟨t, ⟨index, spelled, found⟩, same⟩
      exact ⟨index, spelled, t, found, same⟩
    · rintro ⟨index, spelled, t, found, same⟩
      exact ⟨t, ⟨index, spelled, found⟩, same⟩

/-- An annotation is matched with its written form, if the values in it are. -/
theorem annotation_spells {inner : Reading ElementValue} {bound : Nat}
    (values : inner.Spells bound (fun e : ElementInfo => e.Fits ∧ e.Resolves pool)
      ElementInfo.bytes (ElementInfo.value pool)) :
    (annotationOver (ofEntries pool) inner).Spells bound
      (fun a : AnnotationInfo => a.Fits ∧ a.Resolves pool)
      AnnotationInfo.bytes (AnnotationInfo.described pool) := by
  have pairs := ((text_spells pool bound).both values Prod.mk).counted
  rw [annotationOver_eq]
  apply ((text_spells pool bound).both pairs Annotation.mk).image
    fun items => (⟨items.1, items.2⟩ : AnnotationInfo)
  · rintro ⟨type, pairs⟩ _
    exact ⟨(type, pairs), rfl⟩
  · rintro ⟨type, pairs⟩
    simp only [AnnotationInfo.Fits, AnnotationInfo.Resolves]
    constructor
    · rintro ⟨⟨sized, fit⟩, typed, resolve⟩
      exact ⟨typed, sized, fun pair member =>
        ⟨(resolve pair member).1, fit pair member, (resolve pair member).2⟩⟩
    · rintro ⟨typed, sized, each⟩
      exact ⟨⟨sized, fun pair member => (each pair member).2.1⟩, typed, fun pair member =>
        ⟨(each pair member).1, (each pair member).2.2⟩⟩
  · intro items
    simp [AnnotationInfo.bytes]
  · intro items
    rfl

namespace ElementInfo

/-- The tag of an element value. -/
def tag : ElementInfo → Nat
  | constant form _ => form.tag
  | enum .. => 'e'.toNat
  | classLiteral _ => 'c'.toNat
  | nested .. => '@'.toNat
  | array _ => '['.toNat

/-- The spelling of what the tag announces. -/
def body : ElementInfo → List UInt8
  | constant _ index => bytesOf 2 index.toNat
  | enum type name => bytesOf 2 type.toNat ++ bytesOf 2 name.toNat
  | classLiteral type => bytesOf 2 type.toNat
  | nested type pairs => AnnotationInfo.bytes ⟨type, pairs⟩
  | array items => bytesOf 2 items.length ++ items.flatMap bytes

/-- An element value is spelled as its tag and what the tag announces. -/
theorem bytes_eq (e : ElementInfo) : e.bytes = bytesOf 1 e.tag ++ e.body := by
  cases e <;> simp [bytes, tag, body, AnnotationInfo.bytes, pairBytes_eq, itemBytes_eq]

/-- A tag is a single byte. -/
theorem tag_lt (e : ElementInfo) : e.tag < 256 := by
  have letters (form : ConstantForm) : form.tag < 256 := by cases form <;> decide
  cases e with
  | constant form index => exact letters form
  | enum type name => exact (by decide : 'e'.toNat < 256)
  | classLiteral type => exact (by decide : 'c'.toNat < 256)
  | nested type pairs => exact (by decide : '@'.toNat < 256)
  | array items => exact (by decide : '['.toNat < 256)

/-- The form of an element value. -/
def form : ElementInfo → ElementForm
  | constant form _ => form.form
  | enum .. => .enum
  | classLiteral _ => .classLiteral
  | nested .. => .nested
  | array _ => .array

/-- The tag of an element value announces its form. -/
theorem ofTag?_tag (e : ElementInfo) : ElementForm.ofTag? e.tag = some e.form := by
  cases e with
  | constant form index => cases form <;> rfl
  | _ => rfl

/-- An element value has the form that its tag announces. -/
theorem form_of_tag (e : ElementInfo) {tag : Nat} {form : ElementForm}
    (announced : ElementForm.ofTag? tag = some form) (tagged : e.tag = tag) : e.form = form := by
  have own := e.ofTag?_tag
  rw [tagged, announced] at own
  exact (Option.some.inj own).symm

variable (pool : Pool)

/-- A constant is valid when its index names something for its form. -/
theorem valid_constant_iff (form : ConstantForm) (index : UInt16) :
    (constant form index).Fits ∧ (constant form index).Resolves pool ↔
      (form.value? pool index).isSome := by
  constructor
  · rintro ⟨_, _ | held⟩
    assumption
  · intro held
    exact ⟨.constant form index, .constant form index held⟩

/-- A constant of an enumeration is valid when both its indexes name texts. -/
theorem valid_enum_iff (type name : UInt16) :
    (enum type name).Fits ∧ (enum type name).Resolves pool ↔
      (pool.text? type).isSome ∧ (pool.text? name).isSome := by
  constructor
  · rintro ⟨_, resolves⟩
    cases resolves with
    | enum _ _ typed named => exact ⟨typed, named⟩
  · rintro ⟨typed, named⟩
    exact ⟨.enum type name, .enum type name typed named⟩

/-- A class literal is valid when its index names a text. -/
theorem valid_classLiteral_iff (type : UInt16) :
    (classLiteral type).Fits ∧ (classLiteral type).Resolves pool ↔
      (pool.text? type).isSome := by
  constructor
  · rintro ⟨_, resolves⟩
    cases resolves with
    | classLiteral _ typed => exact typed
  · intro typed
    exact ⟨.classLiteral type, .classLiteral type typed⟩

/-- A nested annotation is valid when it is valid by itself. -/
theorem valid_toElement_iff (a : AnnotationInfo) :
    a.toElement.Fits ∧ a.toElement.Resolves pool ↔ a.Fits ∧ a.Resolves pool := by
  constructor
  · rintro ⟨fits, resolves⟩
    cases fits with
    | nested _ _ sized each =>
      cases resolves with
      | nested _ _ typed named found =>
        exact ⟨⟨sized, each⟩, typed, fun pair member => ⟨named pair member, found pair member⟩⟩
  · rintro ⟨⟨sized, each⟩, typed, found⟩
    exact ⟨.nested _ _ sized each, .nested _ _ typed (fun pair member => (found pair member).1)
      fun pair member => (found pair member).2⟩

/-- An array is valid when a count can hold its items and every one is valid. -/
theorem valid_array_iff (items : List ElementInfo) :
    (array items).Fits ∧ (array items).Resolves pool ↔
      items.length < 65536 ∧ ∀ item ∈ items, item.Fits ∧ item.Resolves pool := by
  constructor
  · rintro ⟨fits, resolves⟩
    cases fits with
    | array _ sized each =>
      cases resolves with
      | array _ found => exact ⟨sized, fun item member => ⟨each item member, found item member⟩⟩
  · rintro ⟨sized, each⟩
    exact ⟨.array items sized fun item member => (each item member).1,
      .array items fun item member => (each item member).2⟩

end ElementInfo

/-- Constant forms have different letters. -/
theorem ConstantForm.tag_injective (c d : ConstantForm) (same : c.tag = d.tag) : c = d := by
  cases c <;> cases d <;> first | rfl | exact absurd same (by decide)

/-- The bodies of constants are matched with the element values that have the tag of the form. -/
theorem constant_body_spells (inner : Reading ElementValue) (c : ConstantForm) (bound : Nat) :
    (bodyReading (ofEntries pool) inner c.form).Spells bound
      (fun e : ElementInfo => e.tag = c.tag ∧ e.Fits ∧ e.Resolves pool)
      ElementInfo.body (ElementInfo.value pool) := by
  apply (constant_spells pool inner c bound).image (ElementInfo.constant c)
  · rintro e ⟨tagged, _⟩
    have formed := e.form_of_tag ((ElementInfo.constant c 0).ofTag?_tag) tagged
    cases e with
    | constant d index => exact ⟨index, by rw [ConstantForm.tag_injective d c tagged]⟩
    | _ => cases c <;> cases formed
  · intro index
    simpa [ElementInfo.tag] using ElementInfo.valid_constant_iff pool c index
  · intro index
    rfl
  · intro index
    rfl

/-- The bodies of constants of enumerations are two texts. -/
theorem enum_body_spells (inner : Reading ElementValue) (bound : Nat) :
    (bodyReading (ofEntries pool) inner .enum).Spells bound
      (fun e : ElementInfo => e.tag = 'e'.toNat ∧ e.Fits ∧ e.Resolves pool)
      ElementInfo.body (ElementInfo.value pool) := by
  apply ((text_spells pool bound).both (text_spells pool bound) ElementValue.enum).image
    fun indexes => ElementInfo.enum indexes.1 indexes.2
  · rintro e ⟨tagged, _⟩
    have formed := e.form_of_tag rfl tagged
    cases e with
    | enum type name => exact ⟨(type, name), rfl⟩
    | constant d index => cases d <;> cases formed
    | _ => cases formed
  · intro indexes
    simpa [ElementInfo.tag] using ElementInfo.valid_enum_iff pool indexes.1 indexes.2
  · intro indexes
    rfl
  · intro indexes
    rfl

/-- The body of a class literal is a text. -/
theorem classLiteral_body_spells (inner : Reading ElementValue) (bound : Nat) :
    (bodyReading (ofEntries pool) inner .classLiteral).Spells bound
      (fun e : ElementInfo => e.tag = 'c'.toNat ∧ e.Fits ∧ e.Resolves pool)
      ElementInfo.body (ElementInfo.value pool) := by
  apply ((text_spells pool bound).map ElementValue.classLiteral).image ElementInfo.classLiteral
  · rintro e ⟨tagged, _⟩
    have formed := e.form_of_tag rfl tagged
    cases e with
    | classLiteral type => exact ⟨type, rfl⟩
    | constant d index => cases d <;> cases formed
    | _ => cases formed
  · intro index
    simpa [ElementInfo.tag] using ElementInfo.valid_classLiteral_iff pool index
  · intro index
    rfl
  · intro index
    rfl

/-- The body of a nested annotation is an annotation. -/
theorem nested_body_spells {inner : Reading ElementValue} {bound : Nat}
    (values : inner.Spells bound (fun e : ElementInfo => e.Fits ∧ e.Resolves pool)
      ElementInfo.bytes (ElementInfo.value pool)) :
    (bodyReading (ofEntries pool) inner .nested).Spells bound
      (fun e : ElementInfo => e.tag = '@'.toNat ∧ e.Fits ∧ e.Resolves pool)
      ElementInfo.body (ElementInfo.value pool) := by
  apply ((annotation_spells pool values).map Annotation.toElement).image AnnotationInfo.toElement
  · rintro e ⟨tagged, _⟩
    have formed := e.form_of_tag rfl tagged
    cases e with
    | nested type pairs => exact ⟨⟨type, pairs⟩, rfl⟩
    | constant d index => cases d <;> cases formed
    | _ => cases formed
  · intro a
    simpa [ElementInfo.tag, AnnotationInfo.toElement] using
      ElementInfo.valid_toElement_iff pool a
  · intro a
    rfl
  · intro a
    simp [AnnotationInfo.toElement, ElementInfo.value, ElementInfo.pairValues_eq,
      AnnotationInfo.described, Annotation.toElement]

/-- The body of an array is counted element values. -/
theorem array_body_spells {inner : Reading ElementValue} {bound : Nat}
    (values : inner.Spells bound (fun e : ElementInfo => e.Fits ∧ e.Resolves pool)
      ElementInfo.bytes (ElementInfo.value pool)) :
    (bodyReading (ofEntries pool) inner .array).Spells bound
      (fun e : ElementInfo => e.tag = '['.toNat ∧ e.Fits ∧ e.Resolves pool)
      ElementInfo.body (ElementInfo.value pool) := by
  apply (values.counted.map ElementValue.array).image ElementInfo.array
  · rintro e ⟨tagged, _⟩
    have formed := e.form_of_tag rfl tagged
    cases e with
    | array items => exact ⟨items, rfl⟩
    | constant d index => cases d <;> cases formed
    | _ => cases formed
  · intro items
    simpa [ElementInfo.tag] using ElementInfo.valid_array_iff pool items
  · intro items
    rfl
  · intro items
    simp [ElementInfo.value, ElementInfo.itemValues_eq]

/-- What follows the tag of a form is matched with the element values that have the tag. -/
theorem body_spells {inner : Reading ElementValue} {bound : Nat}
    (values : inner.Spells bound (fun e : ElementInfo => e.Fits ∧ e.Resolves pool)
      ElementInfo.bytes (ElementInfo.value pool)) (tag : Nat) (form : ElementForm)
    (announced : ElementForm.ofTag? tag = some form) :
    (bodyReading (ofEntries pool) inner form).Spells bound
      (fun e : ElementInfo => e.tag = tag ∧ e.Fits ∧ e.Resolves pool)
      ElementInfo.body (ElementInfo.value pool) := by
  rcases (ElementForm.ofTag?_eq_some_iff tag form).mp announced with
    ⟨c, rfl, rfl⟩ | ⟨rfl, rfl⟩ | ⟨rfl, rfl⟩ | ⟨rfl, rfl⟩ | ⟨rfl, rfl⟩
  · exact constant_body_spells pool inner c bound
  · exact enum_body_spells pool inner bound
  · exact classLiteral_body_spells pool inner bound
  · exact nested_body_spells pool values
  · exact array_body_spells pool values

/-- One more level matches element values that take one byte more, whatever their depth. -/
theorem elementValueOver_spells {inner : Reading ElementValue} {bound : Nat}
    (values : inner.Spells bound (fun e : ElementInfo => e.Fits ∧ e.Resolves pool)
      ElementInfo.bytes (ElementInfo.value pool)) :
    (elementValueOver (ofEntries pool) fun _ => inner).Spells (bound + 1)
      (fun e : ElementInfo => e.Fits ∧ e.Resolves pool)
      ElementInfo.bytes (ElementInfo.value pool) := by
  intro offset bytes result short
  rw [elementValueOver_eq, reads_bind]
  constructor
  · rintro ⟨_, _, start, rfl, asked, read⟩
    obtain ⟨rfl, rfl⟩ := (reads_offset _ _ _).mp asked
    obtain ⟨tagByte, later, tag, rfl, tagged, rest⟩ := (reads_bind _ _ _ _ _).mp read
    obtain ⟨word, rfl, rfl⟩ := (reads_u1 _ _ _).mp tagged
    simp only [List.nil_append, List.length_append, bytesOf_length] at short ⊢
    cases announced : ElementForm.ofTag? word.toNat with
    | none =>
      simp only [announced] at rest
      exact absurd rest (reads_fail _ _ _ _)
    | some form =>
      simp only [announced] at rest
      obtain ⟨e, ⟨sameTag, valid⟩, rfl, rfl⟩ :=
        (body_spells pool values word.toNat form announced _ later result (by omega)).mp rest
      exact ⟨e, valid, by rw [ElementInfo.bytes_eq, sameTag], rfl⟩
  · rintro ⟨e, valid, rfl, rfl⟩
    rw [ElementInfo.bytes_eq, List.length_append, bytesOf_length] at short
    refine ⟨[], e.bytes, offset, rfl, (reads_offset _ _ _).mpr ⟨rfl, rfl⟩, ?_⟩
    rw [ElementInfo.bytes_eq, reads_bind]
    refine ⟨_, e.body, e.tag, rfl, ?_, ?_⟩
    · have word : (UInt8.ofNat e.tag).toNat = e.tag := UInt8.toNat_ofNat_of_lt' e.tag_lt
      exact (reads_u1 _ _ _).mpr ⟨.ofNat e.tag, by rw [word], word⟩
    · simp only [e.ofTag?_tag]
      exact (body_spells pool values e.tag e.form e.ofTag?_tag _ _ _ (by omega)).mpr
        ⟨e, ⟨rfl, valid⟩, rfl, rfl⟩

/-- A reading of some number of levels is matched with the element values that take no more bytes
than that. So a bound on the bytes is all the bound on depth that there is. -/
theorem elementValue_spells (levels : Nat) :
    (elementValue (ofEntries pool) levels).Spells levels
      (fun e : ElementInfo => e.Fits ∧ e.Resolves pool)
      ElementInfo.bytes (ElementInfo.value pool) := by
  induction levels with
  | zero =>
    intro offset bytes result short
    rw [elementValue, reads_take]
    constructor
    · rintro ⟨taken, later, counted, rfl, _⟩
      simp only [List.length_append, counted] at short
      omega
    · rintro ⟨e, _, rfl, _⟩
      rw [ElementInfo.bytes_eq, List.length_append, bytesOf_length] at short
      omega
  | succ levels inductionHypothesis => exact elementValueOver_spells pool inductionHypothesis

/-- The annotations of an attribute are matched with lists of them that are as long as declared. -/
theorem annotationsReading_spells (levels declared : Nat) :
    (annotationsReading (ofEntries pool) levels declared).Spells levels
      (fun list : List AnnotationInfo =>
        (AttributeBody.annotations list).bytes.length = declared ∧
          (AttributeBody.annotations list).Fits ∧ ∀ a ∈ list, a.Resolves pool)
      (fun list => (AttributeBody.annotations list).bytes)
      (fun list => list.map (AnnotationInfo.described pool)) := by
  have lists : (Reading.counted (annotationReading (ofEntries pool) levels)).Spells levels
      (fun list : List AnnotationInfo =>
        list.length < 65536 ∧ ∀ a ∈ list, a.Fits ∧ a.Resolves pool)
      (fun list => (AttributeBody.annotations list).bytes)
      (fun list => list.map (AnnotationInfo.described pool)) :=
    (annotation_spells pool (elementValue_spells pool levels)).counted
  intro offset bytes result short
  rw [annotationsReading_eq, reads_bind]
  constructor
  · rintro ⟨_, _, start, rfl, asked, read⟩
    obtain ⟨rfl, rfl⟩ := (reads_offset _ _ _).mp asked
    obtain ⟨held, later, annotations, rfl, listed, rest⟩ := (reads_bind _ _ _ _ _).mp read
    obtain ⟨_, _, stop, rfl, askedAgain, decided⟩ := (reads_bind _ _ _ _ _).mp rest
    obtain ⟨rfl, rfl⟩ := (reads_offset _ _ _).mp askedAgain
    simp only [List.nil_append, List.length_append, List.length_nil] at short decided ⊢
    obtain ⟨list, ⟨sized, each⟩, rfl, rfl⟩ := (lists _ held _ (by omega)).mp listed
    split at decided
    · rename_i declaredLength
      obtain ⟨rfl, rfl⟩ := (reads_done _ _ _ _).mp decided
      have held : (AttributeBody.annotations list).bytes.length = declared :=
        (Nat.add_sub_cancel_left _ _).symm.trans declaredLength
      exact ⟨list, ⟨held, ⟨sized, fun a member => (each a member).1⟩, fun a member =>
        (each a member).2⟩, by simp, rfl⟩
    · exact absurd decided (reads_fail _ _ _ _)
  · rintro ⟨list, ⟨declaredLength, ⟨sized, fit⟩, resolve⟩, rfl, rfl⟩
    refine ⟨[], _, offset, rfl, (reads_offset _ _ _).mpr ⟨rfl, rfl⟩, ?_⟩
    refine (reads_bind _ _ _ _ _).mpr ⟨(AttributeBody.annotations list).bytes, [],
      list.map (AnnotationInfo.described pool), (List.append_nil _).symm, ?_, ?_⟩
    · exact (lists _ _ _ short).mpr
        ⟨list, ⟨sized, fun a member => ⟨fit a member, resolve a member⟩⟩, rfl, rfl⟩
    · refine (reads_bind _ _ _ _ _).mpr ⟨[], [], _, rfl, (reads_offset _ _ _).mpr ⟨rfl, rfl⟩, ?_⟩
      simp only [List.length_nil, Nat.add_zero, Nat.add_sub_cancel_left, declaredLength, if_true]
      exact (reads_done _ _ _ _).mpr ⟨rfl, rfl⟩

end TagAudit.ClassFile
