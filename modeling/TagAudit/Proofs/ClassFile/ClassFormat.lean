import TagAudit.Proofs.ClassFile.AnnotationFormat

/-!
# Members and classes of the format

The parts are put together here: attributes into fields, fields and methods into a class file, and
the class file into the bytes of a whole input. A static field is matched with all its attributes,
whatever they hold, because a reader passes over them by their length. An instance field is matched
with attributes that hold annotations exactly where their name announces them.

The result is one equivalence. An input is parsed if and only if it is the spelling of a
well-formed class file, and the class described is the one that this class file stands for.
-/

namespace TagAudit.ClassFile

open Reading ConstantPool

variable (pool : Pool)

/-- What an attribute of a field holds is matched with the bodies that may stand under its name. -/
theorem heldBy_spells (levels : Nat) (isStatic : Bool) (index : UInt16)
    (named : (pool.text? index).isSome) :
    (Reading.u4.bind fun length =>
      if pool.textAt index = annotationsAttribute ∧ !isStatic then
        annotationsReading (ofEntries pool) levels length
      else (Reading.pass length).bind fun _ => .done []).Spells levels
      (fun body => body.bytes.length < 4294967296 ∧ body.Fits ∧
        (isStatic = false → AttributeInfo.Resolves pool ⟨index, body⟩))
      (fun body => bytesOf 4 body.bytes.length ++ body.bytes)
      (fun body => if isStatic then [] else AttributeInfo.annotations pool ⟨index, body⟩) := by
  obtain ⟨name, found⟩ := Option.isSome_iff_exists.mp named
  have sameName : pool.textAt index = name := by simp [Pool.textAt, found]
  by_cases decoded : pool.textAt index = annotationsAttribute ∧ !isStatic
  · have instanceField : isStatic = false := by simpa using decoded.2
    have isAnnotations : pool.text? index = some annotationsAttribute := by
      rw [found, ← sameName, decoded.1]
    simp only [decoded, and_self, if_true]
    apply Spells.exchange ?parts
    case parts =>
      exact (u4_spells levels).bind _ fun length _ => annotationsReading_spells pool levels length
    · rintro ⟨length, list⟩ ⟨fits, sameLength, listFits, resolve⟩
      refine ⟨.annotations list, ⟨by rw [sameLength]; exact fits, listFits, fun _ => ?_⟩, ?_, ?_⟩
      · exact ⟨isAnnotations, resolve⟩
      · rw [sameLength]
      · simp [instanceField, AttributeInfo.annotations]
    · rintro body ⟨fits, bodyFits, resolve⟩
      cases body with
      | payload raw => exact absurd isAnnotations (resolve instanceField).2
      | annotations list =>
        refine ⟨(_, list), ⟨fits, rfl, bodyFits, (resolve instanceField).2⟩, rfl, ?_⟩
        simp [instanceField, AttributeInfo.annotations]
  · simp only [decoded, if_false]
    apply Spells.exchange ?parts
    case parts =>
      exact (u4_spells levels).bind _ fun length _ => (pass_spells length levels).map fun _ => []
    · rintro ⟨length, raw⟩ ⟨fits, sameLength⟩
      obtain rfl : raw.length = length := sameLength
      refine ⟨.payload raw, ⟨fits, trivial, fun instanceField => ⟨named, ?_⟩⟩, rfl, ?_⟩
      · intro isAnnotations
        exact decoded ⟨by simp [Pool.textAt, isAnnotations], by simp [instanceField]⟩
      · simp [AttributeInfo.annotations]
    · rintro body ⟨fits, bodyFits, resolve⟩
      refine ⟨(_, body.bytes), ⟨fits, rfl⟩, rfl, ?_⟩
      cases body with
      | payload raw => simp [AttributeInfo.annotations]
      | annotations list =>
        -- Annotations stand under their own name only, which is decoded on instance fields.
        cases isStatic with
        | true => rfl
        | false =>
          exact absurd ⟨by simp [Pool.textAt, (resolve rfl).1], rfl⟩ decoded

/-- Attributes of a field are matched with those whose name is known and, on an instance field,
whose indexes resolve. Those of a static field carry nothing. -/
theorem fieldAttribute_spells (levels : Nat) (isStatic : Bool) :
    (fieldAttribute (ofEntries pool) levels isStatic).Spells levels
      (fun a : AttributeInfo => a.Fits ∧ (pool.text? a.name).isSome ∧
        (isStatic = false → a.Resolves pool))
      AttributeInfo.bytes (fun a => if isStatic then [] else a.annotations pool) := by
  apply Spells.image ?parts fun items : UInt16 × AttributeBody =>
    (⟨items.1, items.2⟩ : AttributeInfo)
  case parts =>
    exact (text_spells pool levels).bind _ fun index named =>
      heldBy_spells pool levels isStatic index named
  · rintro ⟨name, body⟩ _
    exact ⟨(name, body), rfl⟩
  · rintro ⟨name, body⟩
    simp only [AttributeInfo.Fits]
    constructor
    · rintro ⟨⟨fits, bodyFits⟩, named, resolve⟩
      exact ⟨named, fits, bodyFits, resolve⟩
    · rintro ⟨named, fits, bodyFits, resolve⟩
      exact ⟨⟨fits, bodyFits⟩, named, resolve⟩
  · rintro ⟨name, body⟩
    simp [AttributeInfo.bytes]
  · rintro ⟨name, body⟩
    rfl

/-- The static bit, as a reader tests it and as an author sets it. -/
theorem static_bit (flags : UInt16) : (flags.toNat / 8 % 2 == 1) = flags.toNat.testBit 3 := by
  rw [Nat.testBit_eq_decide_div_mod_eq]
  rfl

/-- Fields are matched with members whose sizes fit and whose indexes resolve. -/
theorem field_spells (levels : Nat) :
    (fieldReading (ofEntries pool) levels).Spells levels
      (fun m : MemberInfo => AttributesFit m.attributes ∧ m.Resolves pool)
      MemberInfo.bytes (fun m => if m.isStatic then none else some (m.described pool)) := by
  rw [fieldReading_eq]
  apply Spells.image ?parts fun items : UInt16 × UInt16 × UInt16 × List AttributeInfo =>
    (⟨items.1, items.2.1, items.2.2.1, items.2.2.2⟩ : MemberInfo)
  case parts =>
    exact (u2_spells levels).bind _ fun flags _ => (text_spells pool levels).bind _ fun name _ =>
      (text_spells pool levels).bind _ fun descriptor _ =>
        (fieldAttribute_spells pool levels _).counted.map _
  · rintro ⟨flags, name, descriptor, attributes⟩ _
    exact ⟨(flags, name, descriptor, attributes), rfl⟩
  · rintro ⟨flags, name, descriptor, attributes⟩
    simp only [AttributesFit, static_bit]
    constructor
    · rintro ⟨⟨sized, fit⟩, resolves⟩
      exact ⟨trivial, resolves.named, resolves.typed, sized, fun a member =>
        ⟨fit a member, resolves.attributesNamed a member,
          fun instanceField => resolves.annotated instanceField a member⟩⟩
    · rintro ⟨_, named, typed, sized, each⟩
      exact ⟨⟨sized, fun a member => (each a member).1⟩, named, typed,
        fun a member => (each a member).2.1,
        fun instanceField a member => (each a member).2.2 instanceField⟩
  · rintro ⟨flags, name, descriptor, attributes⟩
    simp [MemberInfo.bytes, attributeBytes]
  · rintro ⟨flags, name, descriptor, attributes⟩
    simp only [MemberInfo.isStatic, MemberInfo.described, static_bit, List.flatMap_def]
    by_cases static : flags.toNat.testBit 3 = true
    · simp [static]
    · simp [static]

/-- A word that is passed over may be any. -/
theorem pass_word_spells (bound : Nat) :
    (Reading.pass 2).Spells bound (fun _ : UInt16 => True) (fun word => bytesOf 2 word.toNat)
      fun _ => () := by
  apply (pass_spells 2 bound).exchange
  · intro raw two
    obtain ⟨word, spelled⟩ := exists_word16 raw two
    exact ⟨word, trivial, spelled, rfl⟩
  · intro word _
    exact ⟨_, bytesOf_length 2 _, rfl, rfl⟩

/-- Attributes that are passed over are matched with all attributes whose sizes fit. -/
theorem passAttributes_spells (bound : Nat) :
    passAttributes.Spells bound AttributesFit attributeBytes fun _ => () := by
  have single : passAttribute.Spells bound AttributeInfo.Fits AttributeInfo.bytes fun _ => () := by
    rw [passAttribute_eq]
    apply Spells.exchange ?parts
    case parts =>
      exact (pass_word_spells bound).bind _ fun _ _ =>
        (u4_spells bound).bind _ fun length _ => pass_spells length bound
    · rintro ⟨name, length, raw⟩ ⟨_, fits, sameLength⟩
      obtain rfl : raw.length = length := sameLength
      refine ⟨⟨name, .payload raw⟩, ⟨fits, trivial⟩, ?_, rfl⟩
      simp [AttributeInfo.bytes, AttributeBody.bytes]
    · rintro ⟨name, body⟩ ⟨fits, _⟩
      refine ⟨(name, body.bytes.length, body.bytes), ⟨trivial, fits, rfl⟩, ?_, rfl⟩
      simp [AttributeInfo.bytes]
  rw [passAttributes_eq]
  exact single.counted.map fun _ => ()

/-- Methods are matched with all members whose sizes fit. -/
theorem passMethod_spells (bound : Nat) :
    passMethod.Spells bound (fun m : MemberInfo => AttributesFit m.attributes) MemberInfo.bytes
      fun _ => () := by
  rw [passMethod_eq]
  apply Spells.exchange ?parts
  case parts =>
    exact (pass_spells 6 bound).bind _ fun _ _ => passAttributes_spells bound
  · rintro ⟨first, attributes⟩ ⟨six, fit⟩
    obtain ⟨words, three, rfl⟩ := exists_words16 3 first six
    match words, three with
    | [flags, name, descriptor], _ =>
      exact ⟨⟨flags, name, descriptor, attributes⟩, fit, by simp [MemberInfo.bytes], rfl⟩
  · rintro m fit
    refine ⟨(bytesOf 2 m.flags.toNat ++ bytesOf 2 m.name.toNat ++ bytesOf 2 m.descriptor.toNat,
      m.attributes), ⟨by simp, fit⟩, rfl, rfl⟩

/-- Interfaces that are passed over are matched with lists of words. -/
theorem interfaces_spells (bound : Nat) :
    (Reading.u2.bind fun count => Reading.pass (2 * count)).Spells bound
      (fun indexes : List UInt16 => indexes.length < 65536)
      (fun indexes => bytesOf 2 indexes.length ++ indexes.flatMap fun index =>
        bytesOf 2 index.toNat) fun _ => () := by
  apply Spells.exchange ?parts
  case parts =>
    exact (u2_spells bound).bind _ fun count _ => pass_spells (2 * count.toNat) bound
  · rintro ⟨count, raw⟩ ⟨_, sized⟩
    obtain ⟨indexes, same, rfl⟩ := exists_words16 count.toNat raw sized
    exact ⟨indexes, by rw [same]; exact count.toNat_lt, by simp [same], rfl⟩
  · rintro indexes fits
    have word : (UInt16.ofNat indexes.length).toNat = indexes.length :=
      UInt16.toNat_ofNat_of_lt' fits
    refine ⟨(UInt16.ofNat indexes.length, indexes.flatMap fun index => bytesOf 2 index.toNat),
      ⟨trivial, ?_⟩, by simp [word], rfl⟩
    simp only [List.length_flatMap, bytesOf_length, List.map_const', List.sum_replicate_nat, word]
    omega

/-- A pool is matched with a count and the entries that fill the slots below it. -/
theorem pool_spells (bound : Nat) :
    ConstantPool.reading.Spells bound
      (fun items : Nat × Pool => items.1 < 65536 ∧ items.2.slotCount = items.1 - 1 ∧
        ∀ e ∈ items.2, e.Fits)
      (fun items => bytesOf 2 items.1 ++ items.2.flatMap PoolEntry.bytes)
      (fun items => ofEntries items.2) := by
  intro offset bytes result _
  rw [reads_pool]
  constructor
  · rintro ⟨count, pool, fits, filled, allFit, spelled, same⟩
    exact ⟨(count, pool), ⟨fits, filled, allFit⟩, spelled, same⟩
  · rintro ⟨⟨count, pool⟩, ⟨fits, filled, allFit⟩, spelled, same⟩
    exact ⟨count, pool, fits, filled, allFit, spelled, same⟩

/-- The name of a class is read from an index that names a class with a name. -/
theorem className_spells (bound : Nat) :
    (Reading.u2.bind fun index => .ofExcept ((ofEntries pool).className index)).Spells bound
      (fun index : UInt16 => (pool.className? index).isSome)
      (fun index => bytesOf 2 index.toNat) (fun index => (pool.className? index).getD []) := by
  apply spells_of_named
  intro offset bytes result
  simp only [reads_index, className_eq_ok_iff]

/-- A pool that names a class has at least one entry. -/
theorem slotCount_pos (index : UInt16) (named : (pool.className? index).isSome) :
    0 < pool.slotCount := by
  cases pool with
  | nil => simp [Pool.className?, Pool.held?, Pool.entryAt?] at named
  | cons e rest =>
    have positive := e.kind.slots_pos
    rw [Pool.slotCount_cons]
    omega

/-- The magic stands in front of everything, and nothing else may. -/
theorem magic_spells {α ι : Type} {r : Reading α} {bound : Nat} {valid : ι → Prop}
    {spelling : ι → List UInt8} {value : ι → α} (spells : r.Spells bound valid spelling value) :
    (Reading.u4.bind fun first => if first ≠ magic then .fail (.badMagic first) else r).Spells
      bound valid (fun item => bytesOf 4 magic ++ spelling item) value := by
  intro offset bytes result short
  rw [reads_bind]
  constructor
  · rintro ⟨_, later, first, rfl, announced, rest⟩
    obtain ⟨_, rfl⟩ := (reads_u4 _ _ _).mp announced
    simp only [List.length_append] at short
    by_cases isMagic : first = magic
    · subst isMagic
      simp only [ne_eq, not_true_eq_false, if_false] at rest
      obtain ⟨item, itemValid, rfl, rfl⟩ := (spells _ later result (by omega)).mp rest
      exact ⟨item, itemValid, rfl, rfl⟩
    · rw [if_pos isMagic] at rest
      exact absurd rest (reads_fail _ _ _ _)
  · rintro ⟨item, itemValid, rfl, rfl⟩
    simp only [List.length_append] at short
    refine ⟨bytesOf 4 magic, spelling item, magic, rfl, ?_, ?_⟩
    · exact (reads_u4 _ _ _).mpr ⟨by decide, rfl⟩
    · simp only [ne_eq, not_true_eq_false, if_false]
      exact (spells _ _ _ (by omega)).mpr ⟨item, itemValid, rfl, rfl⟩

/-- Dropping static fields as they are read drops them from the whole. -/
theorem filterMap_static (fields : List MemberInfo) :
    (fields.map fun f => if f.isStatic then none else some (f.described pool)).filterMap id =
      (fields.filter fun f => !f.isStatic).map (MemberInfo.described pool) := by
  induction fields with
  | nil => rfl
  | cons f fields inductionHypothesis =>
    cases static : f.isStatic with
    | true => simpa [static] using inductionHypothesis
    | false => simpa [static] using inductionHypothesis

/-- A class file is read from the magic to its last attribute. -/
theorem class_spells (levels : Nat) :
    (classReading levels).Spells levels ClassInfo.WellFormed ClassInfo.bytes
      ClassInfo.described := by
  rw [classReading_eq]
  apply Spells.exchange ?parts
  case parts =>
    apply magic_spells
    exact (pass_word_spells levels).bind _ fun _ _ => (pass_word_spells levels).bind _ fun _ _ =>
      (pool_spells levels).bind _ fun pool _ => (u2_spells levels).bind _ fun _ _ =>
        (className_spells pool.2 levels).bind _ fun _ _ =>
          (pass_word_spells levels).bind _ fun _ _ => (interfaces_spells levels).bind _ fun _ _ =>
            (field_spells pool.2 levels).counted.bind _ fun _ _ =>
              (passMethod_spells levels).counted.bind _ fun _ _ =>
                (passAttributes_spells levels).map _
  · rintro ⟨minor, major, ⟨count, pool⟩, flags, thisClass, superClass, interfaces, fields, methods,
      attributes⟩ ⟨_, _, ⟨fits, filled, entriesFit⟩, _, named, _, interfacesFit,
      ⟨fieldsFit, eachField⟩, ⟨methodsFit, eachMethod⟩, attributesFit⟩
    -- A count of zero means an empty pool, which names no class.
    have filledToCount : pool.slotCount + 1 = count := by
      have positive := slotCount_pos pool thisClass named
      simp only at filled
      omega
    refine ⟨⟨minor, major, pool, flags, thisClass, superClass, interfaces, fields, methods,
      attributes⟩, ?_, ?_, ?_⟩
    · exact {
        slotsFit := by rw [filledToCount]; exact fits
        entriesFit := entriesFit
        interfacesFit := interfacesFit
        fieldsFit := fieldsFit
        fieldAttributesFit := fun f member => (eachField f member).1
        methodsFit := methodsFit
        methodAttributesFit := eachMethod
        attributesFit := attributesFit
        named := named
        fieldsResolve := fun f member => (eachField f member).2 }
    · simp only [ClassInfo.bytes, filledToCount, List.append_assoc]
    · simp only [ClassInfo.described, filterMap_static]
  · rintro m wellFormed
    refine ⟨(m.minorVersion, m.majorVersion, (m.pool.slotCount + 1, m.pool), m.flags, m.thisClass,
      m.superClass, m.interfaces, m.fields, m.methods, m.attributes), ?_, ?_, ?_⟩
    · exact ⟨trivial, trivial, ⟨wellFormed.slotsFit, rfl, wellFormed.entriesFit⟩, trivial,
        wellFormed.named, trivial, wellFormed.interfacesFit,
        ⟨wellFormed.fieldsFit, fun f member =>
          ⟨wellFormed.fieldAttributesFit f member, wellFormed.fieldsResolve f member⟩⟩,
        ⟨wellFormed.methodsFit, wellFormed.methodAttributesFit⟩, wellFormed.attributesFit⟩
    · simp only [ClassInfo.bytes, List.append_assoc]
    · simp only [ClassInfo.described, filterMap_static]

/-- An input is parsed exactly when it is the spelling of a well-formed class file. The class that
is described is what the class file stands for. -/
theorem parse_eq_ok_iff (data : List UInt8) (described : ClassDescriptor) :
    parse data = .ok described ↔
      ∃ m : ClassInfo, m.WellFormed ∧ m.bytes = data ∧ m.described = described := by
  rw [← class_spells data.length 0 data described (Nat.le_refl _), Reads, parse, Cursor.start]
  cases ran : (classReading data.length).run ⟨0, data⟩ with
  | error defect => simp
  | ok step =>
    obtain ⟨value, offset, rest⟩ := step
    obtain ⟨used, joined, arrived, _⟩ := (run_eq_ok_iff _ _ _ _).mp ran
    cases rest with
    | nil =>
      simp only [List.append_nil] at joined arrived
      simp [joined, arrived]
    | cons b left => simp

end TagAudit.ClassFile
