import TagAudit.Proofs.ClassFile.ClassFormat
import TagAudit.Proofs.ClassFile.Extension
import TagAudit.Proofs.ClassFile.Failing
import TagAudit.Proofs.ClassFile.Lookups
import TagAudit.Proofs.ClassFile.RoundTrip
import TagAudit.Proofs.ClassFile.Sites

/-!
# The grounds of a refusal

An input that is refused gives grounds for the failure that is reported: what the failure says about
the bytes is true of them. Missing bytes are missing where the input ends, a tag that is unknown
stands where it is said to stand, and an index that cannot be looked up is asked for by the bytes
behind a pool in which it names nothing of the kind.

There is a place for every kind of failure where readings decide on it. Following the runs from one
place to the next shows that no other failure comes up, however the input is malformed.
-/

namespace TagAudit.ClassFile

open Reading ConstantPool

/-- An input opens with the magic, versions, a declared count, and entries of a pool. -/
structure Opens (data : List UInt8) (count : Nat) (pool : Pool) (behind : List UInt8) : Prop where
  counted : count < 65536
  entriesFit : ∀ e ∈ pool, e.Fits
  spelled : ∃ versions, versions.length = 4 ∧
    data = bytesOf 4 magic ++ versions ++ bytesOf 2 count ++ pool.flatMap PoolEntry.bytes ++ behind

/-- The bytes behind a pool ask for a constant of a kind at an index. -/
inductive Asks (pool : Pool) (behind : List UInt8) : Nat → ConstantKind → Prop where
  /-- Behind the flags stands the index of the class. -/
  | thisClass (flags index : UInt16) (left : List UInt8)
      (spelled : behind = bytesOf 2 flags.toNat ++ bytesOf 2 index.toNat ++ left) :
      Asks pool behind index.toNat .classRef
  /-- The class is named by the text at an index. -/
  | className (flags thisClass index : UInt16) (left : List UInt8)
      (spelled : behind = bytesOf 2 flags.toNat ++ bytesOf 2 thisClass.toNat ++ left)
      (found : pool.entryAt? thisClass.toNat = some (.classRef index)) :
      Asks pool behind index.toNat .text
  /-- Behind a class that has a name, fields ask for what they are made of. -/
  | member (flags thisClass : UInt16) (named : (pool.className? thisClass).isSome)
      (used : List UInt8) (kind : ConstantKind) (site : MembersSite pool used kind)
      (index : UInt16) (left : List UInt8)
      (spelled : behind = bytesOf 2 flags.toNat ++ bytesOf 2 thisClass.toNat ++ used ++
        bytesOf 2 index.toNat ++ left) :
      Asks pool behind index.toNat kind

/-- The bytes of an input are grounds for a failure of the file with a name. -/
inductive Grounds (source : Data) (data : List UInt8) : Failure → Prop where
  /-- The input ends before the bytes that are wanted do. -/
  | missing (offset wanted available : Nat) (total : offset + available = data.length)
      (short : available < wanted) :
      Grounds source data (.truncated source (.int offset) (.int wanted) (.int available))
  /-- The first four bytes are others, and are shown in hexadecimal. -/
  | magic (first left : List UInt8) (shown : Int) (split : data = first ++ left)
      (four : first.length = 4) (wrong : first ≠ bytesOf 4 magic)
      (same : Failure.shownMagic (.int shown) =
        "0x" ++ first.flatMap fun b => Text.padded 16 2 b.toNat) :
      Grounds source data (.badMagic source (.int shown))
  /-- Behind the entries of a pool that is not full yet stands a byte that is no tag. -/
  | constantTag (count : Nat) (pool : Pool) (tag : UInt8) (left : List UInt8)
      (opens : Opens data count pool (tag :: left)) (notFull : pool.slotCount + 1 < count)
      (unknown : tag.toNat ∉ [1, 3, 4, 5, 6, 7, 8, 9, 10, 11, 12, 15, 16, 17, 18, 19, 20]) :
      Grounds source data
        (.badConstantTag source (.int (pool.slotCount + 1 : Nat)) (.int tag.toNat))
  /-- The last slot of a pool is taken by an entry that needs two. -/
  | overrun (count : Nat) (pool : Pool) (e : PoolEntry) (left : List UInt8)
      (opens : Opens data count (pool ++ [e]) left) (last : pool.slotCount + 2 = count)
      (two : e.kind.slots = 2) :
      Grounds source data
        (.malformed source (.text "8-byte constant overruns constant_pool_count")
          [("count", .int count)])
  /-- An index that is asked for lies outside of the pool. -/
  | outside (count : Nat) (pool : Pool) (behind : List UInt8) (index : Nat) (kind : ConstantKind)
      (opens : Opens data count pool behind) (full : pool.slotCount = count - 1)
      (asks : Asks pool behind index kind) (beyond : index = 0 ∨ count ≤ index) :
      Grounds source data (.badConstantIndex source (.int index) .null)
  /-- Where an index is asked for no constant of the kind starts. -/
  | lacking (count : Nat) (pool : Pool) (behind : List UInt8) (index : Nat) (kind : ConstantKind)
      (label : String) (opens : Opens data count pool behind) (full : pool.slotCount = count - 1)
      (asks : Asks pool behind index kind) (inside : 0 < index ∧ index < count)
      (lacks : pool.Lacks index kind) (labelled : kind.label? = some label) :
      Grounds source data (.badConstantIndex source (.int index) (.text label))
  /-- A text that is asked for has bytes that stand for none. -/
  | undecodable (count : Nat) (pool : Pool) (behind : List UInt8) (index : Nat)
      (raw : List UInt8) (opens : Opens data count pool behind)
      (full : pool.slotCount = count - 1) (asks : Asks pool behind index .text)
      (found : pool.entryAt? index = some (.text raw))
      (noText : ¬∃ units, Utf8.Denotes raw units) :
      Grounds source data
        (.malformed source (.text ("invalid modified UTF-8 at constant " ++ Text.ofNat index))
          [("index", .int index)])
  /-- A byte that should announce an element value is none of the letters. -/
  | elementTag (front : List UInt8) (tag : UInt8) (left : List UInt8)
      (split : data = front ++ tag :: left)
      (unknown : tag.toNat ∉ "BCDFIJSZsec@[".toList.map Char.toNat) :
      Grounds source data (.badElementTag source (.int tag.toNat) (.int front.length))
  /-- Annotations are longer or shorter than the length in front of them. -/
  | annotations (front : List UInt8) (declared : Nat) (list : List AnnotationInfo)
      (left : List UInt8)
      (split : data =
        front ++ bytesOf 4 declared ++ (AttributeBody.annotations list).bytes ++ left)
      (differs : (AttributeBody.annotations list).bytes.length ≠ declared) :
      Grounds source data
        (.malformed source
          (.text ("RuntimeVisibleAnnotations declares " ++ Text.ofNat declared
            ++ " byte(s) but holds " ++ Text.ofNat (AttributeBody.annotations list).bytes.length))
          [("offset", .int (front.length + 4 : Nat))])
  /-- Bytes follow a class file that is complete. -/
  | trailing (m : ClassInfo) (left : List UInt8) (wellFormed : m.WellFormed)
      (split : data = m.bytes ++ left) (nonempty : left ≠ []) :
      Grounds source data
        (.malformed source
          (.text (Text.ofNat left.length ++ " trailing byte(s) after class attributes")) [])

/-- The bytes of an input are grounds for a defect. -/
def Founded (source : Option Text) (data : List UInt8) (defect : Defect) : Prop :=
  Grounds (Data.ofText? source) data (Failure.ofDefect source defect)

/-- Every one of the tags announces a kind. -/
theorem ConstantKind.isSome_ofTag? :
    ∀ tag ∈ [1, 3, 4, 5, 6, 7, 8, 9, 10, 11, 12, 15, 16, 17, 18, 19, 20],
      (ConstantKind.ofTag? tag).isSome := by
  decide

/-- Every one of the letters announces a form. -/
theorem ElementForm.isSome_ofTag? :
    ∀ tag ∈ "BCDFIJSZsec@[".toList.map Char.toNat, (ElementForm.ofTag? tag).isSome := by
  decide

section
variable {source : Option Text} {data : List UInt8} {c : Cursor} {count : Nat} {pool : Pool}

/-- Bytes that are missing on the way through an input are missing in it. -/
theorem missingIs_founded : MissingIs (.start data) (Founded source data) := by
  intro c width reached short
  have total := reached.total
  rw [Cursor.start, Nat.zero_add] at total
  exact .missing c.offset width c.rest.length total short

/-- An entry that fits belongs to the pool that an input opens with. -/
theorem Opens.push {e : PoolEntry} {behind : List UInt8} (fits : e.Fits)
    (opens : Opens data count pool (e.bytes ++ behind)) :
    Opens data count (pool ++ [e]) behind := by
  obtain ⟨versions, four, split⟩ := opens.spelled
  refine ⟨opens.counted, fun other among => ?_, versions, four, by simp [split]⟩
  rcases List.mem_append.mp among with earlier | last
  · exact opens.entriesFit other earlier
  · obtain rfl := List.mem_singleton.mp last
    exact fits

/-- Where the payload of a constant cannot be read, bytes are missing. -/
theorem constant_failsBehind (kind : ConstantKind) :
    (Constant.reading kind).FailsBehind (.start data) (Founded source data) := by
  have missing : MissingIs (.start data) (Founded source data) := missingIs_founded
  cases kind with
  | text => exact (missing.take 2 bigEndian).bind fun length => (missing.take length id).map
  | integer | float => exact (missing.take 4 bigEndian).map
  | long | double => exact (missing.take 8 id).map
  | classRef | string => exact (missing.take 2 bigEndian).map
  | _ => exact (missing.pass _).map

/-- A pool that is being filled fails for the next tag, for the last slot, or for missing bytes. -/
theorem fill_failsAs {left : Nat} (reached : (Cursor.start data).Reaches c)
    (opens : Opens data count pool c.rest) (unfilled : pool.slotCount + 1 + left = count) :
    (fill count left (ofEntries pool).slots).FailsAs (Founded source data) c := by
  induction left using Nat.strongRecOn generalizing pool c with
  | ind left inductionHypothesis =>
    cases left with
    | zero => exact failsAs_done _
    | succ left =>
      rw [fill_succ]
      refine FailsAs.bind (missingIs_founded.take 1 bigEndian c reached)
        fun _ tag tagged passed accepted => ?_
      obtain ⟨word, rfl, rfl⟩ := (reads_u1 _ _ _).mp accepted
      cases announced : ConstantKind.ofTag? word.toNat with
      | none =>
        have unknown := mt (ConstantKind.isSome_ofTag? word.toNat) (by simp [announced])
        have single : bytesOf 1 word.toNat = [word] := by simp [bytesOf]
        rw [passed.1, single] at opens
        apply failsAs_fail
        rw [Founded, size_ofEntries]
        exact .constantTag count pool word tagged.rest opens (by omega) unknown
      | some kind =>
        have reachedTag := reached.trans ⟨_, passed⟩
        refine FailsAs.bind (constant_failsBehind kind tagged reachedTag)
          fun _ constant behind held payload => ?_
        obtain ⟨e, rfl, fits, rfl, rfl⟩ := (reads_payload_iff _ _ _ _).mp payload
        have spelled : c.rest = e.bytes ++ behind.rest := by
          rw [passed.1, held.1, PoolEntry.bytes,
            (ConstantKind.ofTag?_eq_some_iff _ _).mp announced, List.append_assoc]
        rw [spelled] at opens
        have slots := e.kind.slots_cases
        split
        · have added : (pool ++ [e]).slotCount = pool.slotCount + e.kind.slots :=
            Pool.slotCount_append pool [e]
          have onward := inductionHypothesis (left + 1 - e.kind.slots) (by omega)
            (reachedTag.trans ⟨_, held⟩) (opens.push fits) (by omega)
          simpa [ofEntries, PoolEntry.slots] using onward
        · apply failsAs_fail
          exact .overrun count pool e behind.rest (opens.push fits) (by omega) (by omega)

/-- A run through an input has come behind a full pool. -/
structure BehindPool (data : List UInt8) (count : Nat) (pool : Pool) (behind : Cursor) : Prop where
  reached : (Cursor.start data).Reaches behind
  opens : Opens data count pool behind.rest
  full : pool.slotCount = count - 1

variable {behind : Cursor} {index : Nat} {kind : ConstantKind} {defect : Defect}

/-- The letters stand for constants of kinds that have a name. -/
theorem ConstantForm.labelled (form : ConstantForm) : ∃ label, form.kind.label? = some label := by
  cases form <;> exact ⟨_, rfl⟩

namespace BehindPool

/-- Behind some bytes stands an index at which a constant of a kind is asked for. -/
def Asked (pool : Pool) (behind : Cursor) : Site := fun used kind =>
  ∀ (index : UInt16) (left : List UInt8), behind.rest = used ++ bytesOf 2 index.toNat ++ left →
    Asks pool behind.rest index.toNat kind

/-- Readings behind the pool fail for what they ask for, with no more than so many bytes left. -/
abbrev Fails {α : Type} (source : Option Text) (data : List UInt8) (pool : Pool) (behind : Cursor)
    (bound : Nat) (site : Site) (r : Reading α) : Prop :=
  r.FailsWithin behind (Founded source data) (Asked pool behind) bound site

variable (stands : BehindPool data count pool behind)
include stands

/-- Bytes that are missing behind the pool are missing in the input. -/
theorem missing : MissingIs behind (Founded source data) :=
  missingIs_founded.onward stands.reached

/-- The kind that is asked for at an index is what a lookup that fails there misses. -/
theorem founded_of_pick {α : Type} {kept : Constant → Option α}
    (keeps : ∀ e : PoolEntry, e.kind = kind → (kept e.constant).isSome)
    (labelled : ∃ label, kind.label? = some label) (asks : Asks pool behind.rest index kind)
    (failed : (ofEntries pool).pick kind kept index = .error defect) :
    Founded source data defect := by
  have full := stands.full
  rcases pick_eq_error keeps failed with ⟨outside, rfl⟩ | ⟨positive, among, lacks, rfl⟩
  · exact .outside count pool behind.rest index kind stands.opens full asks (by omega)
  · obtain ⟨label, named⟩ := labelled
    simp only [Founded, Failure.ofDefect, Option.bind_some, named, Option.map_some]
    exact .lacking count pool behind.rest index kind label stands.opens full asks (by omega) lacks
      named

/-- A text that is asked for at an index is missing there, or its bytes are none. -/
theorem founded_of_text (asks : Asks pool behind.rest index .text)
    (failed : (ofEntries pool).text index = .error defect) : Founded source data defect := by
  rcases text_eq_error failed with unpicked | ⟨raw, found, noText, rfl⟩
  · refine stands.founded_of_pick (fun e isText => ?_) ⟨_, rfl⟩ asks unpicked
    cases e <;> first | rfl | cases isText
  · exact .undecodable count pool behind.rest index raw stands.opens stands.full asks found noText

/-- An index that is read behind the pool fails with what is looked up there. -/
theorem index_failsAs {α : Type} {find : Nat → Except Defect α} (reached : behind.Reaches c)
    (each : ∀ (index : UInt16) (left : List UInt8), c.rest = bytesOf 2 index.toNat ++ left →
      ∀ defect, find index.toNat = .error defect → Founded source data defect) :
    (Reading.u2.bind fun index => .ofExcept (find index)).FailsAs (Founded source data) c := by
  refine FailsAs.bind (stands.missing.take 2 bigEndian c reached)
    fun _ index after passed accepted => ?_
  obtain ⟨word, rfl, rfl⟩ := (reads_u2 _ _ _).mp accepted
  exact failsAs_ofExcept (each word after.rest passed.1)

/-- An index fails where it is asked for. -/
theorem index_fails {α : Type} {find : Nat → Except Defect α} {bound : Nat}
    (each : ∀ (index : UInt16) (defect : Defect), Asks pool behind.rest index.toNat kind →
      find index.toNat = .error defect → Founded source data defect) :
    Fails source data pool behind bound (.here kind)
      (Reading.u2.bind fun index => .ofExcept (find index)) := by
  intro front c passed _ among
  refine stands.index_failsAs ⟨front, passed⟩ fun index left spelled defect failed => ?_
  refine each index defect (among [] kind ⟨rfl, rfl⟩ index left ?_) failed
  rw [passed.1, spelled, List.append_nil, List.append_assoc]

/-- A text fails where it is asked for. -/
theorem text_fails {bound : Nat} :
    Fails source data pool behind bound (.here .text) (textReading (ofEntries pool)) :=
  stands.index_fails fun _ _ asks failed => stands.founded_of_text asks failed

/-- A constant fails where it is asked for. -/
theorem constant_fails {α : Type} {kept : Constant → Option α} {bound : Nat}
    (keeps : ∀ e : PoolEntry, e.kind = kind → (kept e.constant).isSome)
    (labelled : ∃ label, kind.label? = some label) :
    Fails source data pool behind bound (.here kind)
      (constantReading (ofEntries pool) kind kept) :=
  stands.index_fails fun _ _ asks failed => stands.founded_of_pick keeps labelled asks failed

/-- An annotation fails as the values in it do, or for the texts in it. -/
theorem annotationOver_fails {inner : Reading ElementValue} {bound : Nat}
    (spells : inner.Spells bound (fun e : ElementInfo => e.Fits ∧ e.Resolves pool)
      ElementInfo.bytes (ElementInfo.value pool))
    (values : Fails source data pool behind bound (ElementSite pool) inner) :
    Fails source data pool behind bound (AnnotationSite pool)
      (annotationOver (ofEntries pool) inner) := by
  have texts := text_spells pool bound
  have pair : Fails source data pool behind bound (PairSite pool)
      ((textReading (ofEntries pool)).bind fun name => inner.bind fun value =>
        .done (name, value)) := by
    refine stands.text_fails.bind texts (fun _ _ => values.map _) ?_ ?_
    · rintro _ _ ⟨rfl, rfl⟩
      exact .name
    · intro name named used kind inside
      exact .value name named inside
  rw [annotationOver_eq]
  refine stands.text_fails.bind texts
    (fun _ _ => (pair.counted stands.missing (texts.both spells Prod.mk)).map _) ?_ ?_
  · rintro _ _ ⟨rfl, rfl⟩
    exact .type
  · rintro type typed _ kind ⟨before, used, amid, inside, rfl⟩
    exact .pair type typed amid inside

/-- What follows a letter fails for the constant, the texts or the values that it announces. -/
theorem body_fails {inner : Reading ElementValue} {bound : Nat}
    (spells : inner.Spells bound (fun e : ElementInfo => e.Fits ∧ e.Resolves pool)
      ElementInfo.bytes (ElementInfo.value pool))
    (values : Fails source data pool behind bound (ElementSite pool) inner) {tag : Nat}
    {form : ElementForm} (announced : ElementForm.ofTag? tag = some form) :
    Fails source data pool behind bound
      (fun used kind => ElementSite pool (bytesOf 1 tag ++ used) kind)
      (bodyReading (ofEntries pool) inner form) := by
  have texts := text_spells pool bound
  have text (isSite : ElementSite pool (bytesOf 1 tag) .text) :
      Fails source data pool behind bound
        (fun used kind => ElementSite pool (bytesOf 1 tag ++ used) kind)
        (textReading (ofEntries pool)) := by
    refine stands.text_fails.mono ?_
    rintro _ _ ⟨rfl, rfl⟩
    rwa [List.append_nil]
  have kept {α β : Type} {holds : Constant → Option α} (f : α → β) (constant : ConstantForm)
      (tagged : constant.tag = tag)
      (keeps : ∀ e : PoolEntry, e.kind = constant.kind → (holds e.constant).isSome) :
      Fails source data pool behind bound
        (fun used kind => ElementSite pool (bytesOf 1 tag ++ used) kind)
        ((constantReading (ofEntries pool) constant.kind holds).bind fun value =>
          .done (f value)) := by
    refine ((stands.constant_fails keeps constant.labelled).mono ?_).map f
    rintro _ _ ⟨rfl, rfl⟩
    rw [List.append_nil, ← tagged]
    exact .constant constant
  have integers (e : PoolEntry) (same : e.kind = .integer) : (e.constant.integer?).isSome := by
    cases e <;> first | rfl | cases same
  rcases (ElementForm.ofTag?_eq_some_iff tag form).mp announced with
    ⟨constant, tagged, rfl⟩ | ⟨rfl, rfl⟩ | ⟨rfl, rfl⟩ | ⟨rfl, rfl⟩ | ⟨rfl, rfl⟩
  · cases constant with
    | byte => exact kept _ .byte tagged integers
    | int => exact kept _ .int tagged integers
    | short => exact kept _ .short tagged integers
    | char => exact kept _ .char tagged integers
    | boolean => exact kept _ .boolean tagged integers
    | long => exact kept _ .long tagged fun e same => by cases e <;> first | rfl | cases same
    | float => exact kept _ .float tagged fun e same => by cases e <;> first | rfl | cases same
    | double => exact kept _ .double tagged fun e same => by cases e <;> first | rfl | cases same
    | string => exact (text (tagged ▸ .constant .string)).map _
  · refine (text .enumType).bind texts (fun _ _ => stands.text_fails.map _)
      (fun _ _ isSite => isSite) ?_
    rintro type typed _ _ ⟨rfl, rfl⟩
    rw [List.append_nil]
    exact .enumName type typed
  · exact (text .classLiteral).map _
  · exact ((stands.annotationOver_fails spells values).mono fun _ _ => .nested).map _
  · refine ((values.counted stands.missing spells).mono ?_).map _
    rintro _ kind ⟨before, used, amid, inside, rfl⟩
    exact .item amid inside

/-- An element value fails for its letter or for what follows it. -/
theorem elementValueOver_fails {inner : Reading ElementValue} {bound : Nat}
    (spells : inner.Spells bound (fun e : ElementInfo => e.Fits ∧ e.Resolves pool)
      ElementInfo.bytes (ElementInfo.value pool))
    (values : Fails source data pool behind bound (ElementSite pool) inner) :
    Fails source data pool behind (bound + 1) (ElementSite pool)
      (elementValueOver (ofEntries pool) fun _ => inner) := by
  intro front c passed short among
  rw [elementValueOver_eq]
  refine FailsAs.bindOffset (FailsAs.bind (stands.missing.take 1 bigEndian c ⟨front, passed⟩)
    fun _ tag tagged letter accepted => ?_)
  obtain ⟨word, rfl, rfl⟩ := (reads_u1 _ _ _).mp accepted
  cases announced : ElementForm.ofTag? word.toNat with
  | none =>
    obtain ⟨before, split, movedToo⟩ := stands.reached.trans ⟨front, passed⟩
    have single : bytesOf 1 word.toNat = [word] := by simp [bytesOf]
    have unknown := mt (ElementForm.isSome_ofTag? word.toNat) (by simp [announced])
    rw [letter.1, single] at split
    rw [Cursor.start, Nat.zero_add] at movedToo
    apply failsAs_fail
    rw [Founded, movedToo]
    exact .elementTag before word tagged.rest split unknown
  | some form =>
    have shorter := letter.length_eq
    rw [bytesOf_length] at shorter
    refine stands.body_fails spells values announced _ tagged (passed.trans letter) (by omega)
      fun used kind isSite => ?_
    rw [List.append_assoc]
    exact among _ kind isSite

/-- Element values fail for the letters and for what follows them, at every depth. -/
theorem elementValue_fails (levels : Nat) :
    Fails source data pool behind levels (ElementSite pool)
      (elementValue (ofEntries pool) levels) := by
  induction levels with
  | zero => exact (stands.missing.take 1 fun _ => ElementValue.null).within
  | succ levels inductionHypothesis =>
    exact stands.elementValueOver_fails (elementValue_spells pool levels) inductionHypothesis

/-- Annotations of an attribute fail for what is in them, or for the length in front of them. -/
theorem annotationsReading_failsAs {levels declared : Nat} {used : List UInt8}
    (passed : behind.Passes used c) (short : c.rest.length ≤ levels)
    (among : ∀ further kind,
      Site.amid (fun a : AnnotationInfo => a.Fits ∧ a.Resolves pool) AnnotationInfo.bytes
        (AnnotationSite pool) further kind → Asked pool behind (used ++ further) kind)
    {front : List UInt8} (announced : data = front ++ bytesOf 4 declared ++ c.rest)
    (here : c.offset = front.length + 4) :
    (annotationsReading (ofEntries pool) levels declared).FailsAs (Founded source data) c := by
  have values := elementValue_spells pool levels
  have single : Fails source data pool behind levels (AnnotationSite pool)
      (annotationReading (ofEntries pool) levels) :=
    stands.annotationOver_fails values (stands.elementValue_fails levels)
  have each := single.counted stands.missing (annotation_spells pool values)
  have lists := (annotation_spells pool values).counted
  rw [annotationsReading_eq]
  refine FailsAs.bindOffset (FailsAs.bind (each used c passed short among)
    fun held annotations after within accepted => FailsAs.bindOffset ?_)
  have counted := within.length_eq
  obtain ⟨list, _, rfl, _⟩ := (lists _ held annotations (by omega)).mp accepted
  rw [within.2, Nat.add_sub_cancel_left]
  split
  · exact failsAs_done _
  · rename_i differs
    apply failsAs_fail
    rw [Founded, here]
    refine .annotations front declared list after.rest ?_ differs
    rw [announced, within.1, AttributeBody.bytes]
    simp only [List.append_assoc]

/-- An attribute of a field fails for its name, for the annotations in it, or for missing bytes. -/
theorem fieldAttribute_fails (levels : Nat) (isStatic : Bool) :
    Fails source data pool behind levels (AttributeSite pool isStatic)
      (fieldAttribute (ofEntries pool) levels isStatic) := by
  intro front c passed short among
  rw [fieldAttribute_eq]
  refine FailsAs.bind (stands.text_fails front c passed short ?_)
    fun _ name named naming accepted => ?_
  · rintro _ _ ⟨rfl, rfl⟩
    exact among [] .text .name
  obtain ⟨index, rfl, found⟩ := (reads_text pool _ _ _).mp accepted
  have passedName := passed.trans naming
  refine FailsAs.bind (stands.missing.take 4 bigEndian named ⟨_, passedName⟩)
    fun _ length held measuring acceptedToo => ?_
  obtain ⟨fits, rfl⟩ := (reads_u4 _ _ _).mp acceptedToo
  have passedLength := passedName.trans measuring
  split
  · rename_i decoded
    obtain ⟨before, split, movedBefore⟩ := stands.reached.trans ⟨_, passedName⟩
    rw [Cursor.start, Nat.zero_add] at movedBefore
    have moved := measuring.2
    rw [bytesOf_length, movedBefore] at moved
    rw [measuring.1, ← List.append_assoc] at split
    have left : held.rest.length ≤ levels := by
      rw [(naming.trans measuring).length_eq] at short
      omega
    refine stands.annotationsReading_failsAs passedLength left ?_ split moved
    rintro _ kind ⟨amidst, used, amid, inside, rfl⟩
    rw [List.append_assoc, List.append_assoc]
    exact among _ kind (.annotated index (found.trans (congrArg some decoded.1))
      (by simpa using decoded.2) length fits amid inside)
  · exact (stands.missing.pass length).map held ⟨_, passedLength⟩

/-- A field fails for its indexes and for its attributes. -/
theorem fieldReading_fails (levels : Nat) :
    Fails source data pool behind levels (FieldSite pool)
      (fieldReading (ofEntries pool) levels) := by
  have texts := text_spells pool levels
  rw [fieldReading_eq]
  refine (stands.missing.take 2 bigEndian).bindWithin (u2_spells levels) ?_
    fun _ _ _ _ isSite => isSite
  intro flags _
  refine stands.text_fails.bind texts ?_ ?_ fun _ _ _ _ isSite => isSite
  · intro name named
    refine stands.text_fails.bind texts ?_ ?_ fun _ _ _ _ isSite => isSite
    · intro descriptor typed
      rw [static_bit]
      refine (((stands.fieldAttribute_fails levels _).counted stands.missing
        (fieldAttribute_spells pool levels _)).mono ?_).map _
      rintro _ kind ⟨before, used, amid, inside, rfl⟩
      exact .attribute flags name descriptor named typed amid inside
    · rintro _ _ ⟨rfl, rfl⟩
      rw [List.append_nil]
      exact .descriptor flags name named
  · rintro _ _ ⟨rfl, rfl⟩
    rw [List.append_nil]
    exact .name flags

/-- Attributes that are passed over fail for missing bytes. -/
theorem passAttributes_failsBehind : passAttributes.FailsBehind behind (Founded source data) := by
  have single : passAttribute.FailsBehind behind (Founded source data) := by
    rw [passAttribute_eq]
    exact (stands.missing.pass 2).bind fun _ =>
      (stands.missing.take 4 bigEndian).bind fun length => stands.missing.pass length
  rw [passAttributes_eq]
  exact (stands.missing.counted single).map

/-- The name of the class fails for its two indexes. -/
theorem className_failsAs {flags : UInt16} (reached : behind.Reaches c)
    (flagged : behind.rest = bytesOf 2 flags.toNat ++ c.rest) :
    (Reading.u2.bind fun index => .ofExcept ((ofEntries pool).className index)).FailsAs
      (Founded source data) c := by
  refine stands.index_failsAs reached fun index left spelled defect failed => ?_
  have placed : behind.rest = bytesOf 2 flags.toNat ++ bytesOf 2 index.toNat ++ left := by
    rw [flagged, spelled, List.append_assoc]
  rcases className_eq_error failed with unpicked | ⟨name, found, unread⟩
  · refine stands.founded_of_pick (fun e isClass => ?_) ⟨_, rfl⟩
      (.thisClass flags index left placed) unpicked
    cases e <;> first | rfl | cases isClass
  · exact stands.founded_of_text (.className flags index name left placed found) unread

/-- What follows the name of the class fails for a field or for missing bytes. -/
theorem members_fails {levels : Nat} (described : List (Option Field) → ClassDescriptor) :
    Fails source data pool behind levels (MembersSite pool)
      ((Reading.pass 2).bind fun _ =>
        (Reading.u2.bind fun count => Reading.pass (2 * count)).bind fun _ =>
          (counted (fieldReading (ofEntries pool) levels)).bind fun fields =>
            (counted passMethod).bind fun _ => passAttributes.bind fun _ =>
              .done (described fields)) := by
  have methods : passMethod.FailsBehind behind (Founded source data) := by
    rw [passMethod_eq]
    exact (stands.missing.pass 6).bind fun _ => stands.passAttributes_failsBehind
  have interfaces : (Reading.u2.bind fun count => Reading.pass (2 * count)).FailsBehind behind
      (Founded source data) :=
    (stands.missing.take 2 bigEndian).bind fun count => stands.missing.pass (2 * count)
  have fields : Fails source data pool behind levels _
      (counted (fieldReading (ofEntries pool) levels)) :=
    (stands.fieldReading_fails levels).counted stands.missing (field_spells pool levels)
  refine (stands.missing.pass 2).bindWithin (pass_word_spells levels) ?_
    fun _ _ _ _ isSite => isSite
  intro superClass _
  refine interfaces.bindWithin (interfaces_spells levels) ?_ fun _ _ _ _ isSite => isSite
  intro indexes counted front c passed short among
  refine FailsAs.bind (fields front c passed short ?_) fun _ _ after further _ => ?_
  · rintro _ kind ⟨before, used, amid, inside, rfl⟩
    exact among _ kind (.field superClass indexes counted amid inside)
  · exact ((stands.missing.counted methods).bind fun _ => stands.passAttributes_failsBehind.map)
      after ⟨_, passed.trans further⟩

end BehindPool

/-- A pool fails for what stands in it, and a run that has read it has come behind it. -/
theorem pool_failsAs (reached : (Cursor.start data).Reaches c) {versions : List UInt8}
    (four : versions.length = 4) (announced : data = bytesOf 4 magic ++ versions ++ c.rest) :
    ConstantPool.reading.FailsAs (Founded source data) c := by
  rw [ConstantPool.reading, bind_eq]
  refine FailsAs.bind (missingIs_founded.take 2 bigEndian c reached)
    fun _ count counted passed accepted => ?_
  cases count with
  | zero => exact failsAs_done _
  | succ left =>
    obtain ⟨fits, rfl⟩ := (reads_count _ _ _).mp accepted
    have opens : Opens data (left + 1) [] counted.rest := by
      refine ⟨fits, by simp, versions, four, ?_⟩
      rw [announced, passed.1]
      simp
    exact fill_failsAs (reached.trans ⟨_, passed⟩) opens (Nat.add_comm _ _)

/-- A run that has read a pool behind versions has come behind its entries. -/
theorem BehindPool.of_reads (reached : (Cursor.start data).Reaches c) {versions : List UInt8}
    (four : versions.length = 4) (announced : data = bytesOf 4 magic ++ versions ++ c.rest)
    {used : List UInt8} {pool : ConstantPool} (passed : c.Passes used behind)
    (accepted : ConstantPool.reading.Reads c.offset used pool) :
    ∃ count entries, pool = ofEntries entries ∧ BehindPool data count entries behind := by
  obtain ⟨count, entries, fits, full, entriesFit, rfl, rfl⟩ := (reads_pool _ _ _).mp accepted
  refine ⟨count, entries, rfl, reached.trans ⟨_, passed⟩, ⟨fits, entriesFit, _, four, ?_⟩, full⟩
  rw [announced, passed.1]
  simp

/-- What follows the magic fails for the pool, for the name of the class, for a field, or for
missing bytes. -/
theorem afterMagic_failsAs {levels : Nat} (enough : data.length ≤ levels)
    (reached : (Cursor.start data).Reaches c) (announced : data = bytesOf 4 magic ++ c.rest) :
    (afterMagic levels).FailsAs (Founded source data) c := by
  have missing : MissingIs (.start data) (Founded source data) := missingIs_founded
  rw [afterMagic]
  refine FailsAs.bind (missing.pass 2 c reached) fun first _ minor passed two => ?_
  have reachedMinor := reached.trans ⟨_, passed⟩
  refine FailsAs.bind (missing.pass 2 minor reachedMinor)
    fun second _ major passedToo twoToo => ?_
  have reachedMajor := reachedMinor.trans ⟨_, passedToo⟩
  have four : (first ++ second).length = 4 := by
    rw [List.length_append, (reads_pass _ _ _ _).mp two, (reads_pass _ _ _ _).mp twoToo]
  have versioned : data = bytesOf 4 magic ++ (first ++ second) ++ major.rest := by
    rw [announced, passed.1, passedToo.1]
    simp
  refine FailsAs.bind (pool_failsAs reachedMajor four versioned)
    fun _ pool behind passedPool accepted => ?_
  obtain ⟨count, entries, rfl, stands⟩ :=
    BehindPool.of_reads reachedMajor four versioned passedPool accepted
  refine FailsAs.bind (stands.missing.take 2 bigEndian behind (.here behind))
    fun _ flags flagged passedFlags acceptedFlags => ?_
  obtain ⟨word, rfl, rfl⟩ := (reads_u2 _ _ _).mp acceptedFlags
  refine FailsAs.bind (stands.className_failsAs ⟨_, passedFlags⟩ passedFlags.1)
    fun used name after naming acceptedName => ?_
  obtain ⟨thisClass, named, rfl, rfl⟩ :=
    (className_spells entries used.length _ used name (Nat.le_refl _)).mp acceptedName
  have passedName := passedFlags.trans naming
  have left : after.rest.length ≤ levels := by
    have total := (stands.reached.trans ⟨_, passedName⟩).total
    rw [Cursor.start, Nat.zero_add] at total
    dsimp only at total
    omega
  refine stands.members_fails _ _ after passedName left
    fun used kind isSite index left spelled => ?_
  exact .member word thisClass named used kind isSite index left spelled

/-- A byte behind a number takes two digits more in hexadecimal. -/
theorem padded_byte {width : Nat} (positive : 0 < width) (n : Nat) (b : UInt8) :
    Text.padded 16 (width + 2) (n * 256 + b.toNat) =
      Text.padded 16 width n ++ Text.padded 16 2 b.toNat := by
  have small : b.toNat < 256 := b.toNat_lt
  have front : (n * 256 + b.toNat) / 16 / 16 = n := by omega
  have high : (n * 256 + b.toNat) / 16 % 16 = b.toNat / 16 := by omega
  have low : (n * 256 + b.toNat) % 16 = b.toNat % 16 := by omega
  have alone : Text.padded 16 1 (b.toNat / 16) = [CodePoint.ofDigit (b.toNat / 16)] := by
    have digit : Text.digits 16 (b.toNat / 16) = [b.toNat / 16] :=
      Text.digitsUpTo_of_lt _ (by omega)
    simp [Text.padded, digit]
  rw [Text.padded_succ (by decide) (by omega), Text.padded_succ (by decide) positive, front, high,
    low, Text.padded_succ (by decide) (by decide), alone, List.append_assoc]

/-- Bytes behind a number take two digits each. -/
theorem padded_bytes {width : Nat} (positive : 0 < width) (n : Nat) (bytes : List UInt8) :
    Text.padded 16 (width + 2 * bytes.length) (bytes.foldl (fun n b => n * 256 + b.toNat) n) =
      Text.padded 16 width n ++ bytes.flatMap fun b => Text.padded 16 2 b.toNat := by
  induction bytes generalizing width n with
  | nil => simp
  | cons b rest inductionHypothesis =>
    have longer : width + 2 * (b :: rest).length = width + 2 + 2 * rest.length := by
      rw [List.length_cons]
      omega
    rw [List.foldl_cons, longer, inductionHypothesis (by omega), padded_byte positive,
      List.flatMap_cons, List.append_assoc]

/-- The four bytes of a magic are shown by two digits each. -/
theorem shownMagic_bigEndian {first : List UInt8} (four : first.length = 4) :
    Failure.shownMagic (.int (bigEndian first)) =
      "0x" ++ first.flatMap fun b => Text.padded 16 2 b.toNat := by
  cases first with
  | nil => cases four
  | cons b rest =>
    have three : 8 = 2 + 2 * rest.length := by
      rw [List.length_cons] at four
      omega
    have leading : bigEndian (b :: rest) = rest.foldl (fun n b => n * 256 + b.toNat) b.toNat := by
      simp [bigEndian]
    have written := padded_bytes (by decide : 0 < 2) b.toNat rest
    rw [← three, ← leading] at written
    rw [Failure.shownMagic, Failure.integer?, Option.getD_some, Failure.magicText,
      if_neg (by omega), Int.natAbs_natCast, written, List.flatMap_cons]

/-- A class fails for the first four bytes, or for what follows them. -/
theorem class_failsAs {levels : Nat} (enough : data.length ≤ levels) :
    (classReading levels).FailsAs (Founded source data) (.start data) := by
  rw [classReading_eq]
  refine FailsAs.bind (missingIs_founded.take 4 bigEndian _ (.here _))
    fun taken first after passed accepted => ?_
  obtain ⟨four, rfl⟩ :=
    (bigEndian_eq_iff 4 first taken).mpr ((reads_word 4 _ taken first).mp accepted)
  split
  · rename_i wrong
    refine failsAs_fail (.magic taken after.rest _ passed.1 four ?_ (shownMagic_bigEndian four))
    rintro rfl
    exact wrong (bigEndian_bytesOf 4 magic (by decide))
  · rename_i right
    refine afterMagic_failsAs enough ⟨_, passed⟩ ?_
    rw [← not_ne_iff.mp right, ← four, bytesOf_bigEndian]
    exact passed.1

/-- A defect that is reported of an input is founded in it. -/
theorem founded_of_parse {defect : Defect} (refused : parse data = .error defect) :
    Founded source data defect := by
  rw [parse_eq_settled data data.length (Nat.le_refl _)] at refused
  rcases (settled_eq_error_iff _ defect).mp refused with failed | trailing
  · exact class_failsAs (Nat.le_refl _) defect failed
  · obtain ⟨described, offset, left, ran, nonempty, rfl⟩ := trailing
    obtain ⟨used, split, _, accepted⟩ := (run_eq_ok_iff _ _ _ _).mp ran
    have short : used.length ≤ data.length := by
      rw [show data = used ++ left from split, List.length_append]
      exact Nat.le_add_right _ _
    obtain ⟨m, wellFormed, rfl, _⟩ := (class_spells data.length _ used described short).mp accepted
    exact .trailing m left wellFormed split nonempty

/-- Four bytes that are not the magic are refused, whatever follows them. -/
theorem parse_of_wrong_magic {first : List UInt8} (left : List UInt8) (four : first.length = 4)
    (wrong : first ≠ bytesOf 4 magic) :
    parse (first ++ left) = .error (.badMagic (bigEndian first)) := by
  have read : u4.Reads 0 first (bigEndian first) :=
    (reads_word 4 0 first _).mpr ((bigEndian_eq_iff 4 _ first).mp ⟨four, rfl⟩)
  have ran : u4.run (.start (first ++ left)) = .ok (bigEndian first, ⟨4, left⟩) :=
    (run_eq_ok_iff u4 _ _ _).mpr ⟨first, rfl, by rw [Cursor.start, four], read⟩
  have differs : bigEndian first ≠ magic := by
    intro same
    rw [← same, ← four, bytesOf_bigEndian] at wrong
    exact wrong rfl
  rw [parse_eq_settled _ _ (Nat.le_refl _), classReading_eq, run_bind, ran]
  dsimp only
  rw [if_pos differs, run, settled]

/-- What there are grounds for is a failure of a class file that can be reported. -/
theorem Grounds.reportable {name : Data} {failure : Failure} (grounds : Grounds name data failure) :
    failure.family = .classFile ∧ failure.problem? = none := by
  cases grounds with
  | elementTag front tag left split unknown =>
    have small : tag.toNat < 256 := tag.toNat_lt
    refine ⟨rfl, ?_⟩
    rw [Failure.problem?, Failure.tagProblem?, Failure.integer?]
    dsimp only
    rw [if_neg (by simp; omega), if_neg (by simp; omega)]
  | _ => exact ⟨rfl, rfl⟩

end

/-- Every refusal of an input has its grounds in the bytes. It belongs to one of the six kinds of
failures of class files, it can be reported, and what it says is true: where bytes are missing,
which tag is unknown, what an index should have named, which text cannot be decoded, what an
attribute declares and holds, and how many bytes are left over. A magic is refused exactly if there
are four bytes and they are others. -/
theorem verdict_grounds (source : Option Text) (data : List UInt8) :
    (∀ failure, verdict source data = .error failure →
      Grounds (Data.ofText? source) data failure ∧ failure.family = .classFile ∧
        failure.code ∈ [3001, 3002, 3003, 3004, 3005, 3006] ∧ failure.problem? = none) ∧
    ((∃ failure, verdict source data = .error failure ∧ failure.code = 3002) ↔
      4 ≤ data.length ∧ data.take 4 ≠ [0xCA, 0xFE, 0xBA, 0xBE]) := by
  have founded (failure : Failure) (refused : verdict source data = .error failure) :
      Grounds (Data.ofText? source) data failure := by
    obtain ⟨defect, found, rfl⟩ := (verdict_eq_error_iff source data failure).mp refused
    exact founded_of_parse found
  refine ⟨fun failure refused => ?_, ?_⟩
  · have grounds := founded failure refused
    refine ⟨grounds, grounds.reportable.1, ?_, grounds.reportable.2⟩
    cases grounds <;> simp [Failure.code]
  · constructor
    · rintro ⟨failure, refused, isMagic⟩
      cases founded failure refused with
      | magic first left shown split four wrong same =>
        rw [split, ← four, List.take_left]
        exact ⟨by simp, wrong⟩
      | _ => cases isMagic
    · rintro ⟨enough, wrong⟩
      have four : (data.take 4).length = 4 := List.length_take_of_le enough
      have refused := parse_of_wrong_magic (data.drop 4) four wrong
      rw [List.take_append_drop] at refused
      exact ⟨_, (verdict_eq_error_iff source data _).mpr ⟨_, refused, rfl⟩, rfl⟩

/-- Grounds are found for bytes that are missing, for a magic and a tag that are others, and in a
class for the second slot of a constant, for a letter, for a length and for a byte too many. -/
theorem refusals_grounds :
    let opening : List UInt8 := [0xCA, 0xFE, 0xBA, 0xBE, 0, 0, 0, 52, 0, 3]
    let refused (input : List UInt8) (code : Nat) :=
      ∃ failure, verdict none input = .error failure ∧ failure.code = code ∧
        Grounds .null input failure
    refused (opening.take 6) 3001 ∧ refused [0, 0, 0, 0] 3002 ∧
      refused (opening ++ [5, 0, 0, 0, 0, 0, 0, 0, 9, 0, 33, 0, 2]) 3003 ∧
      refused (opening ++ [2]) 3004 ∧ refused (compiledClass.set 95 0x3F) 3005 ∧
      refused (compiledClass.set 86 12) 3006 ∧ refused (compiledClass ++ [0]) 3006 := by
  have refused (input : List UInt8) (code : Nat)
      (coded : (match verdict none input with
        | .ok _ => none
        | .error failure => some failure.code) = some code) :
      ∃ failure, verdict none input = .error failure ∧ failure.code = code ∧
        Grounds .null input failure := by
    cases found : verdict none input with
    | ok described => simp [found] at coded
    | error failure =>
      have same : failure.code = code := by simpa [found] using coded
      exact ⟨failure, rfl, same, ((verdict_grounds none input).1 failure found).1⟩
  refine ⟨refused _ _ ?_, refused _ _ ?_, refused _ _ ?_, refused _ _ ?_, refused _ _ ?_,
    refused _ _ ?_, refused _ _ ?_⟩
  all_goals decide +kernel

end TagAudit.ClassFile
