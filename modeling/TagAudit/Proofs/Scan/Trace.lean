import TagAudit.Proofs.Keyed
import TagAudit.Proofs.Scan.Verdict

/-!
# What the log tells of a scan

Two scans of the same files differ in the number of the scan, in the time they take and in the
number of readers, and so do their logs. With several readers a file may also be taken up long
before its turn has come. What is left when these things are taken out of a log are its essentials:
they follow from the files alone, in whatever order the readers finish them.

The result of a scan follows from the files as well. If it is a failure, it is that of the first
file that fails, whatever the readers have found out about later files by then.
-/

namespace TagAudit.Scan

open ClassFile Log

/-- The field that tells which scan an entry belongs to. -/
def scanIdField : Text := "scan_id"

/-- Whether a field of an entry may differ between scans of the same files. -/
def isIncidental (event name : Text) : Bool :=
  name == scanIdField ||
    (event == Text.ofString "scan_start" && name == Text.ofString "workers") ||
    (event == Text.ofString "scan_done" && name == Text.ofString "elapsed_s")

/-- Fields of an entry without those that may differ. -/
def essentialFields (event : Text) (fields : Keyed Text Data) : Keyed Text Data :=
  fields.filter fun field => !isIncidental event field.1

/-- An entry without the fields that may differ. -/
def essence (e : Entry) : Entry := { e with fields := essentialFields e.event e.fields }

/-- What is essential of an event: of an entry about a file that is taken up nothing, and of any
other entry its essence. -/
def essential? : Event → Option Event
  | .entry e => if e.event = takenUpEvent then none else some (.entry (essence e))
  | .mute => some .mute
  | .unmute => some .unmute

/-- What is essential of all that happens to a log. -/
def essentials (events : List Event) : List Event := events.filterMap essential?

/-- The essentials of what happens in two parts. -/
@[simp]
theorem essentials_append (first others : List Event) :
    essentials (first ++ others) = essentials first ++ essentials others :=
  List.filterMap_append

/-- Of entries only the essence counts, and of those about files that are taken up nothing. -/
theorem essentials_map_entry (entries : List Entry) :
    essentials (entries.map Event.entry) =
      ((entries.filter fun e => e.event != takenUpEvent).map essence).map Event.entry := by
  induction entries with
  | nil => rfl
  | cons e rest inductionHypothesis =>
    rw [essentials] at inductionHypothesis ⊢
    by_cases reading : e.event = takenUpEvent
    · simp [essential?, reading, inductionHypothesis]
    · simp [essential?, reading, inductionHypothesis]

/-- Entries of the same essence have the same essentials. -/
theorem essentials_congr (entries others : List Entry)
    (same : entries.map essence = others.map essence) :
    essentials (entries.map Event.entry) = essentials (others.map Event.entry) := by
  have selected (entries : List Entry) :
      (entries.filter fun e => e.event != takenUpEvent).map essence =
        (entries.map essence).filter fun e => e.event != takenUpEvent := by
    rw [List.filter_map]
    rfl
  rw [essentials_map_entry, essentials_map_entry, selected, selected, same]

section
variable {first second : Logger}

/-- Loggers that differ at most in the number of the scan. -/
def Alike (first second : Logger) : Prop :=
  (first.context.filter fun field => field.1 != scanIdField) =
    second.context.filter fun field => field.1 != scanIdField

/-- The loggers of two scans of one directory are alike. -/
theorem alike_loggerOf (context other : Context) (root : Path)
    (sameLogger : other.logger = context.logger) :
    Alike (loggerOf context root) (loggerOf other root) := by
  simp only [Alike, loggerOf, Logger.bind, sameLogger]
  rw [Keyed.filter_putAll (· != scanIdField), Keyed.filter_putAll (· != scanIdField)]
  simp [scanIdField]

/-- Loggers that are alike make entries of the same essence from fields that differ at most where
they may. -/
theorem essence_entry (alike : Alike first second) (level : Log.Level) (event : Text)
    (fields others : Keyed Text Data)
    (same : essentialFields event fields = essentialFields event others) :
    essence (first.entry level event fields) = essence (second.entry level event others) := by
  -- The number of the scan is among the fields that may differ.
  have narrower (context : Keyed Text Data) : essentialFields event context =
      essentialFields event (context.filter fun field => field.1 != scanIdField) := by
    rw [essentialFields, essentialFields, List.filter_filter]
    refine List.filter_congr fun field _ => ?_
    by_cases number : field.1 = scanIdField <;> simp [isIncidental, number]
  have made (logger : Logger) (fields : Keyed Text Data) :
      essence (logger.entry level event fields) =
        ⟨level, event, Keyed.putAll (essentialFields event logger.context)
          (essentialFields event fields)⟩ :=
    congrArg (Entry.mk level event) (Keyed.filter_putAll (fun name => !isIncidental event name) _ _)
  rw [made, made, same, narrower first.context, alike, ← narrower second.context]

end

/-- Files came to the same, with entries of the same essence. -/
def Judged.Agree (first second : Judged) : Prop :=
  first.1 = second.1 ∧ first.2.map essence = second.2.map essence

/-- Where parts agree, so does what they come to together. -/
theorem Judged.Agree.andThen {first second others others' : Judged} (agree : first.Agree second)
    (later : others.Agree others') : (first.andThen others).Agree (second.andThen others') := by
  obtain ⟨collected, entries⟩ := first
  obtain ⟨collected', entries'⟩ := second
  obtain ⟨sameEnd, sameEntries⟩ := agree
  obtain rfl : collected = collected' := sameEnd
  cases collected with
  | error failure => exact ⟨rfl, sameEntries⟩
  | ok both =>
    have joined : (entries ++ others.2).map essence = (entries' ++ others'.2).map essence := by
      rw [List.map_append, List.map_append, later.2]
      exact congrArg (· ++ _) sameEntries
    exact ⟨congrArg (Collected.followedBy both) later.1, joined⟩

section
variable {first second : Logger} (alike : Alike first second)

include alike in
/-- Outcomes come to the same with loggers that are alike. -/
theorem judgeAll_agree (skipInvalid : Bool) (outcomes : List Outcome) :
    Judged.Agree (judgeAll skipInvalid first outcomes) (judgeAll skipInvalid second outcomes) := by
  have one (outcome : Outcome) :
      Judged.Agree (outcome.judge skipInvalid first) (outcome.judge skipInvalid second) := by
    rw [Outcome.judge, Outcome.judge]
    cases outcome.result with
    | ok described => exact ⟨rfl, rfl⟩
    | error failure =>
      cases skipInvalid <;>
        exact ⟨rfl, congrArg (fun e => [e]) (essence_entry alike _ _ _ _ rfl)⟩
  induction outcomes with
  | nil => exact ⟨rfl, rfl⟩
  | cons outcome rest inductionHypothesis =>
    rw [judgeAll_cons, judgeAll_cons]
    exact (one outcome).andThen inductionHypothesis

include alike in
/-- Classes are examined with entries of the same essence. -/
theorem trace_alike (tagType : Text) (classes : List ClassDescriptor) :
    (Report.trace tagType first classes).map essence =
      (Report.trace tagType second classes).map essence := by
  have one (c : ClassDescriptor) : (Conflicts.trace tagType first c).map essence =
      (Conflicts.trace tagType second c).map essence := by
    rw [Conflicts.trace, Conflicts.trace, List.map_map, List.map_map]
    exact List.map_congr_left fun f _ => essence_entry alike _ _ _ _ rfl
  rw [Report.trace, Report.trace, List.map_flatMap, List.map_flatMap]
  exact congrArg (classes.flatMap ·) (funext one)

include alike in
/-- A scan is concluded with the same result but for the time, and with entries of the same
essence. -/
theorem conclude_alike (settings other : ScanSettings) (sameType : other.tagType = settings.tagType)
    (duration later : Duration) (root : Path) (classes : List ClassDescriptor)
    (skipped : List Skipped) :
    (conclude other second later root classes skipped).1 =
      { (conclude settings first duration root classes skipped).1 with duration := later } ∧
    (conclude settings first duration root classes skipped).2.map essence =
      (conclude other second later root classes skipped).2.map essence := by
  rw [conclude, conclude, sameType]
  refine ⟨rfl, ?_⟩
  rw [List.map_append, List.map_append, trace_alike alike]
  exact congrArg _ (congrArg (fun e => [e]) (essence_entry alike _ _ _ _ rfl))

end

end TagAudit.Scan
