import TagAudit.Log.Routing

/-!
# Where log records are written

What is written for a record goes to the destinations of the outputs, and nowhere else, except that
where there is no output the error stream is the last resort. So a stream other than that one stays
as it is as long as no output writes to it. Wherever it goes, it is whole lines.
-/

namespace TagAudit.Text

/-- A text of whole lines. -/
def IsLines (t : Text) : Prop := t = [] ∨ ∃ front, t = front ++ "\n"

/-- Whole lines behind whole lines are whole lines. -/
theorem IsLines.append {first second : Text} (left : first.IsLines) (right : second.IsLines) :
    (first ++ second).IsLines := by
  rcases right with rfl | ⟨front, rfl⟩
  · rwa [List.append_nil]
  · exact .inr ⟨first ++ front, (List.append_assoc _ _ _).symm⟩

end TagAudit.Text

namespace TagAudit.Log.Routing

section
variable {settings : LogSettings}

/-- What is written for a record goes to the error stream or to an output. -/
theorem destination_of_deliver {muted : Bool} {r : Record} {written : Written}
    (due : written ∈ (outputs settings).deliver muted r) :
    written.1 = .stderr ∨ ∃ output ∈ settings.outputs, written.1 = output.destination := by
  rw [deliver] at due
  split at due
  · left
    split at due
    · rw [lastResort] at due
      split at due
      · rw [List.mem_singleton.mp due]
      · cases due
    · cases due
  · obtain ⟨output, accepting, rfl⟩ := List.mem_map.mp due
    rw [writtenBy]
    split
    · exact .inr ⟨output, (List.mem_filter.mp accepting).1, rfl⟩
    · exact .inl rfl

/-- What is written for a record is whole lines. -/
theorem isLines_of_deliver {muted : Bool} {r : Record} {written : Written}
    (due : written ∈ (outputs settings).deliver muted r) : written.2.IsLines := by
  have trouble : trouble.IsLines := .inr ⟨"--- Logging error ---", rfl⟩
  rw [deliver] at due
  split at due
  · split at due
    · rw [lastResort] at due
      split at due
      · rw [List.mem_singleton.mp due]
        dsimp only
        split
        · exact .inr ⟨_, rfl⟩
        · exact trouble
      · cases due
    · cases due
  · obtain ⟨output, -, rfl⟩ := List.mem_map.mp due
    rw [writtenBy]
    split
    · exact .inr ⟨_, rfl⟩
    · exact trouble

/-- What is written in the course of events is written for a record. -/
theorem exists_deliver_of_deliverAll {routing : Routing} {time : Text} {muted : Bool}
    {events : List Event} {written : Written}
    (due : written ∈ routing.deliverAll time muted events) :
    ∃ muted r, written ∈ routing.deliver muted r := by
  induction events generalizing muted with
  | nil => cases due
  | cons event rest inductionHypothesis =>
    rw [deliverAll, List.mem_append] at due
    rcases due with now | later
    · cases event with
      | entry e => exact ⟨_, _, now⟩
      | mute => cases now
      | unmute => cases now
    · exact inductionHypothesis later

/-- An output stream that no output writes to stays as it is. -/
theorem writtenTo_stdout_deliverAll
    (apart : ∀ output ∈ settings.outputs, output.destination ≠ .stdout) (time : Text) (muted : Bool)
    (events : List Event) :
    writtenTo .stdout ((outputs settings).deliverAll time muted events) = [] := by
  have none : ∀ written ∈ (outputs settings).deliverAll time muted events, written.1 ≠ .stdout := by
    intro written due same
    obtain ⟨muted, r, delivered⟩ := exists_deliver_of_deliverAll due
    rcases destination_of_deliver delivered with console | ⟨output, among, there⟩
    · cases same.symm.trans console
    · exact apart output among (there.symm.trans same)
  have filtered : ((outputs settings).deliverAll time muted events).filter
      (fun entry => decide (entry.1 = .stdout)) = [] := by
    rw [List.filter_eq_nil_iff]
    intro written due
    simpa using none written due
  rw [writtenTo, filtered, List.flatMap_nil]

end

/-- Where only whole lines are written, each destination gets whole lines. -/
theorem isLines_writtenTo {destination : LogDestination} {written : List Written}
    (lines : ∀ entry ∈ written, entry.2.IsLines) : (writtenTo destination written).IsLines := by
  induction written with
  | nil => exact .inl rfl
  | cons entry rest inductionHypothesis =>
    have others := inductionHypothesis fun entry among => lines entry (List.mem_cons_of_mem _ among)
    rw [writtenTo, List.filter_cons]
    split
    · exact (lines entry List.mem_cons_self).append others
    · exact others

/-- What two stretches write to a destination is written one after the other. -/
theorem writtenTo_append (destination : LogDestination) (first second : List Written) :
    writtenTo destination (first ++ second) =
      writtenTo destination first ++ writtenTo destination second := by
  rw [writtenTo, List.filter_append, List.flatMap_append]
  rfl

end TagAudit.Log.Routing

namespace TagAudit.Node

variable {workingPlace : Place} {outputs : List LogOutput} {tree : Node}

/-- Outputs that are opened are among those that were to be opened. -/
theorem subset_of_openOutputs :
    (openOutputs workingPlace outputs tree).outputs ⊆ outputs := by
  induction outputs generalizing tree with
  | nil => exact List.Subset.refl []
  | cons output rest inductionHypothesis =>
    rw [openOutputs]
    split
    · exact List.nil_subset _
    · exact List.cons_subset_cons output inductionHypothesis

/-- All of them are opened if there is no problem. -/
theorem openOutputs_of_opened (opened : (openOutputs workingPlace outputs tree).problem = none) :
    (openOutputs workingPlace outputs tree).outputs = outputs := by
  induction outputs generalizing tree with
  | nil => rfl
  | cons output rest inductionHypothesis =>
    rw [openOutputs] at opened ⊢
    cases prepared : output.prepare workingPlace tree with
    | error problem => simp [prepared] at opened
    | ok made =>
      rw [prepared] at opened
      exact congrArg (output :: ·) (inductionHypothesis opened)

end TagAudit.Node
