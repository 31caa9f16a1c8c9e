import TagAudit.Log.Entry

/-!
# What happens to a log

Besides making entries, a run may mute the console and unmute it again. Muting is one switch: it is
set or it is not, whatever set it, and the first unmuting clears it.
-/

namespace TagAudit.Log

/-- Something that happens to a log. -/
inductive Event where
  | entry (e : Entry)
  | mute
  | unmute

namespace Event

/-- Whether the console is muted after an event, given whether it was before. -/
def mutedAfter (muted : Bool) : Event → Bool
  | entry _ => muted
  | mute => true
  | unmute => false

/-- Whether the console is muted after events. -/
def mutedAfterAll (muted : Bool) (events : List Event) : Bool := events.foldl mutedAfter muted

/-- The entry, if the event is one. -/
def entry? : Event → Option Entry
  | entry e => some e
  | _ => none

/-- The entries among events. -/
def entries (events : List Event) : List Entry := events.filterMap entry?

end Event

end TagAudit.Log
