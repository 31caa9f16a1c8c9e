import TagAudit.Log.Routing
import TagAudit.Settings.Check

/-!
# Logging sessions

In a session the outputs are set up again and again, records are made, and blocks that mute the
console are entered and left. Settings that do not pass their check change nothing. Settings that
pass replace all that was set up before, also when one of their outputs cannot be opened: then those
before it are in place, and the rest is not.
-/

namespace TagAudit.Log

/-- The state of a session. -/
structure Session where
  routing : Routing := .untouched
  muted : Bool := false
  tree : Node := .empty

namespace Session

/-- What can be done in a session. -/
inductive Step where
  /-- Sets the outputs up as data says. -/
  | configure (asked : Data)
  | record (r : Record)
  /-- Makes an entry at a time. -/
  | make (logger : Logger) (level : Level) (event : Text) (fields : Keyed Text Data) (time : Text)
  /-- Enters a block that mutes the console. -/
  | enter
  /-- Leaves a block that mutes the console. -/
  | leave

/-- What a step comes to. -/
inductive Reply where
  | configured (settings : LogSettings)
  | refused (refusal : Refusal)
  /-- An output could not be opened. -/
  | unopened (problem : PathProblem)
  | written (what : List Written)
  /-- A field has a name that it cannot have. -/
  | misnamed

/-- Sets the outputs up. -/
def configure (s : Session) (workingPlace : Place) (settings : LogSettings) : Session × Reply :=
  let opened := s.tree.openOutputs workingPlace settings.outputs
  let s := { s with
    tree := opened.tree
    routing := .outputs { settings with outputs := opened.outputs } }
  match opened.problem with
  | none => (s, .configured settings)
  | some problem => (s, .unopened problem)

/-- Writes a record. -/
def write (s : Session) (workingPlace : Place) (r : Record) : Session × Reply :=
  let written := s.routing.deliver s.muted r
  ({ s with tree := s.tree.append workingPlace written }, .written written)

/-- Takes a step. -/
def step (s : Session) (workingPlace : Place) (homes : Homes) : Step → Session × Reply
  | .configure asked =>
    match LogSettings.check homes asked with
    | .error refusal => (s, .refused refusal)
    | .ok settings => s.configure workingPlace settings
  | .record r => s.write workingPlace r
  | .make logger level event fields time =>
    if Logger.allows (s.routing.admits level) fields then
      s.write workingPlace ⟨logger.entry level event fields, time, false⟩
    else (s, .misnamed)
  | .enter => ({ s with muted := true }, .written [])
  | .leave => ({ s with muted := false }, .written [])

/-- Takes steps in order, with the session after each. -/
def steps (s : Session) (workingPlace : Place) (homes : Homes) : List Step → List (Session × Reply)
  | [] => []
  | step :: rest =>
    let taken := s.step workingPlace homes step
    taken :: steps taken.1 workingPlace homes rest

end Session

end TagAudit.Log
