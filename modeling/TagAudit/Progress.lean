import TagAudit.Keyed
import TagAudit.Log.Event
import TagAudit.Text.Markup

/-!
# Progress

A run hands out items one by one and shows how far it has come. It decides how when its first item
is asked for: with more than a hundred items to come and a terminal to draw on, a bar is drawn and
the console is muted until the run is over; otherwise the beginning and the end are noted in the
log. A run that is closed early hands out nothing more, and its end is not noted. A run whose bar
would have markup that does not let it be shown is over at once.

A session holds several runs, and blocks that mute the console on their own account.
-/

namespace TagAudit.Progress

/-- Totals up to this one need no bar. -/
def threshold : Int := 100

/-- How far a run has come. -/
inductive Stage where
  /-- No item has been asked for. -/
  | waiting
  /-- The beginning is in the log. -/
  | traced
  /-- A bar is drawn. -/
  | drawn
  | finished
deriving DecidableEq

/-- A run through items. -/
structure Run (α : Type) where
  desc : Text := "Parsing"
  /-- The number of items, as far as it is known beforehand. -/
  total : Option Int
  /-- What the items are called beside the bar. -/
  unit : Text := "classes"
  /-- The items still to come. -/
  left : List α
  stage : Stage := .waiting

namespace Run

variable {α : Type}

/-- A run through items that has not begun. Unless a total is given, it is the number of the items,
    if they have one. -/
def through (items : List α) (isSized : Bool) (given : Option Int) (desc unit : Text) : Run α where
  desc := desc
  total := given.or (if isSized then some items.length else none)
  unit := unit
  left := items

/-- An entry about a run. -/
def note (run : Run α) (event : Text) : Log.Event :=
  let total : Data := (run.total.map Data.int).getD .null
  let logger := (Log.Logger.named "progress").bind [("desc", .text run.desc), ("total", total)]
  .entry (logger.entry .debug event [])

/-- Whether a run draws a bar when it begins. -/
def wantsBar (run : Run α) (terminal : Bool) : Bool :=
  terminal && (run.total.map fun total => decide (threshold < total)).getD false

/-- What is wrong with a bar as it is first drawn. -/
def barProblem? (run : Run α) : Option Markup.Problem :=
  let total := (run.total.map Text.ofInt).getD []
  let parts : List Text := ["    " ++ run.desc ++ ":", "0/" ++ total ++ " " ++ run.unit]
  parts.findSome? fun part =>
    match Markup.shown part with
    | .ok _ => none
    | .error problem => some problem

/-- What is wrong with the bar that a run draws when it begins now, if it does so. -/
def unshown? (run : Run α) (terminal : Bool) : Option Markup.Problem :=
  if run.stage = .waiting && run.wantsBar terminal then run.barProblem? else none

/-- Begins a run that has not begun. -/
def opened (run : Run α) (terminal : Bool) : Run α × List Log.Event :=
  match run.stage with
  | .waiting =>
    if run.wantsBar terminal then ({ run with stage := .drawn }, [.mute])
    else ({ run with stage := .traced }, [run.note "progress_start"])
  | _ => (run, [])

/-- What the end of a run brings with it. -/
def ending (run : Run α) : List Log.Event :=
  match run.stage with
  | .traced => [run.note "progress_done"]
  | .drawn => [.unmute]
  | .waiting | .finished => []

/-- The run when nothing more will come of it. -/
def ended (run : Run α) : Run α := { run with left := [], stage := .finished }

/-- The next item, if there is one, or what is wrong with the bar. -/
def next (run : Run α) (terminal : Bool) :
    Except Markup.Problem (Option α) × Run α × List Log.Event :=
  match run.unshown? terminal with
  | some problem => (.error problem, run.ended, [.mute, .unmute])
  | none =>
    let (run, events) := run.opened terminal
    match run.left with
    | item :: rest => (.ok (some item), { run with left := rest }, events)
    | [] => (.ok none, run.ended, events ++ run.ending)

/-- All items that are left, or what is wrong with the bar. -/
def drain (run : Run α) (terminal : Bool) :
    Except Markup.Problem (List α) × Run α × List Log.Event :=
  match run.unshown? terminal with
  | some problem => (.error problem, run.ended, [.mute, .unmute])
  | none =>
    let (run, events) := run.opened terminal
    (.ok run.left, run.ended, events ++ run.ending)

/-- Ends a run early. -/
def close (run : Run α) : Run α × List Log.Event :=
  match run.stage with
  | .drawn => (run.ended, [.unmute])
  | _ => (run.ended, [])

end Run

/-- Several runs at one terminal. -/
structure Session (α : Type) where
  terminal : Bool := false
  muted : Bool := false
  runs : Keyed Text (Run α) := []

/-- What can be done in a session. -/
inductive Step (α : Type) where
  | setTerminal (terminal : Bool)
  | create (name : Text) (run : Run α)
  | next (name : Text)
  | drain (name : Text)
  | close (name : Text)
  /-- Enters a block that mutes the console. -/
  | enter
  /-- Leaves a block that mutes the console. -/
  | leave

/-- What a step answers. -/
inductive Answer (α : Type) where
  | nothing
  | flag (b : Bool)
  | item (a : α)
  | stopped
  | count (n : Nat)
  /-- A bar could not be drawn. -/
  | unshown (problem : Markup.Problem)

namespace Session

variable {α : Type}

/-- The session after events, with one run replaced. -/
def after (s : Session α) (name : Text) (run : Run α) (events : List Log.Event) : Session α :=
  { s with runs := s.runs.put name run, muted := Log.Event.mutedAfterAll s.muted events }

/-- A run by its name; one that was never created is over. -/
def run (s : Session α) (name : Text) : Run α :=
  (s.runs.get? name).getD { total := none, left := [], stage := .finished }

/-- Takes a step, and gives the entries it makes. A new run under the name of another ends the
    other. -/
def step (s : Session α) : Step α → Session α × Answer α × List Log.Entry
  | .setTerminal terminal => ({ s with terminal }, .flag terminal, [])
  | .create name run => (s.after name run (s.run name).close.2, .nothing, [])
  | .next name =>
    let (item, run, events) := (s.run name).next s.terminal
    let answer := match item with
      | .ok (some item) => .item item
      | .ok none => .stopped
      | .error problem => .unshown problem
    (s.after name run events, answer, Log.Event.entries events)
  | .drain name =>
    let (items, run, events) := (s.run name).drain s.terminal
    let answer := match items with
      | .ok items => .count items.length
      | .error problem => .unshown problem
    (s.after name run events, answer, Log.Event.entries events)
  | .close name =>
    let (run, events) := (s.run name).close
    (s.after name run events, .nothing, Log.Event.entries events)
  | .enter => ({ s with muted := true }, .nothing, [])
  | .leave => ({ s with muted := false }, .flag false, [])

/-- Takes steps in order, with the session after each. -/
def steps (s : Session α) : List (Step α) → List (Session α × Answer α × List Log.Entry)
  | [] => []
  | step :: rest =>
    let taken := s.step step
    taken :: steps taken.1 rest

end Session

end TagAudit.Progress
