import TagAudit.Scan.Outcome

/-!
# Reading files one or several at a time

A single reader takes up a file, and its outcome is gone through before the next file is taken up.
Several readers finish files in an order of their own. Outcomes are gone through in the order of the
files all the same: one that comes early waits until those before it have come. When an outcome
ends everything, files that were not finished by then are not waited for.

The order of the readers is an argument, so what holds for every order can be stated.
-/

namespace TagAudit.Scan

open Log

/-- What a single reader's files come to, and the entries made. -/
def oneByOne (skipInvalid : Bool) (logger : Logger) : List Outcome → Collected × List Entry
  | [] => (.ok ([], []), [])
  | outcome :: rest =>
    match outcome.judge skipInvalid logger with
    | (.error failure, entries) => (.error failure, outcome.takenUp logger :: entries)
    | (.ok first, entries) =>
      let (others, later) := oneByOne skipInvalid logger rest
      (.followedBy first others, outcome.takenUp logger :: entries ++ later)

/-- The outcomes whose turn has come: those at the front that have all been finished. -/
def due (finished : List Nat) (waiting : List (Nat × Outcome)) : List (Nat × Outcome) :=
  waiting.takeWhile fun entry => finished.contains entry.1

/-- What several readers' files come to, given the numbers of the files in the order in which they
    are finished, those that are finished already, and the outcomes that were not gone through. -/
def asFinished (skipInvalid : Bool) (logger : Logger) :
    (order finished : List Nat) → (waiting : List (Nat × Outcome)) → Collected × List Entry
  | [], _, _ => (.ok ([], []), [])
  | number :: order, finished, waiting =>
    let finished := number :: finished
    let ready := due finished waiting
    let taken := (waiting.filter fun entry => entry.1 == number).map fun entry =>
      entry.2.takenUp logger
    match judgeAll skipInvalid logger (ready.map Prod.snd) with
    | (.error failure, entries) => (.error failure, taken ++ entries)
    | (.ok first, entries) =>
      let (others, later) :=
        asFinished skipInvalid logger order finished (waiting.drop ready.length)
      (.followedBy first others, taken ++ entries ++ later)

/-- The numbers of files with their outcomes. -/
def numbered (outcomes : List Outcome) : List (Nat × Outcome) :=
  (List.range outcomes.length).zip outcomes

/-- What files come to that are read by a number of readers, of whom there are no more than
    files. -/
def collect (readers : Int) (order : List Nat) (skipInvalid : Bool) (logger : Logger)
    (outcomes : List Outcome) : Collected × List Entry :=
  if min readers outcomes.length ≤ 1 then oneByOne skipInvalid logger outcomes
  else asFinished skipInvalid logger order [] (numbered outcomes)

end TagAudit.Scan
