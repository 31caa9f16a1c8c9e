import TagAudit.Proofs.Progress.Muting

/-!
# What comes through progress

To go through items with progress is to go through the items. Whatever else is done in a session,
and however it asks for them, a run hands out its items in order, each once, and nothing after them
or after it was closed. Only what is asked for before it is closed counts: how often an item was
asked for, and whether all of them were.

What a run leaves in the log is settled when something is asked for the first time. Either a bar is
drawn from then on, or the beginning is noted, and the end once all items are exhausted.
-/

namespace TagAudit.Progress

open Log (Event Entry)

variable {α : Type}

/-- What can be asked of a run. -/
inductive Request where
  | next | drain | close
deriving DecidableEq

/-- The requests that are made, each with whether there is a terminal then. -/
abbrev Requests := List (Request × Bool)

namespace Requests

/-- The requests before a run is closed. -/
def heard (requests : Requests) : Requests := requests.takeWhile fun made => made.1 != .close

/-- How often one item is asked for. -/
def singles (requests : Requests) : Nat := requests.countP fun made => made.1 == .next

/-- All items are asked for. -/
def Drain (requests : Requests) : Prop := ∃ made ∈ requests, made.1 = .drain

/-- The run is closed. -/
def Close (requests : Requests) : Prop := ∃ made ∈ requests, made.1 = .close

instance (requests : Requests) : Decidable requests.Drain :=
  inferInstanceAs (Decidable (∃ made ∈ requests, made.1 = .drain))

/-- More items are asked for than there are, or all of them. -/
def Exhaust (requests : Requests) (items : List α) : Prop :=
  requests.Drain ∨ items.length < requests.singles

instance (requests : Requests) (items : List α) : Decidable (requests.Exhaust items) :=
  inferInstanceAs (Decidable (_ ∨ _))

/-- Of items, those that are asked for. -/
def taken (requests : Requests) (items : List α) : List α :=
  if requests.Drain then items else items.take requests.singles

variable (terminal : Bool) (rest : Requests)

/-- Nothing is heard after a run was closed. -/
theorem heard_close : heard ((.close, terminal) :: rest) = [] := rfl

/-- Any other request is heard. -/
theorem heard_cons {request : Request} (other : request ≠ .close) :
    heard ((request, terminal) :: rest) = (request, terminal) :: heard rest :=
  List.takeWhile_cons_of_pos (bne_iff_ne.mpr other)

/-- What is heard first among requests is heard first whatever is asked for later. -/
theorem mem_head?_heard_of_append {first later : Requests} {made : Request × Bool}
    (among : made ∈ first.heard.head?) : made ∈ (heard (first ++ later)).head? := by
  cases first with
  | nil => cases among
  | cons other rest =>
    obtain ⟨request, terminal⟩ := other
    by_cases closes : request = .close
    · subst closes
      cases among
    · rw [heard_cons terminal rest closes] at among
      rw [List.cons_append, heard_cons terminal _ closes]
      exact among

/-- A request for one item is none for all. -/
theorem drain_next : Drain ((.next, terminal) :: rest) ↔ Drain rest := by
  simp [Drain]

/-- A request for all items is one. -/
theorem drain_drain : Drain ((.drain, terminal) :: rest) := ⟨_, List.mem_cons_self, rfl⟩

/-- A request for one item closes nothing. -/
theorem close_next : Close ((.next, terminal) :: rest) ↔ Close rest := by
  simp [Close]

/-- A request to close does. -/
theorem close_close : Close ((.close, terminal) :: rest) := ⟨_, List.mem_cons_self, rfl⟩

/-- A request for one item counts as such. -/
theorem singles_next : singles ((.next, terminal) :: rest) = singles rest + 1 :=
  List.countP_cons_of_pos rfl

/-- Without a request nothing is taken. -/
theorem taken_without (items : List α) : taken [] items = [] := by
  rw [taken, if_neg (by simp [Drain])]
  rfl

/-- Neither is anything exhausted. -/
theorem not_exhaust_without (items : List α) : ¬Exhaust [] items := by
  simp [Exhaust, Drain, singles]

/-- Where there are no items, asking for one exhausts them. -/
theorem exhaust_nil : Exhaust ((.next, terminal) :: rest) ([] : List α) :=
  .inr (by rw [singles_next]; exact Nat.succ_pos _)

/-- Otherwise one fewer is left to be exhausted. -/
theorem exhaust_cons (item : α) (items : List α) :
    Exhaust ((.next, terminal) :: rest) (item :: items) ↔ Exhaust rest items := by
  rw [Exhaust, Exhaust, drain_next, singles_next, List.length_cons, Nat.add_lt_add_iff_right]

/-- Of no items none are taken. -/
theorem taken_nil (requests : Requests) : taken requests ([] : List α) = [] := by
  rw [taken, List.take_nil, ite_self]

/-- Asking for one item takes the first, and what is asked for later is taken from the others. -/
theorem taken_cons (item : α) (items : List α) :
    taken ((.next, terminal) :: rest) (item :: items) = item :: taken rest items := by
  rw [taken, taken, singles_next, List.take_succ_cons]
  simp only [drain_next]
  split <;> rfl

/-- Asking for all items takes them. -/
theorem taken_drain (items : List α) : taken ((.drain, terminal) :: rest) items = items :=
  if_pos (drain_drain terminal rest)

end Requests

/-- An entry about progress through a number of items, if it is known, that are described. -/
def noteEntry (desc : Text) (total : Option Int) (event : Text) : Entry :=
  ((Log.Logger.named "progress").bind
    [("desc", .text desc), ("total", (total.map Data.int).getD .null)]).entry .debug event []

namespace Run

/-- The items that a request brings, what is left of the run, and what happens to the log. -/
def ask (run : Run α) (terminal : Bool) : Request → List α × Run α × List Event
  | .next => (((run.next terminal).1.toOption.join).toList, (run.next terminal).2)
  | .drain => ((run.drain terminal).1.toOption.getD [], (run.drain terminal).2)
  | .close => ([], run.close)

/-- The items that requests bring, what is left of the run, and the entries made. -/
def asked (run : Run α) : Requests → List α × Run α × List Entry
  | [] => ([], run, [])
  | (request, terminal) :: rest =>
    let first := run.ask terminal request
    let later := first.2.1.asked rest
    (first.1 ++ later.1, later.2.1, Event.entries first.2.2 ++ later.2.2)

/-- A run that is over brings nothing more and stays as it is. -/
theorem asked_ended (run : Run α) (requests : Requests) :
    run.ended.asked requests = ([], run.ended, []) := by
  induction requests with
  | nil => rfl
  | cons made rest inductionHypothesis =>
    obtain ⟨request, terminal⟩ := made
    have nothing : run.ended.ask terminal request = ([], run.ended, []) := by
      cases request <;> rfl
    rw [asked, nothing, inductionHypothesis]
    rfl

/-- Only a run that is waiting can have a bar that cannot be shown. -/
theorem unshown?_of_not_waiting (run : Run α) (terminal : Bool) (begun : run.stage ≠ .waiting) :
    run.unshown? terminal = none := by
  rw [unshown?, decide_eq_false begun]
  rfl

/-- A run that has begun and is not over. -/
def IsOpen (run : Run α) : Prop := run.stage = .traced ∨ run.stage = .drawn

/-- The entry about the end of a run, if one is made. -/
def endingEntries (run : Run α) : List Entry :=
  if run.IsLive then [] else [noteEntry run.desc run.total "progress_done"]

variable {run : Run α} (isOpen : run.IsOpen) (terminal : Bool)
include isOpen

/-- A run that has begun is not begun again. -/
theorem opened_of_isOpen : run.opened terminal = (run, []) := by
  rw [opened]
  rcases isOpen with stage | stage <;> rw [stage]

/-- Neither is its bar looked at again. -/
theorem unshown?_of_isOpen : run.unshown? terminal = none := by
  refine run.unshown?_of_not_waiting terminal ?_
  rcases isOpen with stage | stage <;> rw [stage] <;> decide

/-- What is noted when such a run comes to its end. -/
theorem entries_ending : Event.entries run.ending = run.endingEntries := by
  rw [ending, endingEntries]
  rcases isOpen with stage | stage <;> simp only [IsLive, stage] <;> rfl

/-- Closing such a run notes nothing. -/
theorem entries_close : Event.entries run.close.2 = [] := by
  rw [close]
  rcases isOpen with stage | stage <;> rw [stage] <;> rfl

/-- An open run without items comes to its end when it is asked for one. -/
theorem ask_next_nil (none : run.left = []) :
    run.ask terminal .next = ([], run.ended, run.ending) := by
  rw [ask, next, unshown?_of_isOpen isOpen, opened_of_isOpen isOpen]
  simp only [none, List.nil_append]
  rfl

/-- Otherwise it hands out the first. -/
theorem ask_next_cons {item : α} {rest : List α} (some : run.left = item :: rest) :
    run.ask terminal .next = ([item], { run with left := rest }, []) := by
  rw [ask, next, unshown?_of_isOpen isOpen, opened_of_isOpen isOpen]
  simp only [some]
  rfl

/-- Asked for all items it hands them out and comes to its end. -/
theorem ask_drain : run.ask terminal .drain = (run.left, run.ended, run.ending) := by
  rw [ask, drain, unshown?_of_isOpen isOpen, opened_of_isOpen isOpen]
  rfl

omit isOpen

/-- What comes of an open run: the items that are asked for before it is closed, and a note about
its end if they are exhausted by then. Otherwise its bar stays, if it has one. -/
theorem asked_of_isOpen {run : Run α} (isOpen : run.IsOpen) (requests : Requests) :
    (run.asked requests).1 = requests.heard.taken run.left ∧
      (run.asked requests).2.2 =
        (if requests.heard.Exhaust run.left then run.endingEntries else []) ∧
      ((run.asked requests).2.1.IsLive ↔
        run.IsLive ∧ ¬requests.Close ∧ ¬requests.heard.Exhaust run.left) := by
  induction requests generalizing run with
  | nil =>
    have goesOn : ¬(Requests.heard []).Exhaust run.left := Requests.not_exhaust_without _
    have noClose : ¬Requests.Close [] := by simp [Requests.Close]
    rw [if_neg goesOn]
    exact ⟨(Requests.taken_without _).symm, rfl, fun live => ⟨live, noClose, goesOn⟩, And.left⟩
  | cons made rest inductionHypothesis =>
    obtain ⟨request, terminal⟩ := made
    -- Once a run is closed or its items are exhausted it has no bar, and nothing more comes of it.
    have gone {closed exhausted : Prop} (stops : closed ∨ exhausted) :
        run.ended.IsLive ↔ run.IsLive ∧ ¬closed ∧ ¬exhausted :=
      iff_of_false run.not_isLive_ended fun ⟨_, notClosed, goesOn⟩ => stops.elim notClosed goesOn
    cases request with
    | close =>
      have closed : run.ask terminal .close = ([], run.ended, run.close.2) :=
        congrArg (Prod.mk []) (Prod.ext run.close_fst rfl)
      have came : run.asked ((.close, terminal) :: rest) = ([], run.ended, []) := by
        rw [asked, closed, asked_ended, entries_close isOpen]
        rfl
      rw [came, Requests.heard_close, Requests.taken_without,
        if_neg (Requests.not_exhaust_without _)]
      exact ⟨rfl, rfl, gone (.inl (Requests.close_close terminal rest))⟩
    | drain =>
      have heard : Requests.heard ((.drain, terminal) :: rest) = _ :=
        Requests.heard_cons terminal rest (by decide)
      have exhausted : Requests.Exhaust ((.drain, terminal) :: Requests.heard rest) run.left :=
        .inl (Requests.drain_drain _ _)
      have came : run.asked ((.drain, terminal) :: rest) =
          (run.left, run.ended, run.endingEntries) := by
        rw [asked, ask_drain isOpen, asked_ended, entries_ending isOpen]
        simp only [List.append_nil]
      rw [came, heard, Requests.taken_drain, if_pos exhausted]
      exact ⟨rfl, rfl, gone (.inr exhausted)⟩
    | next =>
      have heard : Requests.heard ((.next, terminal) :: rest) = _ :=
        Requests.heard_cons terminal rest (by decide)
      rw [heard]
      cases left : run.left with
      | nil =>
        have exhausted := Requests.exhaust_nil (α := α) terminal (Requests.heard rest)
        have came : run.asked ((.next, terminal) :: rest) = ([], run.ended, run.endingEntries) := by
          rw [asked, ask_next_nil isOpen terminal left, asked_ended, entries_ending isOpen]
          simp only [List.append_nil]
        rw [came, Requests.taken_nil, if_pos exhausted]
        exact ⟨rfl, rfl, gone (.inr exhausted)⟩
      | cons item items =>
        have still : IsOpen { run with left := items } := isOpen
        obtain ⟨handed, noted, live⟩ := inductionHypothesis still
        have came : run.asked ((.next, terminal) :: rest) =
            let later := asked { run with left := items } rest
            (item :: later.1, later.2) := by
          rw [asked, ask_next_cons isOpen terminal left]
          rfl
        rw [came, Requests.taken_cons]
        simp only [Requests.exhaust_cons, Requests.close_next]
        exact ⟨congrArg (item :: ·) handed, noted, live⟩

/-- A run that was begun is not waiting any more. -/
theorem not_waiting_opened (run : Run α) (terminal : Bool) :
    (run.opened terminal).1.stage ≠ .waiting := by
  rw [opened]
  split
  · split
    · exact (by decide : Stage.drawn ≠ .waiting)
    · exact (by decide : Stage.traced ≠ .waiting)
  · rename_i begun
    exact begun

/-- Neither is one that is over. -/
theorem not_waiting_ended (run : Run α) : run.ended.stage ≠ .waiting :=
  (by decide : Stage.finished ≠ .waiting)

/-- Nor one of which something was asked. -/
theorem not_waiting_ask (run : Run α) (terminal : Bool) (request : Request) :
    (run.ask terminal request).2.1.stage ≠ .waiting := by
  cases request with
  | close =>
    rw [ask, close_fst]
    exact run.not_waiting_ended
  | drain =>
    rw [ask, drain]
    cases run.unshown? terminal with
    | some problem => exact run.not_waiting_ended
    | none => exact not_waiting_ended _
  | next =>
    rw [ask, next]
    cases run.unshown? terminal with
    | some problem => exact run.not_waiting_ended
    | none =>
      have begun := run.not_waiting_opened terminal
      dsimp only
      cases (run.opened terminal).1.left with
      | nil => exact not_waiting_ended _
      | cons item rest => exact begun

/-- Nor does a run wait again. -/
theorem not_waiting_asked {run : Run α} (begun : run.stage ≠ .waiting) (requests : Requests) :
    (run.asked requests).2.1.stage ≠ .waiting := by
  induction requests generalizing run with
  | nil => exact begun
  | cons made rest inductionHypothesis =>
    exact inductionHypothesis (run.not_waiting_ask made.2 made.1)

/-- A run that is waiting has not been asked for anything. -/
theorem eq_nil_of_waiting_asked {run : Run α} {requests : Requests}
    (waiting : (run.asked requests).2.1.stage = .waiting) : requests = [] := by
  cases requests with
  | nil => rfl
  | cons made rest =>
    exact (not_waiting_asked (run.not_waiting_ask made.2 made.1) rest waiting).elim

/-- A run begins with being asked for something. -/
theorem isOpen_opened {run : Run α} (waiting : run.stage = .waiting) (terminal : Bool) :
    (run.opened terminal).1.IsOpen := by
  rw [opened, waiting]
  dsimp only
  split
  · exact .inr rfl
  · exact .inl rfl

/-- It comes to the same whether a run is opened by a request or before. -/
theorem ask_of_waiting {run : Run α} {request : Request} {terminal : Bool}
    (waiting : run.stage = .waiting) (shown : run.unshown? terminal = none)
    (heard : request ≠ .close) :
    run.ask terminal request =
      let opened := (run.opened terminal).1.ask terminal request
      (opened.1, opened.2.1, (run.opened terminal).2 ++ opened.2.2) := by
  have isOpen := isOpen_opened waiting terminal
  cases request with
  | close => exact (heard rfl).elim
  | drain =>
    rw [ask_drain isOpen, ask, drain, shown]
    rfl
  | next =>
    cases left : (run.opened terminal).1.left with
    | nil =>
      rw [ask_next_nil isOpen terminal left, ask, next, shown]
      simp only [left]
      rfl
    | cons item items =>
      rw [ask_next_cons isOpen terminal left, ask, next, shown]
      simp only [left, List.append_nil]
      rfl

/-- There is a bar for a run if the first request that is heard finds a terminal and if there are
many items to come. -/
def DrawsBar (run : Run α) (requests : Requests) : Prop :=
  ∃ made ∈ requests.heard.head?, made.2 = true ∧ ∃ total ∈ run.total, threshold < total

/-- A run draws a bar when it begins with a terminal and many items to come. -/
theorem wantsBar_iff (run : Run α) (terminal : Bool) :
    run.wantsBar terminal = true ↔ terminal = true ∧ ∃ total ∈ run.total, threshold < total := by
  rw [wantsBar, Bool.and_eq_true]
  cases run.total <;> simp

/-- The bar of a run that begins. -/
theorem isLive_opened_iff {run : Run α} (waiting : run.stage = .waiting) (terminal : Bool) :
    (run.opened terminal).1.IsLive ↔ run.wantsBar terminal = true := by
  rw [opened, waiting]
  dsimp only
  split
  · rename_i bar
    exact iff_of_true rfl bar
  · rename_i noBar
    exact iff_of_false (by decide : Stage.traced ≠ .drawn) noBar

/-- What is noted when a run begins. -/
theorem entries_opened {run : Run α} (waiting : run.stage = .waiting) (terminal : Bool) :
    Event.entries (run.opened terminal).2 = if (run.opened terminal).1.IsLive then []
      else [noteEntry run.desc run.total "progress_start"] := by
  rw [opened, waiting]
  dsimp only
  split <;> rfl

/-- A run is begun as what it was. -/
theorem desc_total_opened (run : Run α) (terminal : Bool) :
    (run.opened terminal).1.desc = run.desc ∧ (run.opened terminal).1.total = run.total := by
  rw [opened]
  split
  · split <;> exact ⟨rfl, rfl⟩
  · exact ⟨rfl, rfl⟩

/-- What comes of requests to a run that has not begun: items, what is left of the run, and entries.
The items are those that are asked for before it is closed. Nothing is noted if nothing is asked for
or a bar is drawn; otherwise the beginning is, and the end exactly if the items are exhausted. The
bar is there until then, unless the run is closed. -/
structure Brings (run : Run α) (requests : Requests) (items : List α) (after : Run α)
    (entries : List Entry) : Prop where
  handed : items = requests.heard.taken run.left
  silent : requests.heard = [] ∨ run.DrawsBar requests → entries = []
  noted : requests.heard ≠ [] → ¬run.DrawsBar requests →
    entries = noteEntry run.desc run.total "progress_start" ::
      if requests.heard.Exhaust run.left then [noteEntry run.desc run.total "progress_done"] else []
  bar : after.IsLive ↔
    run.DrawsBar requests ∧ ¬requests.Close ∧ ¬requests.heard.Exhaust run.left

/-- Before anything is heard nothing comes. -/
theorem brings_of_unheard (run : Run α) {requests : Requests} (unheard : requests.heard = [])
    {after : Run α} (noBar : ¬after.IsLive) : run.Brings requests [] after [] where
  handed := by rw [unheard, Requests.taken_without]
  silent _ := rfl
  noted heard := (heard unheard).elim
  bar := iff_of_false noBar (by simp [DrawsBar, unheard])

/-- Requests to a run that has not begun bring what they should. -/
theorem brings_asked {run : Run α} (waiting : run.stage = .waiting) (requests : Requests)
    (shown : ∀ made ∈ requests.heard.head?, run.unshown? made.2 = none) :
    run.Brings requests (run.asked requests).1 (run.asked requests).2.1
      (run.asked requests).2.2 := by
  cases requests with
  | nil =>
    have notLive : ¬run.IsLive := by
      rw [IsLive, waiting]
      decide
    exact run.brings_of_unheard rfl notLive
  | cons made rest =>
    obtain ⟨request, terminal⟩ := made
    by_cases closes : request = .close
    · subst closes
      have came : run.asked ((.close, terminal) :: rest) = ([], run.ended, []) := by
        rw [asked, ask, close, waiting]
        dsimp only
        rw [asked_ended]
        rfl
      rw [came]
      exact run.brings_of_unheard rfl run.not_isLive_ended
    · have heard := Requests.heard_cons terminal rest closes
      have begins : run.unshown? terminal = none := shown (request, terminal) (by rw [heard]; rfl)
      have isOpen := isOpen_opened waiting terminal
      obtain ⟨handed, noted, live⟩ := asked_of_isOpen isOpen ((request, terminal) :: rest)
      obtain ⟨sameDesc, sameTotal⟩ := run.desc_total_opened terminal
      have draws : run.DrawsBar ((request, terminal) :: rest) ↔ (run.opened terminal).1.IsLive := by
        rw [isLive_opened_iff waiting, wantsBar_iff]
        simp [DrawsBar, heard]
      have came : run.asked ((request, terminal) :: rest) =
          let later := (run.opened terminal).1.asked ((request, terminal) :: rest)
          (later.1, later.2.1, Event.entries (run.opened terminal).2 ++ later.2.2) := by
        rw [asked, asked, ask_of_waiting waiting begins closes]
        simp only [Event.entries, List.filterMap_append, List.append_assoc]
      rw [came]
      dsimp only
      rw [left_opened] at handed noted live
      have ending : endingEntries (run.opened terminal).1 =
          if (run.opened terminal).1.IsLive then []
          else [noteEntry run.desc run.total "progress_done"] := by
        rw [endingEntries, sameDesc, sameTotal]
      refine ⟨handed, fun silent => ?_, fun _ notDrawn => ?_, by rw [draws, live]⟩
      · have drawn := draws.mp (silent.resolve_left (by rw [heard]; exact List.cons_ne_nil _ _))
        rw [noted, ending, entries_opened waiting, if_pos drawn, if_pos drawn, ite_self]
        rfl
      · rw [draws] at notDrawn
        rw [noted, ending, entries_opened waiting, if_neg notDrawn, if_neg notDrawn]
        rfl

end Run

namespace Step

/-- What a step asks of the run with a name, if anything. -/
def request? (name : Text) : Step α → Option Request
  | next other => if other = name then some .next else none
  | drain other => if other = name then some .drain else none
  | close other => if other = name then some .close else none
  | _ => none

/-- A step puts no run under a name. -/
def Keeps (name : Text) : Step α → Prop
  | create other _ => other ≠ name
  | _ => True

end Step

namespace Session

/-- The requests that steps make to the run with a name, each with whether there is a terminal at
that moment. -/
def requests (s : Session α) (name : Text) : List (Step α) → Requests
  | [] => []
  | step :: rest =>
    ((step.request? name).toList.map fun request => (request, s.terminal)) ++
      (s.step step).1.requests name rest

/-- The items that steps bring from the run with a name. -/
def handed (s : Session α) (name : Text) : List (Step α) → List α
  | [] => []
  | step :: rest =>
    ((step.request? name).toList.flatMap fun request => ((s.run name).ask s.terminal request).1) ++
      (s.step step).1.handed name rest

/-- The entries that are made by steps which ask something of the run with a name. -/
def entriesAbout (s : Session α) (name : Text) : List (Step α) → List Entry
  | [] => []
  | step :: rest =>
    (if (step.request? name).isSome then (s.step step).2.2 else []) ++
      (s.step step).1.entriesAbout name rest

/-- A step that asks nothing of a run leaves it as it is. -/
theorem run_step_of_request?_eq_none (s : Session α) {name : Text} {step : Step α}
    (keeps : step.Keeps name) (unasked : step.request? name = none) :
    (s.step step).1.run name = s.run name := by
  have elsewhere {other : Text} {run : Run α} {events : List Event} (different : other ≠ name) :
      (s.after other run events).run name = s.run name := by
    rw [run_after, if_neg (Ne.symm different)]
  cases step with
  | setTerminal | enter | leave => rfl
  | create other run => exact elsewhere keeps
  | next other | drain other | close other =>
    refine elsewhere fun same => ?_
    rw [Step.request?, if_pos same] at unasked
    cases unasked

/-- A step that asks something of a run leaves of it what the request does, with the same
entries. -/
theorem run_step_of_request?_eq_some (s : Session α) {name : Text} {step : Step α}
    {request : Request} (asks : step.request? name = some request) :
    (s.step step).1.run name = ((s.run name).ask s.terminal request).2.1 ∧
      (s.step step).2.2 = Event.entries ((s.run name).ask s.terminal request).2.2 := by
  have here {run : Run α} {events : List Event} : (s.after name run events).run name = run := by
    rw [run_after, if_pos rfl]
  cases step with
  | setTerminal | enter | leave | create => cases asks
  | next other | drain other | close other =>
    obtain ⟨rfl, same⟩ := Option.ite_none_right_eq_some.mp asks
    obtain rfl := Option.some.inj same
    exact ⟨here, rfl⟩

/-- What steps bring from a run is what the requests to it bring, whatever else is done. -/
theorem asked_requests (s : Session α) (name : Text) (steps : List (Step α))
    (keeps : ∀ step ∈ steps, step.Keeps name) :
    (s.run name).asked (s.requests name steps) =
      (s.handed name steps, (s.taking steps).run name, s.entriesAbout name steps) := by
  induction steps generalizing s with
  | nil => rfl
  | cons step rest inductionHypothesis =>
    have later := inductionHypothesis (s.step step).1 fun other among =>
      keeps other (List.mem_cons_of_mem _ among)
    rw [requests, handed, entriesAbout]
    cases asks : step.request? name with
    | none =>
      have same := run_step_of_request?_eq_none s (keeps step List.mem_cons_self) asks
      rw [← same]
      exact later
    | some request =>
      obtain ⟨same, noted⟩ := run_step_of_request?_eq_some s asks
      rw [same] at later
      rw [Option.toList_some, List.map_singleton, List.singleton_append, Run.asked, later, noted,
        List.flatMap_singleton]
      rfl

/-- Requests that are made one after another. -/
theorem requests_append (s : Session α) (name : Text) (first later : List (Step α)) :
    s.requests name (first ++ later) =
      s.requests name first ++ (s.taking first).requests name later := by
  induction first generalizing s with
  | nil => rfl
  | cons step rest inductionHypothesis =>
    rw [List.cons_append, requests, requests, inductionHypothesis, List.append_assoc]
    rfl

/-- Items that are brought one after another. -/
theorem handed_append (s : Session α) (name : Text) (first later : List (Step α)) :
    s.handed name (first ++ later) = s.handed name first ++ (s.taking first).handed name later := by
  induction first generalizing s with
  | nil => rfl
  | cons step rest inductionHypothesis =>
    rw [List.cons_append, handed, handed, inductionHypothesis, List.append_assoc]
    rfl

end Session

/-- How a request is answered that brings items: with the one item, or that there are no more; with
the number of all that were left; and with nothing if a run is closed. -/
def Request.Answered : Request → Answer α → List α → Prop
  | next, answer, items =>
    (∃ item, answer = .item item ∧ items = [item]) ∨ (answer = .stopped ∧ items = [])
  | drain, answer, items => answer = .count items.length
  | close, answer, items => answer = .nothing ∧ items = []

namespace Session

/-- A request is answered with what it brings, unless a bar cannot be shown. -/
theorem answered_step (s : Session α) {name : Text} {step : Step α} {request : Request}
    (asks : step.request? name = some request)
    (shown : request ≠ .close → (s.run name).unshown? s.terminal = none) :
    request.Answered (s.step step).2.1 ((s.run name).ask s.terminal request).1 := by
  cases step with
  | setTerminal | enter | leave | create => cases asks
  | close other =>
    obtain ⟨rfl, same⟩ := Option.ite_none_right_eq_some.mp asks
    obtain rfl := Option.some.inj same
    exact ⟨rfl, rfl⟩
  | drain other =>
    obtain ⟨rfl, same⟩ := Option.ite_none_right_eq_some.mp asks
    obtain rfl := Option.some.inj same
    have begins := shown (by decide)
    rw [Session.step, Run.ask, Run.drain, begins]
    rfl
  | next other =>
    obtain ⟨rfl, same⟩ := Option.ite_none_right_eq_some.mp asks
    obtain rfl := Option.some.inj same
    have begins := shown (by decide)
    rw [Session.step, Run.ask, Run.next, begins]
    cases left : ((s.run other).opened s.terminal).1.left with
    | nil =>
      refine .inr ?_
      simp only [left, true_and]
      rfl
    | cons item items =>
      refine .inl ⟨item, ?_⟩
      simp only [left, true_and]
      rfl

/-- Going through items with progress, in whatever session, as long as its bar can be shown if one
is drawn. Up to every moment the run under a name has handed out the items that were asked for
before it was closed, in order and each once, and has noted its beginning and its end as it should.
Every request is answered with what it brings. -/
theorem items_come_through (s : Session α) (name desc unit : Text) (items : List α) (isSized : Bool)
    (given : Option Int) (steps : List (Step α)) (keeps : ∀ step ∈ steps, step.Keeps name) :
    let run := Run.through items isSized given desc unit
    let created := (s.step (.create name run)).1
    (∀ made ∈ (created.requests name steps).heard.head?, run.unshown? made.2 = none) →
      (∀ n, let past := steps.take n
        run.Brings (created.requests name past) (created.handed name past)
          ((created.taking past).run name) (created.entriesAbout name past)) ∧
      ∀ n step request taken, steps[n]? = some step → step.request? name = some request →
        (created.steps steps)[n]? = some taken → ∃ brought,
          created.handed name (steps.take (n + 1)) =
            created.handed name (steps.take n) ++ brought ∧ request.Answered taken.2.1 brought := by
  intro run created shown
  have initial : created.run name = run := (run_after ..).trans (if_pos rfl)
  have past (n : Nat) : run.asked (created.requests name (steps.take n)) =
      (created.handed name (steps.take n), (created.taking (steps.take n)).run name,
        created.entriesAbout name (steps.take n)) := by
    rw [← initial]
    exact asked_requests created name _ fun step among => keeps step (List.mem_of_mem_take among)
  have shownBefore (n : Nat) : ∀ made ∈ (created.requests name (steps.take n)).heard.head?,
      run.unshown? made.2 = none := by
    intro made among
    refine shown made ?_
    rw [← List.take_append_drop n steps, requests_append]
    exact Requests.mem_head?_heard_of_append among
  refine ⟨fun n => ?_, fun n step request taken nth asks reached => ?_⟩
  · have brings := Run.brings_asked rfl (created.requests name (steps.take n)) (shownBefore n)
    rw [past] at brings
    exact brings
  · rw [getElem?_steps, nth] at reached
    obtain rfl := Option.some.inj reached
    have next : steps.take (n + 1) = steps.take n ++ [step] := by
      rw [List.take_add_one, nth, Option.toList_some]
    refine ⟨_, ?_, answered_step _ asks fun heard => ?_⟩
    · rw [next, handed_append, handed, asks, Option.toList_some, List.flatMap_singleton, handed,
        List.append_nil]
    · by_cases waiting : ((created.taking (steps.take n)).run name).stage = .waiting
      · have same := congrArg (fun came => came.2.1) (past n)
        dsimp only at same
        rw [← same] at waiting ⊢
        have nothing := Run.eq_nil_of_waiting_asked waiting
        have only : created.requests name (steps.take (n + 1)) =
            [(request, (created.taking (steps.take n)).terminal)] := by
          rw [next, requests_append, nothing, requests, asks]
          rfl
        rw [nothing]
        refine shownBefore (n + 1) (request, _) ?_
        rw [only, Requests.heard_cons _ _ heard]
        rfl
      · exact Run.unshown?_of_not_waiting _ _ waiting

/-- A run with a bar, whatever the number of its items. -/
def drawnRun : Run Nat := .through [1, 2, 3, 4] false (some 101) "Parsing" "classes"

/-- A run without one. -/
def notedRun : Run Nat := .through [7, 8] true none "Reading" "files"

/-- Requests to both in turn, while the terminal goes away and a block comes and goes. -/
def interleaved : List (Step Nat) :=
  [.next "a", .setTerminal false, .next "b", .enter, .next "a", .leave, .drain "a", .close "b",
    .next "a", .next "b"]

/-- Each of the two hands out its own items, the one that is closed no more than were asked for, and
only that without a bar is noted. -/
theorem interleaved_come_through :
    let first := (((start true).step (.create "b" notedRun)).1.step (.create "a" drawnRun)).1
    let second := (((start true).step (.create "a" drawnRun)).1.step (.create "b" notedRun)).1
    (∀ step ∈ interleaved, step.Keeps "a" ∧ step.Keeps "b") ∧
    (∀ made ∈ (first.requests "a" interleaved).heard.head?, drawnRun.unshown? made.2 = none) ∧
    (∀ made ∈ (second.requests "b" interleaved).heard.head?, notedRun.unshown? made.2 = none) ∧
    first.handed "a" interleaved = [1, 2, 3, 4] ∧ first.entriesAbout "a" interleaved = [] ∧
    second.handed "b" interleaved = [7] ∧
    second.entriesAbout "b" interleaved = [noteEntry "Reading" (some 2) "progress_start"] := by
  intro first second
  have keeps : ∀ step ∈ interleaved, step.Keeps "a" ∧ step.Keeps "b" := by
    simp [interleaved, Step.Keeps]
  have shown : ∀ made ∈ (first.requests "a" interleaved).heard.head?,
      drawnRun.unshown? made.2 = none := by
    rintro _ ⟨⟩
    rfl
  have shown' : ∀ made ∈ (second.requests "b" interleaved).heard.head?,
      notedRun.unshown? made.2 = none := by
    rintro _ ⟨⟩
    rfl
  have drawn := (items_come_through ((start true).step (.create "b" notedRun)).1 "a" "Parsing"
    "classes" [1, 2, 3, 4] false (some 101) interleaved (fun step among => (keeps step among).1)
    shown).1 interleaved.length
  have noted := (items_come_through ((start true).step (.create "a" drawnRun)).1 "b" "Reading"
    "files" [7, 8] true none interleaved (fun step among => (keeps step among).2)
    shown').1 interleaved.length
  rw [List.take_length] at drawn noted
  refine ⟨keeps, shown, shown', drawn.handed, drawn.silent (.inr ?_), noted.handed,
    noted.noted ?_ ?_⟩
  · exact ⟨_, rfl, rfl, 101, rfl, by decide⟩
  · exact List.cons_ne_nil _ _
  · rintro ⟨_, -, -, total, ⟨⟩, large⟩
    exact absurd large (by decide)

end Session

end TagAudit.Progress
