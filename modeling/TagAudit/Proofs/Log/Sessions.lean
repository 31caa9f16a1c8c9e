import Mathlib.Data.List.Induction
import TagAudit.Log.Session
import TagAudit.Proofs.FileTree.Writing
import TagAudit.Proofs.Log.Routing

/-!
# Logging sessions

What is written for a record depends on two things that a session has gone through: the settings
that were last accepted, and whether a muting block was last entered or left. Everything before is
forgotten. An output of those settings writes the record once if it is due there, and no other
output writes it, so nothing goes to what was set up earlier.

Files only grow. Setting up outputs makes files and changes none, and writing a record adds to each
file exactly what is written to the paths that lead to it.

Two things are written that no output is due to write. If there is no output at all, the error stream
is the last resort for severe records, muted or not. And where an output cannot write a record, the
error stream is told so.
-/

namespace TagAudit.Log

namespace Session

/-- A record is due at an output: it reaches the level of all outputs and that of the output, and a
stream that shares the terminal is not muted. -/
structure IsDue (settings : LogSettings) (muted : Bool) (r : Record) (output : LogOutput) : Prop where
  reaches : settings.level.rank ≤ r.entry.level.rank
  reachesOutput : (output.level.getD settings.level).rank ≤ r.entry.level.rank
  audible : output.destination = .stderr ∨ output.destination = .stdout → muted = false

/-- An output accepts a record exactly if it is due there. -/
theorem accepts_iff (settings : LogSettings) (muted : Bool) (r : Record) (output : LogOutput) :
    output.accepts settings.level muted r = true ↔ IsDue settings muted r output := by
  have stream : output.destination.isStream = true ↔
      output.destination = .stderr ∨ output.destination = .stdout := by
    cases output.destination <;> simp [LogDestination.isStream]
  rw [LogOutput.accepts, Bool.and_eq_true, Bool.and_eq_true, Bool.not_eq_true', Bool.and_eq_false_iff,
    Level.reaches, Level.reaches, decide_eq_true_iff, decide_eq_true_iff]
  constructor
  · rintro ⟨⟨reaches, reachesOutput⟩, audible⟩
    refine ⟨reaches, reachesOutput, fun onTerminal => ?_⟩
    rcases audible with unmuted | apart
    · exact unmuted
    · cases apart.symm.trans (stream.mpr onTerminal)
  · rintro ⟨reaches, reachesOutput, audible⟩
    refine ⟨⟨reaches, reachesOutput⟩, ?_⟩
    cases shared : output.destination.isStream with
    | false => exact .inr rfl
    | true => exact .inl (audible (stream.mp shared))

instance (settings : LogSettings) (muted : Bool) (r : Record) (output : LogOutput) :
    Decidable (IsDue settings muted r output) :=
  decidable_of_iff _ (accepts_iff settings muted r output)

/-- What is due for a record: one line for each output where it is due, in the order of the outputs;
and where there is no output, one line on the error stream if the record is severe. -/
def due (settings : LogSettings) (muted : Bool) (r : Record) : List Written :=
  if settings.outputs = [] then
    if settings.level.rank ≤ r.entry.level.rank then Routing.lastResort r else []
  else
    (settings.outputs.filter fun output => IsDue settings muted r output).map (Routing.writtenBy r)

/-- What is due is delivered. -/
theorem deliver_eq_due (settings : LogSettings) (muted : Bool) (r : Record) :
    (Routing.outputs settings).deliver muted r = due settings muted r := by
  have accepting : (fun output : LogOutput => output.accepts settings.level muted r) =
      fun output => decide (IsDue settings muted r output) := by
    funext output
    rw [Bool.eq_iff_iff, accepts_iff, decide_eq_true_iff]
  rw [Routing.deliver, due, accepting]
  cases settings.outputs with
  | nil => simp [Level.reaches]
  | cons output rest => simp

/-- The settings that a step sets up, if it does. -/
def Step.settings? (homes : Homes) : Step → Option LogSettings
  | .configure asked => (LogSettings.check homes asked).toOption
  | _ => none

/-- Whether a step enters or leaves a muting block, if it does either. -/
def Step.mutes? : Step → Option Bool
  | .enter => some true
  | .leave => some false
  | _ => none

/-- The settings that were last set up. -/
def inForce? (homes : Homes) (steps : List Step) : Option LogSettings :=
  (steps.filterMap (Step.settings? homes)).getLast?

/-- Whether a muting block was entered and none was left since. -/
def isMuted (steps : List Step) : Bool := ((steps.filterMap Step.mutes?).getLast?).getD false

/-- The session after steps. -/
def after (s : Session) (workingPlace : Place) (homes : Homes) (steps : List Step) : Session :=
  steps.foldl (fun s step => (s.step workingPlace homes step).1) s

/-- Whether an output could not be opened. -/
def Reply.isUnopened : Reply → Bool
  | .unopened _ => true
  | _ => false

/-- All outputs that are set up can be opened. -/
def Opens (s : Session) (workingPlace : Place) (homes : Homes) (steps : List Step) : Prop :=
  ∀ taken ∈ s.steps workingPlace homes steps, taken.2.isUnopened = false

section
variable {s : Session} {workingPlace : Place} {homes : Homes}

/-- What a session comes to after one more step. -/
theorem after_append_singleton (steps : List Step) (step : Step) :
    s.after workingPlace homes (steps ++ [step]) =
      ((s.after workingPlace homes steps).step workingPlace homes step).1 := by
  rw [after, List.foldl_append]
  rfl

/-- The replies to steps and to one more. -/
theorem steps_append_singleton (steps : List Step) (step : Step) :
    s.steps workingPlace homes (steps ++ [step]) = s.steps workingPlace homes steps ++
      [(s.after workingPlace homes steps).step workingPlace homes step] := by
  induction steps generalizing s with
  | nil => rfl
  | cons first rest inductionHypothesis =>
    rw [List.cons_append, Session.steps, Session.steps, inductionHypothesis, List.cons_append]
    rfl

/-- If all that is set up by steps and one more can be opened, so can what is set up by the steps and
what is set up by the last. -/
theorem Opens.of_append {steps : List Step} {step : Step}
    (opens : s.Opens workingPlace homes (steps ++ [step])) :
    s.Opens workingPlace homes steps ∧
      ((s.after workingPlace homes steps).step workingPlace homes step).2.isUnopened = false := by
  rw [Opens, steps_append_singleton] at opens
  exact ⟨fun taken among => opens taken (List.mem_append_left _ among),
    opens _ (List.mem_append_right _ List.mem_cons_self)⟩

/-- Settings are in force: records are routed by them, and the files of their outputs are there. -/
structure Obeys (s : Session) (workingPlace : Place) (settings : LogSettings) : Prop where
  routed : s.routing = .outputs settings
  finds (output : LogOutput) (among : output ∈ settings.outputs) :
    s.tree.FindsFile workingPlace output.destination

/-- What is due under settings is written to streams and to files that are found. -/
theorem Obeys.finds_of_due {settings : LogSettings} (obeys : s.Obeys workingPlace settings)
    {muted : Bool} {r : Record} {written : Written} (among : written ∈ due settings muted r) :
    s.tree.FindsFile workingPlace written.1 := by
  rw [← deliver_eq_due] at among
  rcases Routing.destination_of_deliver among with console | ⟨output, held, same⟩
  · intro p named
    rw [console] at named
    cases named
  · rw [same]
    exact obeys.finds output held

/-- Settings stay in force as long as the routing stays and files only grow. -/
theorem Obeys.grown {settings : LogSettings} {later : Session}
    (obeys : s.Obeys workingPlace settings) (routed : later.routing = s.routing)
    (grows : s.tree.Grows later.tree) : later.Obeys workingPlace settings where
  routed := routed.trans obeys.routed
  finds output among := (obeys.finds output among).grown grows

/-- Writing a record under settings writes what is due, and adds it to the files where it goes. -/
theorem Obeys.write_eq {settings : LogSettings} (obeys : s.Obeys workingPlace settings)
    (r : Record) :
    s.write workingPlace r =
      ({ s with tree := s.tree.append workingPlace (due settings s.muted r) },
        .written (due settings s.muted r)) := by
  rw [write, obeys.routed, deliver_eq_due]

/-- Setting up outputs changes no file, and mutes and unmutes nothing. -/
theorem configure_retains (s : Session) (workingPlace : Place) (settings : LogSettings) :
    s.tree.Retains (s.configure workingPlace settings).1.tree ∧
      (s.configure workingPlace settings).1.muted = s.muted := by
  have retains := (Node.retains_of_openOutputs workingPlace settings.outputs s.tree).1
  rw [configure]
  split
  · exact ⟨retains, rfl⟩
  · exact ⟨retains, rfl⟩

/-- If all outputs can be opened, their settings are in force afterwards. -/
theorem configure_obeys {settings : LogSettings}
    (opens : (s.configure workingPlace settings).2.isUnopened = false) :
    (s.configure workingPlace settings).1.Obeys workingPlace settings := by
  have finds := (Node.retains_of_openOutputs workingPlace settings.outputs s.tree).2
  rw [configure] at opens ⊢
  cases opened : (s.tree.openOutputs workingPlace settings.outputs).problem with
  | some problem =>
    rw [opened] at opens
    cases opens
  | none =>
    rw [Node.openOutputs_of_opened opened] at finds ⊢
    exact ⟨rfl, finds⟩

/-- Files only grow, whatever step is taken. -/
theorem grows_step (s : Session) (workingPlace : Place) (homes : Homes) (step : Step) :
    s.tree.Grows (s.step workingPlace homes step).1.tree := by
  have still : s.tree.Grows s.tree := (Node.Retains.refl s.tree).grows
  cases step with
  | configure asked =>
    rw [Session.step]
    split
    · exact still
    · exact (configure_retains s workingPlace _).1.grows
  | record r => exact Node.grows_append _ _ _
  | make logger level event fields time =>
    rw [Session.step]
    split
    · exact Node.grows_append _ _ _
    · exact still
  | enter => exact still
  | leave => exact still

/-- Files only grow, however many steps are taken. -/
theorem grows_after (s : Session) (workingPlace : Place) (homes : Homes) (steps : List Step) :
    s.tree.Grows (s.after workingPlace homes steps).tree := by
  induction steps using List.reverseRecOn with
  | nil => exact (Node.Retains.refl s.tree).grows
  | append_singleton steps step inductionHypothesis =>
    rw [after_append_singleton]
    exact inductionHypothesis.trans (grows_step _ workingPlace homes step)

/-- The settings in force after one more step are those that it sets up, or else those before. -/
theorem inForce?_append_singleton (steps : List Step) (step : Step) :
    inForce? homes (steps ++ [step]) = (step.settings? homes).or (inForce? homes steps) := by
  rw [inForce?, List.filterMap_append, List.getLast?_append, inForce?]
  cases set : step.settings? homes <;> simp [set]

/-- The console is muted after one more step as the step has it, or else as before. -/
theorem isMuted_append_singleton (steps : List Step) (step : Step) :
    isMuted (steps ++ [step]) = step.mutes?.getD (isMuted steps) := by
  rw [isMuted, List.filterMap_append, List.getLast?_append, isMuted]
  cases set : step.mutes? <;> simp [set]

/-- What steps that could all be taken have come to: the settings in force are obeyed, and the console
is muted as the steps have it. -/
structure Follows (s : Session) (workingPlace : Place) (homes : Homes) (steps : List Step) :
    Prop where
  muted : s.muted = isMuted steps
  obeys (settings : LogSettings) (inForce : inForce? homes steps = some settings) :
    s.Obeys workingPlace settings

/-- A step that sets nothing up leaves the settings in force. -/
theorem Follows.onward {steps : List Step} {step : Step}
    (follows : s.Follows workingPlace homes steps)
    {later : Session} (nothing : step.settings? homes = none)
    (muted : later.muted = step.mutes?.getD s.muted) (routed : later.routing = s.routing)
    (grows : s.tree.Grows later.tree) : later.Follows workingPlace homes (steps ++ [step]) where
  muted := by rw [muted, follows.muted, isMuted_append_singleton]
  obeys settings inForce := by
    rw [inForce?_append_singleton, nothing] at inForce
    exact (follows.obeys settings inForce).grown routed grows

/-- One more step that can be taken is followed as well. -/
theorem Follows.step {steps : List Step} {step : Step}
    (follows : s.Follows workingPlace homes steps)
    (opens : (s.step workingPlace homes step).2.isUnopened = false) :
    (s.step workingPlace homes step).1.Follows workingPlace homes (steps ++ [step]) := by
  have grows := grows_step s workingPlace homes step
  cases step with
  | configure asked =>
    cases checked : LogSettings.check homes asked with
    | error refusal =>
      have refused : s.step workingPlace homes (.configure asked) = (s, .refused refusal) := by
        rw [Session.step, checked]
      have nothing : (Step.configure asked).settings? homes = none := by
        rw [Step.settings?, checked]
        rfl
      rw [refused] at grows ⊢
      exact follows.onward nothing rfl rfl grows
    | ok settings =>
      have done : s.step workingPlace homes (.configure asked) =
          s.configure workingPlace settings := by
        rw [Session.step, checked]
      have set : (Step.configure asked).settings? homes = some settings := by
        rw [Step.settings?, checked]
        rfl
      rw [done] at opens ⊢
      constructor
      · rw [(configure_retains s workingPlace settings).2, follows.muted,
          isMuted_append_singleton]
        rfl
      · intro other inForce
        rw [inForce?_append_singleton, set] at inForce
        obtain rfl := Option.some.inj inForce
        exact configure_obeys opens
  | record r => exact follows.onward rfl rfl rfl grows
  | make logger level event fields time =>
    rw [Session.step] at grows ⊢
    split at grows
    · rename_i allowed
      rw [if_pos allowed]
      exact follows.onward rfl rfl rfl grows
    · rename_i refused
      rw [if_neg refused]
      exact follows.onward rfl rfl rfl grows
  | enter => exact follows.onward rfl rfl rfl grows
  | leave => exact follows.onward rfl rfl rfl grows

/-- A session that starts without settings and unmuted follows the steps that it takes. -/
theorem follows_after (tree : Node) {steps : List Step}
    (opens : ({ tree := tree } : Session).Opens workingPlace homes steps) :
    (({ tree := tree } : Session).after workingPlace homes steps).Follows workingPlace homes
      steps := by
  induction steps using List.reverseRecOn with
  | nil =>
    refine ⟨rfl, fun settings inForce => ?_⟩
    cases inForce
  | append_singleton steps step inductionHypothesis =>
    obtain ⟨opensBefore, opensLast⟩ := opens.of_append
    rw [after_append_singleton]
    exact (inductionHypothesis opensBefore).step opensLast

/-- A step writes a record: it replies with what is due, adds that to the files where it goes, and
changes nothing else. -/
structure Writes (s : Session) (workingPlace : Place) (what : List Written)
    (taken : Session × Reply) : Prop where
  replied : taken.2 = .written what
  routing : taken.1.routing = s.routing
  muted : taken.1.muted = s.muted
  added (place : Place) (content : List UInt8) (stands : s.tree.at? place = some (.file content)) :
    taken.1.tree.at? place =
      some (.file (content ++ s.tree.addedAt workingPlace place what))
  nothingElse (place : Place) (none : ∀ content, s.tree.at? place ≠ some (.file content)) :
    (taken.1.tree.at? place).map Node.own = (s.tree.at? place).map Node.own

/-- Under settings in force what is due is written. -/
theorem Obeys.writes {settings : LogSettings} (obeys : s.Obeys workingPlace settings) (r : Record) :
    s.Writes workingPlace (due settings s.muted r) (s.write workingPlace r) := by
  have finds : ∀ written ∈ due settings s.muted r, s.tree.FindsFile workingPlace written.1 :=
    fun _ among => obeys.finds_of_due among
  obtain ⟨-, exact⟩ := Node.append_exact finds
  rw [obeys.write_eq]
  exact ⟨rfl, rfl, rfl, fun place => (exact place).1, fun place => (exact place).2⟩

end

/-- Over a whole session whose outputs can all be opened, from a tree with any files on. Settings
that are refused change nothing. Files only grow, and those that outputs in force write to are
found. Once settings have been accepted, every record is written as it is due under those that were
accepted last, with the console muted as the blocks entered and left have it: an entry made through a
logger as well as a record from elsewhere. -/
theorem routed_exactly (tree : Node) (workingPlace : Place) (homes : Homes) (steps : List Step)
    (opens : ({ tree := tree } : Session).Opens workingPlace homes steps) :
    let s := ({ tree := tree } : Session).after workingPlace homes steps
    (∀ asked refusal, LogSettings.check homes asked = .error refusal →
      s.step workingPlace homes (.configure asked) = (s, .refused refusal)) ∧
    (∀ asked, s.tree.Retains (s.step workingPlace homes (.configure asked)).1.tree) ∧
    (∀ more, s.tree.Grows (s.after workingPlace homes more).tree) ∧
    ∀ settings, inForce? homes steps = some settings →
      (∀ output ∈ settings.outputs, s.tree.FindsFile workingPlace output.destination) ∧
      (∀ r, s.Writes workingPlace (due settings (isMuted steps) r)
        (s.step workingPlace homes (.record r))) ∧
      ∀ logger level event fields time,
        (Logger.allows (level.reaches settings.level) fields = true →
          s.Writes workingPlace
            (due settings (isMuted steps) ⟨logger.entry level event fields, time, false⟩)
            (s.step workingPlace homes (.make logger level event fields time))) ∧
        (Logger.allows (level.reaches settings.level) fields = false →
          s.step workingPlace homes (.make logger level event fields time) = (s, .misnamed)) := by
  intro s
  have follows := follows_after tree opens
  refine ⟨fun asked refusal refused => ?_, fun asked => ?_, grows_after s workingPlace homes,
    fun settings inForce => ?_⟩
  · rw [Session.step, refused]
  · rw [Session.step]
    split
    · exact .refl _
    · exact (configure_retains s workingPlace _).1
  have obeys := follows.obeys settings inForce
  rw [← follows.muted]
  refine ⟨obeys.finds, obeys.writes, fun logger level event fields time => ⟨?_, ?_⟩⟩
  · intro allowed
    rw [Session.step, obeys.routed, Routing.admits, if_pos allowed]
    exact obeys.writes _
  · intro refused
    rw [Session.step, obeys.routed, Routing.admits, if_neg (by simp [refused])]

/-- Whether all outputs can be opened can be computed. -/
instance (s : Session) (workingPlace : Place) (homes : Homes) (steps : List Step) :
    Decidable (s.Opens workingPlace homes steps) :=
  inferInstanceAs
    (Decidable (∀ taken ∈ s.steps workingPlace homes steps, taken.2.isUnopened = false))

/-- The homes where there is one other user. -/
def rootHome : Homes := .ofList (some "/home") [("root", "/root")]

/-- Settings that write everything from a level on to a file in the home of another user, and worse to
the error stream. -/
def fileAndStream : Data :=
  .ofFields [("level", .text "INFO"), ("outputs", .list [
    .ofFields [("format", .text "json"), ("destination", .text "~root/a.txt")],
    .ofFields [("level", .text "ERROR")]])]

/-- While the console is muted an error goes to the file only. -/
theorem fileAndStream_muted :
    ({ tree := .empty } : Session).Opens [] rootHome [.configure fileAndStream, .enter] ∧
    ∃ s : Session,
      s = ({ tree := .empty } : Session).after [] rootHome [.configure fileAndStream, .enter] ∧
      (s.step [] rootHome (.record (.foreign .error "full" "now"))).2 = .written
        [(.file ⟨1, ["root", "a.txt"]⟩,
          "\x7b\"event\": \"full\", \"level\": \"error\", \"timestamp\": \"now\"\x7d\n")] := by
  have opens : ({ tree := .empty } : Session).Opens [] rootHome
      [.configure fileAndStream, .enter] := by
    decide +kernel
  have inForce : inForce? rootHome [.configure fileAndStream, .enter] =
      some ⟨.info, [⟨.json, .file ⟨1, ["root", "a.txt"]⟩, none⟩,
        ⟨.console, .stderr, some .error⟩]⟩ := rfl
  have writes := (((routed_exactly .empty [] rootHome _ opens).2.2.2 _ inForce).2.1
    (.foreign .error "full" "now")).replied
  refine ⟨opens, _, rfl, ?_⟩
  rw [writes]
  exact congrArg Reply.written (by decide +kernel)

/-- Settings that ask for no output. -/
def noOutputs : Data := .ofFields [("outputs", .list [])]

/-- Settings that write warnings to a file. -/
def toFile : Data :=
  .ofFields [("outputs", .list [.ofFields [("destination", .text "/log/a.txt")]])]

/-- Where no output is asked for, an error is written to the error stream, though it is muted. And a
file gets no line with a surrogate, though the record is due there. -/
theorem due_otherwise :
    (({ tree := .empty } : Session).Opens [] rootHome [.configure noOutputs, .enter] ∧
      inForce? rootHome [.configure noOutputs, .enter] = some ⟨.warning, []⟩ ∧
      ((({ tree := .empty } : Session).after [] rootHome [.configure noOutputs, .enter]).step
        [] rootHome (.record (.foreign .error "full" "now"))).2 =
          .written [(.stderr, "full\n")]) ∧
    ∃ settings output,
      ({ tree := .empty } : Session).Opens [] rootHome [.configure toFile] ∧
      inForce? rootHome [.configure toFile] = some settings ∧
      settings.outputs = [output] ∧ output.destination = .file ⟨1, ["log", "a.txt"]⟩ ∧
      IsDue settings false (.foreign .error [0xD800] "now") output ∧
      ((({ tree := .empty } : Session).after [] rootHome [.configure toFile]).step
        [] rootHome (.record (.foreign .error [0xD800] "now"))).2 =
          .written [(.stderr, Routing.trouble)] :=
  ⟨⟨by decide +kernel, rfl, congrArg Reply.written (by decide +kernel)⟩,
    ⟨.warning, [⟨.console, .file ⟨1, ["log", "a.txt"]⟩, none⟩]⟩,
    ⟨.console, .file ⟨1, ["log", "a.txt"]⟩, none⟩, by decide +kernel, rfl, rfl, rfl,
    by decide +kernel, congrArg Reply.written (by decide +kernel)⟩

end Session

end TagAudit.Log
