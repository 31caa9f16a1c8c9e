import TagAudit.Proofs.CommandLine.Machines
import TagAudit.Proofs.Console

/-!
# What users are told about a failed scan

A scan that fails is told of on lines of its own on the error stream: a mark, the failure, and
nothing else. If the failure is printable and no picture and no markup is in it, and if the console
has room for it, it stands there on one line as it is. Without room the console breaks the line. With
markup the line is shorter than the failure, or the run breaks down without it. Brackets in the path
of a file are enough for that.
-/

namespace TagAudit

open Emoji Markup

/-- Whole lines stay so when surrogates are shown by their numbers. -/
theorem Text.IsLines.withoutSurrogates {t : Text} (lines : t.IsLines) :
    (Console.withoutSurrogates t).IsLines := by
  rcases lines with rfl | ⟨front, rfl⟩
  · exact .inl rfl
  · refine .inr ⟨Console.withoutSurrogates front, ?_⟩
    rw [Console.withoutSurrogates, List.flatMap_append]
    rfl

namespace CommandLine

/-- A text is on lines of its own on the error stream of a run. -/
def Course.Tells (course : Course) (t : Text) : Prop :=
  ∃ before after : Text, before.IsLines ∧ course.errorOutput = before ++ t ++ after

namespace Surroundings

section
variable {s : Surroundings} {verbose : Bool} {request : CheckRequest} {settings : Settings}
  {root : Path} {finish : Except Search.Problem ScanResult} {failure : Failure}

/-- A run that gets to the end of its scan writes whole lines about its course, and then what is
said about the end. -/
theorem Scans.written_eq (scanned : s.Scans verbose request settings root finish) :
    ∃ (logged : List Log.Written) (record : Log.Entry → List Log.Written),
      (∀ entry ∈ logged, entry.2.IsLines) ∧
        (s.check verbose request).written = logged ++ (Utterance.writtenAll s.console record
          (speechAbout request.json settings.scan.failOnError finish)).1 := by
  obtain rfl := scanned.ended
  obtain ⟨record, told⟩ := scan_written { s with tree := (s.opened verbose settings).tree }
    (.outputs ⟨(s.openLog verbose settings.log).1.level, (s.opened verbose settings).outputs⟩)
    settings.scan request.json root
  refine ⟨_, record, fun entry due => ?_, scanned.check_eq.2.trans told⟩
  obtain ⟨muted, r, delivered⟩ := Log.Routing.exists_deliver_of_deliverAll due
  exact Log.Routing.isLines_of_deliver delivered

/-- For people, the failure of a scan is told in a status message, as long as that can be shown. -/
theorem Scans.tells_failure
    (failed : s.Scans verbose request settings root (.error (.failure failure)))
    (people : request.json = false) {printed : Text}
    (told : s.console.status (.text "error") (.text failure.line) = .ok printed) :
    (s.check verbose request).Tells (Console.withoutSurrogates printed) ∧
      (s.check verbose request).ending = .scanFailed failure := by
  have said (record : Log.Entry → List Log.Written) : ∃ repeated,
      Utterance.writtenAll s.console record
        (speechAbout request.json settings.scan.failOnError (.error (.failure failure))) =
          ((.stderr, printed) :: repeated, none) := by
    rw [people]
    simp [speechAbout, Speech.ofFailure, Utterance.writtenAll, Utterance.written, told, Except.map]
  constructor
  · obtain ⟨logged, record, lines, written⟩ := failed.written_eq
    obtain ⟨repeated, same⟩ := said record
    have before : (Log.Routing.writtenTo .stderr logged).IsLines :=
      Log.Routing.isLines_writtenTo lines
    have first : Log.Routing.writtenTo .stderr ((.stderr, printed) :: repeated) =
        printed ++ Log.Routing.writtenTo .stderr repeated := rfl
    refine ⟨_, Console.withoutSurrogates (Log.Routing.writtenTo .stderr repeated),
      before.withoutSurrogates, ?_⟩
    rw [Course.errorOutput, written, same, Log.Routing.writtenTo_append, first]
    simp only [Console.withoutSurrogates, List.flatMap_append, List.append_assoc]
  · obtain ⟨record, ending⟩ := failed.ending_eq
    obtain ⟨repeated, same⟩ := said record
    rw [ending, same]
    rfl

/-- It breaks the run down otherwise. -/
theorem Scans.brokeDown_of_unprintable
    (failed : s.Scans verbose request settings root (.error (.failure failure)))
    (people : request.json = false) {problem : Markup.Problem}
    (unshown : s.console.status (.text "error") (.text failure.line) = .error problem) :
    (s.check verbose request).ending = .brokeDown (.markup problem) := by
  have said (record : Log.Entry → List Log.Written) : (Utterance.writtenAll s.console record
      (speechAbout request.json settings.scan.failOnError (.error (.failure failure)))).2 =
        some problem := by
    rw [people]
    simp [speechAbout, Speech.ofFailure, Utterance.writtenAll, Utterance.written, unshown,
      Except.map]
  obtain ⟨record, ending⟩ := failed.ending_eq
  rw [ending, said]
  rfl

end

/-- Arguments ask for a check that is told to people, and its scan fails. -/
structure FailsForPeople (s : Surroundings) (arguments : List Text) (failure : Failure) : Prop where
  scanned : ∃ verbose request settings root,
    Request.ofArguments s.tree s.workingPlace arguments = .ok (.check verbose request) ∧
      request.json = false ∧ s.Scans verbose request settings root (.error (.failure failure))

/-- The failure is told in a status message, and if that cannot be shown, the run breaks down. -/
theorem FailsForPeople.told {s : Surroundings} {arguments : List Text} {failure : Failure}
    (fails : s.FailsForPeople arguments failure) :
    (∀ printed, s.console.status (.text "error") (.text failure.line) = .ok printed →
      (s.run arguments).Tells (Console.withoutSurrogates printed) ∧
        (s.run arguments).ending = .scanFailed failure) ∧
    ∀ problem, s.console.status (.text "error") (.text failure.line) = .error problem →
      (s.run arguments).ending = .brokeDown (.markup problem) := by
  obtain ⟨verbose, request, settings, root, asked, people, failed⟩ := fails.scanned
  have checked : s.run arguments = s.check verbose request := by
    rw [run, asked]
  rw [checked]
  exact ⟨fun printed told => failed.tells_failure people told,
    fun problem unshown => failed.brokeDown_of_unprintable people unshown⟩

/-- What is shown of a failure is told behind its mark, on one line if the console has room for
that. -/
def TellsOf (s : Surroundings) (arguments : List Text) (shown : Text) : Prop :=
  (s.run arguments).Tells (Console.withoutSurrogates (s.console.told (.text "error") shown)) ∧
    (s.console.Fits (Console.mark (.text "error") ++ shown) →
      (s.run arguments).Tells (s.console.onOneLine (.text "error") shown))

/-- A printable failure that can be shown is told of. -/
theorem FailsForPeople.tellsOf {s : Surroundings} {arguments : List Text} {failure : Failure}
    (fails : s.FailsForPeople arguments failure) {shown : Text} (printable : shown.IsPrintable)
    (said : s.console.status (.text "error") (.text failure.line) =
      .ok (s.console.told (.text "error") shown)) :
    s.TellsOf arguments shown ∧ (s.run arguments).ending = .scanFailed failure := by
  obtain ⟨tells, ending⟩ := fails.told.1 _ said
  refine ⟨⟨tells, fun fits => ?_⟩, ending⟩
  rw [Console.told_of_fits printable fits, s.console.withoutSurrogates_onOneLine printable] at tells
  exact tells

/-- A printable status message in which no picture is named is printed behind its mark as it is, and
so is the failure of a scan for people, unless markup is in it. It stands on a line of its own if
the console has room for that, and otherwise on the lines that the console lays it on. With markup
in it, and where no picture can appear, something is left out of it or the run breaks down; this is
about consoles without colours, where markup can add none. -/
theorem told_verbatim_unless_marked (message : Text) (printable : message.IsPrintable) :
    (¬HoldsShortcode IsPictured message → ¬HoldsMarkup message →
      (∀ (console : Console) (style : Data),
        console.status style (.text message) = .ok (console.told style message) ∧
        console.told style message = Console.ended
          (console.signedLines style (console.laid (Console.mark style ++ message))) ∧
        (console.Fits (Console.mark style ++ message) →
          console.told style message = console.onOneLine style message)) ∧
      ∀ s arguments failure, FailsForPeople s arguments failure → failure.line = message →
        s.TellsOf arguments message ∧ (s.run arguments).ending = .scanFailed failure) ∧
    (¬HoldsShortcode IsPicturedOrOpen message → HoldsMarkup message →
      (∀ (console : Console) (style : Data) (printed : Text), console.isColoured = false →
        console.status style (.text message) = .ok printed →
        ∃ shown, Shortens shown message ∧ printed = console.told style shown ∧
          (console.Fits (Console.mark style ++ shown) →
            printed = Console.mark style ++ shown ++ "\n")) ∧
      ∀ s arguments failure, FailsForPeople s arguments failure → failure.line = message →
        s.console.isColoured = false →
        (∃ shown, Shortens shown message ∧ s.TellsOf arguments shown ∧
          (s.run arguments).ending = .scanFailed failure) ∨
        ∃ problem, (s.run arguments).ending = .brokeDown (.markup problem)) := by
  constructor
  · intro unnamed unmarked
    have said (console : Console) (style : Data) :=
      console.status_of_unmarked style unnamed unmarked
    refine ⟨fun console style => ⟨said console style, ?_, Console.told_of_fits printable⟩, ?_⟩
    · exact Console.told_of_isPrintable console style printable
    · rintro s arguments failure fails rfl
      exact fails.tellsOf printable (said s.console (.text "error"))
  · intro unnamed marked
    constructor
    · intro console style printed plain said
      obtain ⟨shown, shortens, rfl⟩ := Console.status_of_marked unnamed marked said
      refine ⟨shown, shortens, rfl, fun fits => ?_⟩
      rw [Console.told_of_fits (printable.sublist shortens.1) fits,
        Console.onOneLine_of_plain plain]
    · rintro s arguments failure fails rfl -
      cases outcome : s.console.status (.text "error") (.text failure.line) with
      | error problem => exact .inr ⟨problem, fails.told.2 problem outcome⟩
      | ok printed =>
        obtain ⟨shown, shortens, rfl⟩ := Console.status_of_marked unnamed marked outcome
        exact .inl ⟨shown, shortens, fails.tellsOf (printable.sublist shortens.1) outcome⟩

/-- A directory that is missing in that project, as the user is told. -/
def missing (path : Text) : Failure := .rootNotFound (.text path)

/-- That project, with a console that is narrow and shows colours. -/
def narrowProject : Surroundings := { emptyProject with console := .ofWidth 40 true }

/-- A directory named classes is told of as it is, on two lines where the console is narrow, and one
with brackets in its name shorter. -/
theorem emptyProject_tells :
    emptyProject.console.status (.text "error") (.text (missing "/w/classes").line) =
      .ok ("✗ " ++ (missing "/w/classes").line ++ "\n") ∧
    (emptyProject.run ["check", "classes"]).Tells ("✗ " ++ (missing "/w/classes").line ++ "\n") ∧
    (emptyProject.run ["check", "classes"]).ending = .scanFailed (missing "/w/classes") ∧
    (narrowProject.run ["check", "classes"]).Tells
      ("\x1b[31m✗\x1b[0m [4001] SCAN_ROOT_NOT_FOUND: Classes \n" ++
        "directory not found: /w/classes\n") ∧
    ∃ shown, Shortens shown (missing "/w/out[b]").line ∧
      (emptyProject.run ["check", "out[b]"]).Tells ("✗ " ++ shown ++ "\n") := by
  have prepared (console : Console) :
      { emptyProject with console := console }.FailsForPeople ["check", "classes"]
        (missing "/w/classes") :=
    ⟨false, { classesDir := some (.ofText "classes") }, {}, ⟨1, ["w", "classes"]⟩, rfl, rfl,
      ⟨⟨.ofText "/w", ⟨rfl, rfl⟩, rfl, rfl⟩, rfl⟩⟩
  have failsToo : emptyProject.FailsForPeople ["check", "out[b]"] (missing "/w/out[b]") :=
    ⟨false, { classesDir := some (.ofText "out[b]") }, {}, ⟨1, ["w", "out[b]"]⟩, rfl, rfl,
      ⟨⟨.ofText "/w", ⟨rfl, rfl⟩, rfl, rfl⟩, rfl⟩⟩
  have printable : (missing "/w/classes").line.IsPrintable ∧
      (missing "/w/out[b]").line.IsPrintable := by decide +kernel
  have unnamed : ¬HoldsShortcode IsPictured (missing "/w/classes").line ∧
      ¬HoldsShortcode IsPicturedOrOpen (missing "/w/out[b]").line := by decide +kernel
  have unmarked : ¬HoldsMarkup (missing "/w/classes").line := by decide +kernel
  have marked : HoldsMarkup (missing "/w/out[b]").line := by decide +kernel
  have fits : emptyProject.console.Fits
        (Console.mark (.text "error") ++ (missing "/w/classes").line) ∧
      emptyProject.console.Fits
        (Console.mark (.text "error") ++ (missing "/w/out[b]").line) := by decide +kernel
  have oneLine (shown : Text) :
      emptyProject.console.onOneLine (.text "error") shown = "✗ " ++ shown ++ "\n" :=
    Console.onOneLine_of_plain rfl _ shown
  obtain ⟨said, tells⟩ := (told_verbatim_unless_marked _ printable.1).1 unnamed.1 unmarked
  obtain ⟨status, -, whole⟩ := said emptyProject.console (.text "error")
  obtain ⟨⟨-, onOneLine⟩, ending⟩ := tells emptyProject _ _ (prepared _) rfl
  refine ⟨?_, ?_, ending, ?_, ?_⟩
  · rw [status, whole fits.1, oneLine]
  · rw [← oneLine]
    exact onOneLine fits.1
  · have broken : Console.withoutSurrogates (narrowProject.console.told (.text "error")
        (missing "/w/classes").line) =
          "\x1b[31m✗\x1b[0m [4001] SCAN_ROOT_NOT_FOUND: Classes \n" ++
            "directory not found: /w/classes\n" := by decide +kernel
    rw [← broken]
    exact (tells narrowProject _ _ (prepared _) rfl).1.1
  · obtain ⟨-, shorter⟩ := (told_verbatim_unless_marked _ printable.2).2 unnamed.2 marked
    rcases shorter _ _ _ failsToo rfl rfl with ⟨shown, shortens, tells, -⟩ | ⟨problem, broke⟩
    · refine ⟨shown, shortens, ?_⟩
      rw [← oneLine]
      exact tells.2 (fits.2.sublist (shortens.1.append_left _))
    · have ending : (emptyProject.run ["check", "out[b]"]).ending =
          .scanFailed (missing "/w/out[b]") := rfl
      cases ending.symm.trans broke

/-- Where the name of a directory holds brackets, what stands in them is missing from the line. If
it looks like the end of a style, there is no line. -/
theorem emptyProject_misprints :
    (missing "/w/out[b]").line.IsPrintable ∧
    ¬HoldsShortcode IsPictured (missing "/w/out[b]").line ∧
    (emptyProject.run ["check", "out[b]"]).ending = .scanFailed (missing "/w/out[b]") ∧
    (emptyProject.run ["check", "out[b]"]).errorOutput = "✗ " ++ (missing "/w/out").line ++ "\n" ∧
    ¬(emptyProject.run ["check", "out[b]"]).Tells ("✗ " ++ (missing "/w/out[b]").line ++ "\n") ∧
    emptyProject.console.status (.text "error") (.text (missing "/w/[/]").line) =
      .error .unprintable := by
  have told : (emptyProject.run ["check", "out[b]"]).errorOutput =
      "✗ " ++ (missing "/w/out").line ++ "\n" := by decide +kernel
  refine ⟨by decide +kernel, by decide +kernel, rfl, told, ?_, rfl⟩
  rintro ⟨before, after, -, whole⟩
  have part : ("✗ " ++ (missing "/w/out[b]").line ++ "\n" : Text) <:+:
      (emptyProject.run ["check", "out[b]"]).errorOutput := ⟨before, after, whole.symm⟩
  have longer := part.length_le
  rw [told] at longer
  exact absurd longer (by decide +kernel)

end Surroundings

end CommandLine

end TagAudit
