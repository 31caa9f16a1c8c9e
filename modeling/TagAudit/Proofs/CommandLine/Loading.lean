import TagAudit.Proofs.CommandLine.Options
import TagAudit.Proofs.Settings.Variables

/-!
# Loading settings

Whatever the sources of settings say, each setting is settled by the first of them that says anything
about it, and by nothing else. This holds for any caller and for the command, whose options are the
first source there.

A value that is refused is reported with its place, but for two things: a path that begins with the
home of a user whose home is not known ends loading without a report, and so does a value that holds
an integer too long to be shown.
-/

namespace TagAudit

namespace CommandLine

namespace Surroundings

/-- What settings are loaded from for a request on a project. -/
def sources (s : Surroundings) (project : Path) (request : CheckRequest) : Settings.Sources where
  tree := s.tree
  workingPlace := s.workingPlace
  user := s.userDocument
  project := project
  homes := s.homes
  environment := s.environment
  overrides := request.overrides
  ends := request.holdsEndless_overrides

/-- For the command a setting is what its option says, if it is given, and otherwise what the other
sources say. -/
theorem chosen_eq (surroundings : Surroundings) (path : Path) (request : CheckRequest)
    (others : List (Keyed Key Data)) (s : Settings.Setting) :
    s.chosen ((surroundings.sources path request).overrides :: others) =
      (request.option? s).or (s.chosen others) := by
  rw [s.chosen_cons, ← request.in?_overrides]
  rfl

end Surroundings

end CommandLine

namespace Settings

/-- A project and its user both have a document, and the environment says something too. What the
document of the project says about workers would be refused, but something else stands above it, and
what it says about the log leads into the home of a user who is known. -/
def mixedProject : CommandLine.Surroundings where
  tree := .directory
    [("w", .directory [("tagcheck.yaml",
        .file (Utf8.encode ("logging:\n  outputs:\n  - destination: ~root/x.log\n" ++
          "scan:\n  max_workers: 0\n")))]),
      ("u.yaml", .file (Utf8.encode "scan:\n  extension: .jar\n"))]
  workingPlace := ["w"]
  homes := .ofList (some "/home") [("root", "/root")]
  userDocument := ⟨1, ["u.yaml"]⟩
  environment := [("tagcheck__Scan__max_workers", "3"), ("TAGCHECK__LOGGING__LEVEL", "ERROR")]
  time := []
  scanId := "1"

/-- Where the document of the project stands. -/
def mixedPath : Path := ⟨1, ["w"]⟩

/-- A request for a run that conflicts do not fail. -/
def forgivingRequest : CommandLine.CheckRequest := { failOnError := some false }

/-- The settings for it. -/
def mixedSettings : Settings where
  log := { level := .error, outputs := [{ destination := .file ⟨1, ["root", "x.log"]⟩ }] }
  scan := { extension := ".jar", failOnError := false, maxWorkers := 3 }

/-- A project and a user whose documents both hold themselves as their section on scans. -/
def twistedProject : CommandLine.Surroundings :=
  { mixedProject with
    tree := .directory
      [("w", .directory [("tagcheck.yaml", .file (Utf8.encode "&x\nscan: *x\n"))]),
        ("u.yaml", .file (Utf8.encode "&y\nscan: *y\n"))] }

/-- Everything that the settings are loaded from can be read, with the option and without it, and the
documents can be combined. -/
theorem exists_mixedProject_provide :
    let sources := mixedProject.sources mixedPath forgivingRequest
    let bare := mixedProject.sources mixedPath {}
    ∃ environment documents,
      sources.Provide environment documents ∧ bare.Provide environment documents ∧
      bare.behind environment documents = sources.behind environment documents ∧
      ¬documents.project.RunsOn documents.user := by
  intro sources bare
  obtain ⟨environment, documents, provide, fit⟩ :=
    @Sources.exists_provide sources
      (fun environment documents =>
        decide (bare.levelsAbove environment = sources.levelsAbove environment) &&
          documents.levels?.isSome)
      (by decide +kernel)
  obtain ⟨sameLevels, finite⟩ := Bool.and_eq_true_iff.mp fit
  have sameLevels := of_decide_eq_true sameLevels
  refine ⟨environment, documents, provide, ⟨provide.environmentRead, provide.environmentPlain,
    provide.documentsRead, ?_, ?_⟩, ?_, fun endless => ?_⟩
  · rw [sameLevels]
    exact provide.projectPlain
  · rw [sameLevels]
    exact provide.userPlain
  · rw [Sources.behind, sameLevels, Sources.behind]
  · rw [Documents.levels?_eq_none_iff.mpr endless] at finite
    cases finite

/-- Both documents of the twisted project can be read, and common keys run on and on through them. -/
theorem exists_twistedProject_provide : ∃ environment documents,
    (twistedProject.sources mixedPath {}).Provide environment documents ∧
      documents.project.RunsOn documents.user := by
  obtain ⟨environment, documents, provide, endless⟩ :=
    @Sources.exists_provide (twistedProject.sources mixedPath {})
      (fun _ documents => documents.levels?.isNone) (by decide +kernel)
  exact ⟨environment, documents, provide,
    Documents.levels?_eq_none_iff.mp (Option.isNone_iff_eq_none.mp endless)⟩

/-- The settings are loaded, each from another source. -/
theorem load_mixedProject :
    load (mixedProject.sources mixedPath forgivingRequest) = .ok mixedSettings := by
  have found : (load (mixedProject.sources mixedPath forgivingRequest)).toOption =
      some mixedSettings := by
    decide +kernel
  cases loaded : load (mixedProject.sources mixedPath forgivingRequest) with
  | error problem =>
    rw [loaded] at found
    cases found
  | ok settings =>
    rw [loaded] at found
    exact congrArg Except.ok (Option.some.inj found)

/-- What a caller says who sends the log into the home of a user who is not there. -/
def foreignHome : Keyed Key Data :=
  [("logging", .ofFields [("outputs",
    .list [.ofFields [("destination", .text "~nosuchuser/x.log")]])])]

end Settings

end TagAudit
