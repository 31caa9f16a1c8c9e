import TagAudit.FileTree.RealPath

/-!
# Choosing the directory of classes

The directory that is scanned is the one the caller names, or else the one the settings name, or
else the first of the usual places under the project that is a directory. The settings' directory
may begin with a home directory, and is looked for from the project on. The first two need not be
there: that they are not is found out by the scan.

What is chosen is the real path.
-/

namespace TagAudit.ClassesDir

/-- Why no directory is chosen. -/
inductive Problem where
  /-- None was named and none of the usual places under the project is there. -/
  | noneFound (project : Path)
  /-- The links on the way lead in circles. -/
  | circular
  /-- A directory has a path that cannot be looked up, or begins with a name that no user can
      have. -/
  | unusable (problem : PathProblem)
  /-- The directory begins with the home of a user whose home is not known. -/
  | unknownHome

/-- The places in a project where build tools put compiled classes. -/
def usualPlaces : List Text :=
  ["target/classes", "build/classes/java/main", "build/classes/kotlin/main"]

/-- The sentences about a project without classes. -/
def noneFoundMessage (project : Path) : Text :=
  "No compiled classes found under " ++ project.toText ++ " (tried "
    ++ Text.joined ", " usualPlaces
    ++ ").\nBuild the project first or pass the directory: tagcheck check CLASSES_DIR"

/-- The real path of a directory that was chosen. -/
def real (tree : Node) (workingPlace : Place) (chosen : Path) : Except Problem Path :=
  match tree.realPath workingPlace chosen with
  | .ok path => .ok path
  | .error .tooManyLinks => .error .circular
  | .error problem => .error (.unusable problem)

/-- The first of the usual places under a project that is a directory. -/
def usual? (tree : Node) (workingPlace : Place) (project : Path) :
    Except PathProblem (Option Path) :=
  (usualPlaces.map fun place => project.join (.ofText place)).findM? fun path =>
    tree.hasDirectory workingPlace path

/-- Chooses the directory of classes. Settings with an empty text name none. -/
def choose (tree : Node) (workingPlace : Place) (homes : Homes) (project : Path)
    (named : Option Path)
    (configured : Option Text) : Except Problem Path :=
  match named, configured with
  | some path, _ => real tree workingPlace path
  | none, some (c :: rest) =>
    match (Path.ofText (c :: rest)).expandHome homes with
    | .ok path => real tree workingPlace (project.join path)
    | .error .unknown => .error .unknownHome
    | .error .holdsNull => .error (.unusable .holdsNull)
    | .error (.notBytes ..) => .error (.unusable .notBytes)
  | none, _ =>
    match usual? tree workingPlace project with
    | .ok (some path) => real tree workingPlace path
    | .ok none => .error (.noneFound project)
    | .error problem => .error (.unusable problem)

end TagAudit.ClassesDir
