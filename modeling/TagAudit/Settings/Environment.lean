import TagAudit.Data.Json.Reader
import TagAudit.Data.Overlay
import TagAudit.Text.Case

/-!
# Settings from the environment

A variable whose name begins with the program's holds a setting. After that the name leads to the
setting: a section alone, or a section and the names within it, each after two low lines. Names
count without regard to capitals. A section alone, and a setting that is a list, are written in
JSON; any other setting is the text itself. How names begin and are divided, whether capitals
matter, and whether empty variables count can be changed.

What is set one by one is laid over what is set for the section as a whole. A section that is set to
something else than an object is that, and null leaves it unset.
-/

namespace TagAudit

/-- The environment: variables by name. -/
abbrev Environment := Keyed Text Text

namespace Environment

/-- The settings that a section of settings has. -/
structure Section where
  name : Text
  settings : List Text
  /-- Those of the settings that are lists. -/
  lists : List Text

/-- All sections, in the order in which they are read. -/
def sections : List Section :=
  [⟨"logging", ["level", "outputs"], ["outputs"]⟩,
    ⟨"scan", ["classes_dir", "extension", "tag_annotation", "fail_on_error", "skip_invalid",
      "max_workers", "exclude_dirs"], ["exclude_dirs"]⟩]

/-- How the names of variables are read. -/
structure Naming where
  /-- What the names begin with. -/
  start : Text := "TAGCHECK__"
  /-- What stands before each name within a section; if it is empty, there are none. -/
  separator : Text := "__"
  /-- Whether capitals are told from small letters. -/
  caseSensitive : Bool := false
  /-- Whether a variable that is empty counts as one that is not there. -/
  ignoresEmpty : Bool := false

/-- A name as it is compared. -/
def Naming.compared (naming : Naming) (name : Text) : Text :=
  if naming.caseSensitive then name else name.lowered

/-- The environment with all names as they are compared. Of names that become the same, the last
    one's value counts. -/
def comparable (naming : Naming) (env : Environment) : Environment :=
  let counting := env.filter fun entry => !(naming.ignoresEmpty && entry.2.isEmpty)
  Keyed.ofPairs (counting.map fun (name, value) => (naming.compared name, value))

/-- The parts of a name between separators, given the part so far in reverse and how many code
    points of a separator have still to be passed over. -/
def nameParts (separator : Text) : (passing : Nat) → Text → (reversed : Text) → List Text
  | _, [], reversed => [reversed.reverse]
  | passing + 1, _ :: rest, reversed => nameParts separator passing rest reversed
  | 0, c :: rest, reversed =>
    if separator.isPrefixOf (c :: rest) then
      reversed.reverse :: nameParts separator (separator.length - 1) rest []
    else nameParts separator 0 rest (c :: reversed)

/-- Puts a value where names lead to, making tables on the way. A value on the way that is no table
    stays. -/
def putUnder (value : Data) : List Text → Keyed Key Data → Keyed Key Data
  | [], entries => entries
  | [name], entries => entries.put (Key.text name) value
  | name :: rest, entries =>
    match (entries.get? (Key.text name)).getD (.table []) with
    | .table inner => entries.put (Key.text name) (.table (putUnder value rest inner))
    | _ => entries

/-- The value of a variable for a setting, given the names that lead to it within its section. -/
def settingValue? (s : Section) (names : List Text) (value : Text) : Option Data :=
  match names with
  | [name] =>
    if s.lists.contains name && !value.isEmpty then Data.Json.read? value else some (.text value)
  | _ => some (.text value)

/-- The name of the variable for a section. -/
def variableOf (naming : Naming) (s : Section) : Text := naming.compared (naming.start ++ s.name)

/-- What is set one by one in a section, or nothing if a list among it cannot be read. -/
def single? (naming : Naming) (s : Section) (env : Environment) : Option (Keyed Key Data) :=
  if naming.separator.isEmpty then some []
  else env.foldlM (fun entries (name, value) =>
    match Text.after? (variableOf naming s ++ naming.separator) name with
    | none => some entries
    | some rest => do
      let names := nameParts naming.separator 0 rest []
      return putUnder (← settingValue? s names value) names entries) []

/-- A table with the names of settings in the spelling that they have there. -/
def withProperNames (naming : Naming) (s : Section) (entries : Keyed Key Data) : Keyed Key Data :=
  Keyed.ofPairs (entries.map fun (key, value) =>
    match key with
    | .text name =>
      let proper? := s.settings.find? fun proper => proper == naming.compared name
      (Key.text (proper?.getD name), value)
    | _ => (key, value))

/-- What the environment says about a section: nothing, some data, or something unreadable. -/
def section? (naming : Naming) (s : Section) (env : Environment) : Except Unit (Option Data) :=
  match Keyed.get? (variableOf naming s) env with
  | none =>
    match single? naming s env with
    | none => .error ()
    | some [] => .ok none
    | some entries => .ok (some (.table (withProperNames naming s entries)))
  | some value =>
    match Data.Json.read? value with
    | none => .error ()
    | some .null => .ok none
    | some (.table entries) =>
      match single? naming s env with
      | none => .error ()
      | some single =>
        .ok (some (.table (withProperNames naming s (Data.overEntries single entries))))
    | some other => .ok (some other)

/-- The settings in the environment, or the name of the first section that cannot be read. -/
def settings (naming : Naming) (env : Environment) : Except Text (Keyed Key Data) :=
  let env := env.comparable naming
  sections.foldlM (fun entries s =>
    match section? naming s env with
    | .error () => .error s.name
    | .ok none => .ok entries
    | .ok (some value) => .ok (entries.put (Key.text s.name) value)) []

end Environment

end TagAudit
