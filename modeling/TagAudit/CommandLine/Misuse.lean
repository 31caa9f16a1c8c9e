import TagAudit.CommandLine.Level
import TagAudit.Text.Quoted
import TagAudit.Text.Utf8

/-!
# Misuse of the command line

What can be wrong with the arguments, and the words for it. Most messages come after a reminder of
how the program is called; the two about the value of an option do not. Where there are no arguments
at all, the help is shown instead.
-/

namespace TagAudit.CommandLine

/-- What is wrong with the arguments. -/
inductive Misuse where
  | noArguments
  /-- There is no such option, but there may be some that are spelled alike. -/
  | noOption (spelling : Text) (alike : List Text)
  | missingValue (spelling : Text)
  | unwantedValue (spelling : Text)
  | missingCommand
  | noCommand (name : Text) (alike : List Text)
  /-- The number of workers is no integer. -/
  | notInteger (given : Text)
  /-- The number of workers is less than one. -/
  | belowOne (given : Int)
  | projectMissing (given : Text)
  | projectIsFile (given : Text)
  | classesDirIsFile (given : Text)
  | extraArguments (first : Text) (others : List Text)
deriving DecidableEq

namespace Misuse

/-- The beginning of the sentence about a value. -/
def invalidValue (parameter : Text) : Text := "Invalid value for '" ++ parameter ++ "': "

/-- The question whether something that is spelled alike was meant. -/
def question : List Text → Text
  | [] => []
  | [one] => " Did you mean " ++ one.quoted ++ "?"
  | several =>
    " (Did you mean one of: " ++ Text.joined ", " (several.map Text.quoted) ++ "?)"

/-- A path as it is shown: what is no UTF-8 in it gives way to the replacement character. -/
def shownPath (given : Text) : Text := (Utf8.decodeLeniently (Utf8.encodeName given)).quoted

/-- The sentence about a misuse. -/
def message : Misuse → Text
  | noArguments => []
  | noOption spelling alike => "No such option " ++ spelling.quoted ++ "." ++ question alike
  | missingValue spelling => "Option " ++ spelling.quoted ++ " requires an argument."
  | unwantedValue spelling => "Option " ++ spelling.quoted ++ " does not take a value."
  | missingCommand => "Missing command."
  | noCommand name alike => "No such command " ++ name.quoted ++ "." ++ question alike
  | notInteger given =>
    invalidValue "--workers" ++ given.quoted ++ " is not a valid integer range."
  | belowOne given =>
    invalidValue "--workers" ++ Text.ofInt given ++ " is not in the range x>=1."
  | projectMissing given =>
    invalidValue "--project" ++ "Directory " ++ shownPath given ++ " does not exist."
  | projectIsFile given =>
    invalidValue "--project" ++ "Directory " ++ shownPath given ++ " is a file."
  | classesDirIsFile given =>
    invalidValue "[CLASSES_DIR]" ++ "Directory " ++ shownPath given ++ " is a file."
  | extraArguments first [] => "Got unexpected extra argument (" ++ first ++ ")"
  | extraArguments first others =>
    "Got unexpected extra arguments (" ++ Text.joined " " (first :: others) ++ ")"

/-- Whether the reminder of how the program is called comes before the message. -/
def isReminded : Misuse → Bool
  | missingValue _ | unwantedValue _ => false
  | _ => true

/-- What is printed about a misuse at a level. -/
def report (level : Level) : Misuse → Text
  | noArguments => level.help
  | misuse =>
    (if misuse.isReminded then level.reminder else []) ++ "Error: " ++ misuse.message ++ "\n"

end Misuse

end TagAudit.CommandLine
