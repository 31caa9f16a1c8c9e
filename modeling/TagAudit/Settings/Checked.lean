import TagAudit.Data.Display
import TagAudit.Keyed

/-!
# Checked data

Checking data yields a value or the reasons that there is none. All issues are collected, in the
order in which the data is checked, each with the place where it was found. One thing ends a check
at once: a path that begins with the home of a user whose home is not known.
-/

namespace TagAudit

/-- A step towards a place in data. -/
inductive Step where
  | name (t : Text)
  | index (i : Nat)
deriving DecidableEq

/-- A step as it is written in the name of a place. -/
def Step.toText : Step → Text
  | name t => t
  | index i => Text.ofNat i

/-- What is wrong with data. -/
inductive Fault where
  | notText
  /-- A text with surrogates, or bytes that are no text, where only characters can be read. -/
  | notCharacters
  | notBool
  | unreadableBool
  | notInteger
  | unreadableInteger
  /-- An integer beyond the ones that can be read. -/
  | excessiveInteger
  | fractional
  | notFinite
  | notList
  /-- Not a table from which settings of a kind could be read. -/
  | notSettings (kind : Text)
  /-- None of the words that are allowed. -/
  | notAmong (words : List Text)
  /-- The value is of the right type and unsuitable all the same. -/
  | unsuitable (reason : Text)
  /-- A name that means nothing. -/
  | unknownName
deriving DecidableEq

namespace Fault

/-- The name of a fault. -/
def name : Fault → Text
  | notText => "string_type"
  | notCharacters => "string_unicode"
  | notBool => "bool_type"
  | unreadableBool => "bool_parsing"
  | notInteger => "int_type"
  | unreadableInteger => "int_parsing"
  | excessiveInteger => "int_parsing_size"
  | fractional => "int_from_float"
  | notFinite => "finite_number"
  | notList => "list_type"
  | notSettings _ => "model_type"
  | notAmong _ => "literal_error"
  | unsuitable _ => "value_error"
  | unknownName => "extra_forbidden"

/-- Words in quotes, with commas between them and a last one after "or". -/
def choice : List Text → Text
  | [] => []
  | [word] => word.quoted
  | [word, last] => word.quoted ++ " or " ++ last.quoted
  | word :: rest => word.quoted ++ ", " ++ choice rest

/-- The sentence about a fault. -/
def message : Fault → Text
  | notText => "Input should be a valid string"
  | notCharacters => "Input should be a valid string, unable to parse raw data as a unicode string"
  | notBool => "Input should be a valid boolean"
  | unreadableBool => "Input should be a valid boolean, unable to interpret input"
  | notInteger => "Input should be a valid integer"
  | unreadableInteger =>
    "Input should be a valid integer, unable to parse string as an integer"
  | excessiveInteger =>
    "Unable to parse input string as an integer, exceeded maximum size"
  | fractional => "Input should be a valid integer, got a number with a fractional part"
  | notFinite => "Input should be a finite number"
  | notList => "Input should be a valid list"
  | notSettings kind => "Input should be a valid dictionary or instance of " ++ kind
  | notAmong words => "Input should be " ++ choice words
  | unsuitable reason => "Value error, " ++ reason
  | unknownName => "Extra inputs are not permitted"

end Fault

/-- A fault, where it was found and in what. -/
structure Issue where
  place : List Step
  fault : Fault
  input : Data

/-- Why data is refused. -/
inductive Refusal where
  | issues (first : Issue) (others : List Issue)
  | unknownHome

/-- A value, or why there is none. -/
abbrev Checked (α : Type) := Except Refusal α

namespace Refusal

/-- Both refusals at once. -/
def and : Refusal → Refusal → Refusal
  | issues first others, issues first' others' => issues first (others ++ first' :: others')
  | _, _ => unknownHome

/-- The refusal of what stands one step further up. -/
def inside (step : Step) : Refusal → Refusal
  | issues first others =>
    let deeper := fun issue : Issue => { issue with place := step :: issue.place }
    issues (deeper first) (others.map deeper)
  | unknownHome => unknownHome

end Refusal

namespace Checked

variable {α β : Type}

/-- The refusal of data for one fault. -/
def refuse (fault : Fault) (input : Data) : Checked α := .error (.issues ⟨[], fault, input⟩ [])

/-- What the checks of two parts come to together. -/
def both : Checked α → Checked β → Checked (α × β)
  | .ok a, .ok b => .ok (a, b)
  | .ok _, .error refusal => .error refusal
  | .error refusal, .ok _ => .error refusal
  | .error refusal, .error refusal' => .error (refusal.and refusal')

/-- A check of what stands one step further down. -/
def inside (step : Step) (checked : Checked α) : Checked α := checked.mapError (.inside step)

end Checked

end TagAudit
