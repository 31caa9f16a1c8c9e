import TagAudit.CommandLine.Misuse
import TagAudit.Keyed
import TagAudit.Text.Likeness

/-!
# The words of the arguments

The arguments are a list of words. A word that begins with a dash and does not end there names
options: two dashes begin the name of one, and after a single dash every character is an option of
its own. The value of an option follows an equals sign in the same word, or else is the whole next
word, whatever that looks like. After a word of two dashes there are no more options.

Where options may stand between other words, all other words are collected. Where they may not, the
first other word ends the options.
-/

namespace TagAudit.CommandLine

/-- What is said about an option: switched on or off, or given a value. -/
inductive Setting where
  | switch (on : Bool)
  | value (t : Text)
deriving DecidableEq

/-- How the options of a level are spelled. A spelling that switches says which way; one that does
    not takes a value. -/
structure Grammar (ο : Type) where
  /-- Names with their dashes. -/
  long : Keyed Text (ο × Option Bool)
  /-- The characters that switch an option on. -/
  short : Keyed CodePoint ο
  /-- Whether options may stand after other words. -/
  interspersed : Bool

/-- What words say: options in the order in which they were given, and the other words. -/
structure Words (ο : Type) where
  options : List (ο × Setting)
  others : List Text

namespace Words

variable {ο : Type}

/-- The words with options in front. -/
def withOptions (given : List (ο × Setting)) (words : Words ο) : Words ο :=
  { words with options := given ++ words.options }

/-- The words with another word in front. -/
def withOther (word : Text) (words : Words ο) : Words ο :=
  { words with others := word :: words.others }

/-- What was said last about each option, in the order in which they were first given. -/
def settled [BEq ο] (words : Words ο) : Keyed ο Setting := Keyed.ofPairs words.options

end Words

namespace Grammar

variable {ο : Type}

/-- The word after which there are no options. -/
def endOfOptions : Text := "--"

/-- Whether a word names options. -/
def namesOptions (word : Text) : Bool := word.startsWith "-" && 1 < word.length

/-- The name in a word, and the value after its first equals sign, if there is one. -/
def nameAndValue (word : Text) : Text × Option Text :=
  let name := word.takeWhile fun c : CodePoint => c ≠ '='
  (name, (word.drop name.length).tail?)

/-- The options that the characters after a single dash switch on. -/
def cluster (g : Grammar ο) (characters : Text) : Except Misuse (List (ο × Setting)) :=
  characters.mapM fun c =>
    match Keyed.get? c g.short with
    | some option => .ok (option, .switch true)
    | none => .error (.noOption ['-', c] [])

/-- Reads words. -/
def read (g : Grammar ο) : List Text → Except Misuse (Words ο)
  | [] => .ok ⟨[], []⟩
  | word :: rest =>
    if word = endOfOptions then .ok ⟨[], rest⟩
    else if !namesOptions word then
      if g.interspersed then (g.read rest).map (·.withOther word) else .ok ⟨[], word :: rest⟩
    else
      let (name, value?) := nameAndValue word
      match Keyed.get? name g.long, value? with
      | some (option, some on), none => (g.read rest).map (·.withOptions [(option, .switch on)])
      | some (_, some _), some _ => .error (.unwantedValue name)
      | some (option, none), some value =>
        (g.read rest).map (·.withOptions [(option, .value value)])
      | some (option, none), none =>
        match rest with
        | value :: rest => (g.read rest).map (·.withOptions [(option, .value value)])
        | [] => .error (.missingValue name)
      | none, _ =>
        if word.startsWith endOfOptions then
          .error (.noOption name (Text.alikeTo name (Keyed.keys g.long)))
        else do
          let given ← g.cluster word.tail
          return (← g.read rest).withOptions given

end Grammar

end TagAudit.CommandLine
