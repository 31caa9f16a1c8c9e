import TagAudit.CommandLine.Request
import TagAudit.Proofs.Keyed

/-!
# What arguments say of the command

An option is read only where it is spelled: a switch as a whole word, and everything else as a value
that follows a name or as a character after a single dash. So the command shows its help only if the
word for that is among its arguments.

A word that asks for output for machines may be put in front of the other arguments of the command.
The request is the same but for that, and arguments that were refused are refused as before.
-/

namespace TagAudit.CommandLine

namespace Grammar

variable {ο : Type}

/-- A word without a value is a name as a whole. -/
theorem eq_of_nameAndValue (word name : Text) (whole : nameAndValue word = (name, none)) :
    word = name := by
  obtain ⟨rfl, unfollowed⟩ := Prod.mk.inj whole
  have front := List.takeWhile_prefix (l := word) fun c : CodePoint => decide (c ≠ '=')
  refine (front.eq_of_length_le (List.drop_eq_nil_iff.mp ?_)).symm
  cases left : word.drop (word.takeWhile fun c : CodePoint => decide (c ≠ '=')).length with
  | nil => rfl
  | cons c rest => rw [left] at unfollowed; cases unfollowed

/-- How it is spelled among arguments what was said about an option. -/
inductive Spelled (g : Grammar ο) (arguments : List Text) (option : ο) : Setting → Prop where
  | switch (word : Text) (on : Bool) (among : word ∈ arguments)
      (named : Keyed.get? word g.long = some (option, some on)) :
      Spelled g arguments option (.switch on)
  | value (name t : Text) (named : Keyed.get? name g.long = some (option, none)) :
      Spelled g arguments option (.value t)
  | character (c : CodePoint) (named : Keyed.get? c g.short = some option) :
      Spelled g arguments option (.switch true)

/-- What is spelled among some arguments is spelled among more. -/
theorem Spelled.among_more {g : Grammar ο} {some more : List Text} {option : ο} {setting : Setting}
    (spelled : g.Spelled some option setting) (within : ∀ word ∈ some, word ∈ more) :
    g.Spelled more option setting := by
  cases spelled with
  | switch word on among named => exact .switch word on (within word among) named
  | value name t named => exact .value name t named
  | character c named => exact .character c named

/-- What the characters of a cluster switch on is spelled. -/
theorem spelled_of_cluster (g : Grammar ο) (arguments : List Text) (characters : Text)
    (given : List (ο × Setting)) (done : g.cluster characters = .ok given) (option : ο)
    (setting : Setting) (member : (option, setting) ∈ given) :
    g.Spelled arguments option setting := by
  induction characters generalizing given with
  | nil =>
    obtain rfl := Except.ok.inj done
    cases member
  | cons c rest inductionHypothesis =>
    rw [cluster, List.mapM_cons] at done
    cases named : Keyed.get? c g.short with
    | none =>
      rw [named] at done
      cases done
    | some switched =>
      cases others : g.cluster rest with
      | error misuse =>
        rw [cluster] at others
        rw [named, others] at done
        cases done
      | ok later =>
        have found := inductionHypothesis later others
        rw [cluster] at others
        rw [named, others] at done
        obtain rfl := Except.ok.inj done
        rcases List.mem_cons.mp member with first | among
        · cases first
          exact .character c named
        · exact found among

/-- Words that were read with options in front are words that were read without them. -/
theorem exists_of_withOptions (g : Grammar ο) (arguments : List Text) (given : List (ο × Setting))
    (words : Words ο)
    (done : (g.read arguments).map (·.withOptions given) = .ok words) :
    ∃ others, g.read arguments = .ok others ∧ words = others.withOptions given := by
  cases read : g.read arguments with
  | error misuse =>
    rw [read] at done
    cases done
  | ok others =>
    rw [read] at done
    exact ⟨others, rfl, (Except.ok.inj done).symm⟩

/-- What was read of an option was spelled. -/
theorem spelled_of_read (g : Grammar ο) (arguments : List Text) (words : Words ο)
    (done : g.read arguments = .ok words) (option : ο) (setting : Setting)
    (given : (option, setting) ∈ words.options) : g.Spelled arguments option setting := by
  -- With an option in front either this one is meant, or one among the words behind.
  have behind (front rest : List Text) (first : ο × Setting)
      (inner : ∀ words, g.read rest = .ok words → (option, setting) ∈ words.options →
        g.Spelled rest option setting)
      (words : Words ο) (done : (g.read rest).map (·.withOptions [first]) = .ok words)
      (given : (option, setting) ∈ words.options)
      (spelled : g.Spelled (front ++ rest) first.1 first.2) :
      g.Spelled (front ++ rest) option setting := by
    obtain ⟨others, read, rfl⟩ := exists_of_withOptions g rest [first] words done
    rcases List.mem_cons.mp given with same | later
    · cases same
      exact spelled
    · exact (inner others read later).among_more fun word => List.mem_append_right front
  fun_induction Grammar.read g arguments generalizing words with
  | case1 => cases done; cases given
  | case2 rest => cases done; cases given
  | case3 word rest _ _ interspersed inductionHypothesis =>
    cases read : g.read rest with
    | error misuse =>
      rw [read] at done
      cases done
    | ok others =>
      rw [read] at done
      obtain rfl := Except.ok.inj done
      exact (inductionHypothesis others read given).among_more fun _ => List.mem_cons_of_mem word
  | case4 word rest => cases done; cases given
  | case5 word rest _ _ name switched on named whole inductionHypothesis =>
    obtain rfl := eq_of_nameAndValue word name whole
    exact behind [word] rest _ inductionHypothesis words done given
      (.switch word on List.mem_cons_self named)
  | case6 => cases done
  | case7 word rest _ _ name valued t named whole inductionHypothesis =>
    exact behind [word] rest _ inductionHypothesis words done given (.value name t named)
  | case8 word _ _ name valued named t rest whole inductionHypothesis =>
    exact behind [word, t] rest _ inductionHypothesis words done given (.value name t named)
  | case9 => cases done
  | case10 => cases done
  | case11 word rest _ _ name _ _ unnamed _ inductionHypothesis =>
    cases clustered : g.cluster word.tail with
    | error misuse =>
      rw [clustered] at done
      cases done
    | ok switched =>
      cases read : g.read rest with
      | error misuse =>
        rw [clustered, read] at done
        cases done
      | ok others =>
        rw [clustered, read] at done
        obtain rfl := Except.ok.inj done
        rcases List.mem_append.mp given with first | later
        · exact spelled_of_cluster g _ word.tail switched clustered option setting first
        · exact (inductionHypothesis others read later).among_more
            fun _ => List.mem_cons_of_mem word

end Grammar

/-- A name means what the table of the command's options says. -/
theorem named_iff (name : Text) (meaning : CheckOption × Option Bool) :
    Keyed.get? name checkGrammar.long = some meaning ↔ (name, meaning) ∈ checkGrammar.long :=
  Keyed.get?_eq_some_iff name meaning checkGrammar.long (by decide)

/-- The help of the command is asked for by its word only. -/
theorem help_spelled (arguments : List Text) (words : Words CheckOption)
    (done : checkGrammar.read arguments = .ok words) (setting : Setting)
    (given : (.help, setting) ∈ words.options) : Text.ofString "--help" ∈ arguments := by
  cases Grammar.spelled_of_read checkGrammar arguments words done .help setting given with
  | switch word on among named =>
    obtain ⟨rfl, -⟩ : word = Text.ofString "--help" ∧ on = true := by
      simpa [checkGrammar] using (named_iff word _).mp named
    exact among
  | value name t named => simpa [checkGrammar] using (named_iff name _).mp named
  | character c named => simp [checkGrammar, Keyed.get?] at named

/-- Output for machines is switched on only. -/
theorem json_switched (arguments : List Text) (words : Words CheckOption)
    (done : checkGrammar.read arguments = .ok words) (setting : Setting)
    (given : (.json, setting) ∈ words.options) : setting = .switch true := by
  cases Grammar.spelled_of_read checkGrammar arguments words done .json setting given with
  | switch word on among named =>
    obtain ⟨-, rfl⟩ : word = Text.ofString "--json" ∧ on = true := by
      simpa [checkGrammar] using (named_iff word _).mp named
    rfl
  | value name t named => simpa [checkGrammar] using (named_iff name _).mp named
  | character c named => simp [checkGrammar, Keyed.get?] at named

/-- The same request with output for machines. -/
def CheckRequest.forMachines (request : CheckRequest) : CheckRequest :=
  { request with json := true }

/-- The same with output for machines, if it is a request to check. -/
def Request.forMachines : Request → Request
  | .check verbose request => .check verbose request.forMachines
  | other => other

namespace CheckRequest

section
variable (tree : Node) (workingPlace : Place)

/-- What is said about an option does not depend on whom the output is for. -/
theorem withSetting_forMachines (request : CheckRequest) (given : CheckOption × Setting)
    (switched : given.1 = .json → given.2 = .switch true) :
    withSetting tree workingPlace request.forMachines given =
      (withSetting tree workingPlace request given).map forMachines := by
  obtain ⟨option, setting⟩ := given
  cases setting with
  | switch on =>
    cases option with
    | json =>
      cases switched rfl
      rfl
    | _ => rfl
  | value t =>
    cases option with
    | project =>
      simp only [withSetting]
      cases typedNode? tree workingPlace t with
      | error refused => rfl
      | ok node? => rcases node? with _ | _ | _ | _ <;> rfl
    | workers =>
      simp only [withSetting]
      cases integer? t with
      | none => rfl
      | some n =>
        by_cases small : n < 1
        · simp only [if_pos small]
          rfl
        · simp only [if_neg small]
          rfl
    | _ => rfl

/-- Nor does what is said about several. -/
theorem foldlM_forMachines (request : CheckRequest) (settings : List (CheckOption × Setting))
    (switched : ∀ setting, (.json, setting) ∈ settings → setting = .switch true) :
    settings.foldlM (withSetting tree workingPlace) request.forMachines =
      (settings.foldlM (withSetting tree workingPlace) request).map forMachines := by
  induction settings generalizing request with
  | nil => rfl
  | cons given rest inductionHypothesis =>
    obtain ⟨option, setting⟩ := given
    have first := withSetting_forMachines tree workingPlace request (option, setting)
      fun same => switched setting (by rw [← same]; exact List.mem_cons_self)
    rw [List.foldlM_cons, List.foldlM_cons, first]
    cases withSetting tree workingPlace request (option, setting) with
    | error refused => rfl
    | ok next =>
      exact inductionHypothesis next fun setting later => switched setting
        (List.mem_cons_of_mem _ later)

/-- For machines it makes no difference whether output for them is asked for among the settings. -/
theorem foldlM_without_json (request : CheckRequest) (settings : List (CheckOption × Setting))
    (switched : ∀ setting, (.json, setting) ∈ settings → setting = .switch true) :
    (settings.foldlM (withSetting tree workingPlace) request).map forMachines =
      ((settings.filter (·.1 != .json)).foldlM (withSetting tree workingPlace) request).map
        forMachines := by
  induction settings generalizing request with
  | nil => rfl
  | cons given rest inductionHypothesis =>
    obtain ⟨option, setting⟩ := given
    have later := fun setting among => switched setting (List.mem_cons_of_mem _ among)
    by_cases machines : option = .json
    · obtain rfl := machines
      obtain rfl := switched setting List.mem_cons_self
      have step : ((.json, .switch true) :: rest).foldlM (withSetting tree workingPlace) request =
          rest.foldlM (withSetting tree workingPlace) request.forMachines := rfl
      rw [step, foldlM_forMachines tree workingPlace request rest later]
      have left : ((CheckOption.json, Setting.switch true) :: rest).filter (·.1 != .json) =
          rest.filter (·.1 != .json) := rfl
      rw [left, ← inductionHypothesis request later]
      cases rest.foldlM (withSetting tree workingPlace) request <;> rfl
    · have left : ((option, setting) :: rest).filter (·.1 != .json) =
          (option, setting) :: rest.filter (·.1 != .json) := by
        simp [machines]
      rw [left, List.foldlM_cons, List.foldlM_cons]
      cases withSetting tree workingPlace request (option, setting) with
      | error refused => rfl
      | ok next => exact inductionHypothesis next later

/-- When output for machines is asked for in front, that is settled, and all else as before. -/
theorem settled_json (words : Words CheckOption)
    (switched : ∀ setting, (.json, setting) ∈ words.options → setting = .switch true) :
    (words.withOptions [(.json, .switch true)]).settled =
      (.json, .switch true) :: words.settled.filter (·.1 != .json) := by
  have kept := Keyed.filter_putAll (fun option : CheckOption => option != .json) [] words.options
  have first := Keyed.putAll_cons CheckOption.json (Setting.switch true) [] words.options switched
  exact first.trans (congrArg _ kept.symm)

/-- The words that are no options do not depend on whom the output is for. -/
theorem withOthers_forMachines (request : CheckRequest) (others : List Text) :
    request.forMachines.withOthers tree workingPlace others =
      (request.withOthers tree workingPlace others).map forMachines := by
  cases others with
  | nil => rfl
  | cons typed extra =>
    simp only [withOthers]
    cases typedNode? tree workingPlace typed with
    | error refused => rfl
    | ok node? =>
      cases extra <;> rcases node? with _ | _ | _ | _ <;> rfl

/-- The request that words stand for. -/
def ofWords (words : Words CheckOption) : Except Refused CheckRequest := do
  let request ← words.settled.foldlM (withSetting tree workingPlace) {}
  request.withOthers tree workingPlace words.others

/-- Words behind one that asks for output for machines stand for the same request but for that. -/
theorem ofWords_json (words : Words CheckOption)
    (switched : ∀ setting, (.json, setting) ∈ words.options → setting = .switch true) :
    ofWords tree workingPlace (words.withOptions [(.json, .switch true)]) =
      (ofWords tree workingPlace words).map forMachines := by
  have settled : ∀ setting, (.json, setting) ∈ words.settled → setting = .switch true :=
    fun setting among => switched setting
      ((Keyed.mem_of_mem_putAll [] words.options _ among).resolve_left List.not_mem_nil)
  have left : ∀ setting, (.json, setting) ∈ words.settled.filter (·.1 != .json) →
      setting = .switch true :=
    fun setting among => settled setting (List.mem_filter.mp among).1
  have folded : (words.withOptions [(.json, .switch true)]).settled.foldlM
      (withSetting tree workingPlace) {} =
        (words.settled.foldlM (withSetting tree workingPlace) {}).map forMachines := by
    rw [settled_json words switched, foldlM_without_json tree workingPlace {} _ settled]
    exact foldlM_forMachines tree workingPlace {} _ left
  rw [ofWords, ofWords, folded]
  cases words.settled.foldlM (withSetting tree workingPlace) {} with
  | error refused => rfl
  | ok request => exact withOthers_forMachines tree workingPlace request words.others

end

end CheckRequest

namespace Request

section
variable (tree : Node) (workingPlace : Place) (verbose : Bool) (arguments : List Text)

/-- Arguments of the command that can be read ask for help, or for what their words stand for. -/
theorem ofCheckArguments_of_read (words : Words CheckOption)
    (done : checkGrammar.read arguments = .ok words) :
    ofCheckArguments tree workingPlace verbose arguments =
      if words.options.any fun given => given.1 = .help then .ok (.help .command)
      else (CheckRequest.ofWords tree workingPlace words).map (.check verbose) := by
  have read : (checkGrammar.read arguments).mapError (.misused .command) =
      (.ok words : Except Refused _) := by
    rw [done]
    rfl
  rw [ofCheckArguments, read, CheckRequest.ofWords]
  dsimp only [bind, Except.bind]
  split
  · rfl
  · cases words.settled.foldlM (CheckRequest.withSetting tree workingPlace) {} with
    | error refused => rfl
    | ok request => cases request.withOthers tree workingPlace words.others <;> rfl

/-- Output for machines may be asked for in front of the other arguments of the command, which then
ask for the same but for that. -/
theorem ofCheckArguments_json :
    ofCheckArguments tree workingPlace verbose ("--json" :: arguments) =
      (ofCheckArguments tree workingPlace verbose arguments).map forMachines := by
  have asked : checkGrammar.read ("--json" :: arguments) =
      (checkGrammar.read arguments).map (·.withOptions [(.json, .switch true)]) := rfl
  cases read : checkGrammar.read arguments with
  | error misuse =>
    rw [ofCheckArguments, ofCheckArguments, asked, read]
    rfl
  | ok words =>
    rw [read] at asked
    rw [ofCheckArguments_of_read _ _ _ _ _ read, ofCheckArguments_of_read _ _ _ _ _ asked,
      CheckRequest.ofWords_json tree workingPlace words (json_switched arguments words read)]
    have sameHelp : ((words.withOptions [(.json, .switch true)]).options.any
        fun given => given.1 = .help) = words.options.any fun given => given.1 = .help := rfl
    rw [sameHelp]
    split
    · rfl
    · cases CheckRequest.ofWords tree workingPlace words <;> rfl

/-- Without the word for it arguments of the command do not ask for help, and ask for a check or are
refused. -/
theorem ofCheckArguments_cases (noHelp : Text.ofString "--help" ∉ arguments) :
    (∃ refused, ofCheckArguments tree workingPlace verbose arguments = .error refused) ∨
      ∃ request, ofCheckArguments tree workingPlace verbose arguments =
        .ok (.check verbose request) := by
  cases read : checkGrammar.read arguments with
  | error misuse => exact .inl ⟨.misused .command misuse, by rw [ofCheckArguments, read]; rfl⟩
  | ok words =>
    have unasked : (words.options.any fun given => given.1 = .help) = false := by
      rw [List.any_eq_false]
      rintro ⟨option, setting⟩ given asked
      obtain rfl : option = .help := of_decide_eq_true asked
      exact noHelp (help_spelled arguments words read setting given)
    rw [ofCheckArguments_of_read _ _ _ _ _ read, unasked]
    cases CheckRequest.ofWords tree workingPlace words with
    | error refused => exact .inl ⟨refused, rfl⟩
    | ok request => exact .inr ⟨request, rfl⟩

end

/-- Words that come before the name of the command and leave what is asked for to the arguments
behind it. -/
def Precedes (front : List Text) (verbose : Bool) : Prop :=
  ∀ tree workingPlace arguments, ofArguments tree workingPlace (front ++ commandName :: arguments) =
    ofCheckArguments tree workingPlace verbose arguments

/-- Options for verbose output are read up to the name of the command. -/
theorem read_verbose (front arguments : List Text)
    (spelled : ∀ word ∈ front, word = Text.ofString "-v" ∨ word = Text.ofString "--verbose") :
    programGrammar.read (front ++ commandName :: arguments) =
      .ok ⟨List.replicate front.length (.verbose, .switch true), commandName :: arguments⟩ := by
  induction front with
  | nil => rfl
  | cons word rest inductionHypothesis =>
    have later := inductionHypothesis fun word among => spelled word (List.mem_cons_of_mem _ among)
    rcases spelled word List.mem_cons_self with rfl | rfl
    · have step : programGrammar.read (Text.ofString "-v" :: (rest ++ commandName :: arguments)) =
          (programGrammar.read (rest ++ commandName :: arguments)).bind fun words =>
            .ok (words.withOptions [(.verbose, .switch true)]) := rfl
      rw [List.cons_append, step, later]
      rfl
    · have step : programGrammar.read
          (Text.ofString "--verbose" :: (rest ++ commandName :: arguments)) =
          (programGrammar.read (rest ++ commandName :: arguments)).map
            (·.withOptions [(.verbose, .switch true)]) := rfl
      rw [List.cons_append, step, later]
      rfl

/-- The options for verbose output may come before the name of the command, or nothing. -/
theorem precedes_of_verbose (front : List Text)
    (spelled : ∀ word ∈ front, word = Text.ofString "-v" ∨ word = Text.ofString "--verbose") :
    Precedes front (!front.isEmpty) := by
  intro tree workingPlace arguments
  have early : early? ⟨List.replicate front.length (ProgramOption.verbose, .switch true),
      commandName :: arguments⟩ = none := by
    rw [early?, List.findSome?_eq_none_iff]
    intro given among
    rw [List.eq_of_mem_replicate among]
  have some : (front ++ commandName :: arguments).isEmpty = false := by
    cases front <;> rfl
  have read : (programGrammar.read (front ++ commandName :: arguments)).mapError
      (.misused .program) = (.ok ⟨List.replicate front.length (ProgramOption.verbose, .switch true),
        commandName :: arguments⟩ : Except Refused _) := by
    rw [read_verbose front arguments spelled]
    rfl
  rw [ofArguments, some, read]
  dsimp only [bind, Except.bind]
  rw [early]
  cases front <;> rfl

end Request

end TagAudit.CommandLine
