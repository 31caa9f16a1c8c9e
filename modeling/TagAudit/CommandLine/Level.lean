import TagAudit.Text

/-!
# The levels of the command line

The program has one command, and both read arguments of their own. Each level has a line that says
how it is called, a help that says more, and a reminder that stands before messages.
-/

namespace TagAudit.CommandLine

/-- What the arguments were read for: the program as a whole, or its command. -/
inductive Level where
  | program | command
deriving DecidableEq

namespace Level

/-- What is typed to get to a level. -/
def invocation : Level → Text
  | program => "tagcheck"
  | command => "tagcheck check"

/-- What may follow at a level. -/
def pattern : Level → Text
  | program => "[OPTIONS] COMMAND [ARGS]..."
  | command => "[OPTIONS] [CLASSES_DIR]"

/-- The line about how the program is called. -/
def usageLine (level : Level) : Text :=
  "Usage: " ++ level.invocation ++ " " ++ level.pattern ++ "\n"

/-- What the program says about itself and its options. -/
def programHelp : Text :=
  "  tagcheck - find fields sharing a serialization tag in compiled classes.\n\n"
    ++ "Options:\n"
    ++ "  --version      Show the version and exit.\n"
    ++ "  -v, --verbose  Enable debug logging\n"
    ++ "  --help         Show this message and exit.\n\n"
    ++ "Commands:\n"
    ++ "  check  Check compiled classes for fields sharing a @Tag value.\n"

/-- What the command says about itself and its options. -/
def commandHelp : Text :=
  "  Check compiled classes for fields sharing a @Tag value.\n\n"
    ++ "  CLASSES_DIR is the compiled classes directory. If not specified, uses\n"
    ++ "  scan.classes_dir from config, else target/classes or build/classes/*/main.\n\n"
    ++ "Options:\n"
    ++ "  --project DIRECTORY             Project directory holding tagcheck.yaml and\n"
    ++ "                                  the build output\n"
    ++ "  --fail-on-error / --no-fail-on-error\n"
    ++ "                                  Exit non-zero when duplicate tags are found\n"
    ++ "                                  (default: on)\n"
    ++ "  --skip-invalid                  Warn about unreadable class files instead of\n"
    ++ "                                  aborting\n"
    ++ "  --workers INTEGER RANGE         Parallel parse workers  [x>=1]\n"
    ++ "  --annotation TEXT               Tag annotation descriptor (default:\n"
    ++ "                                  Lio/protostuff/Tag;)\n"
    ++ "  --json                          Output as JSON\n"
    ++ "  --help                          Show this message and exit.\n"

/-- The help at a level. -/
def help (level : Level) : Text :=
  level.usageLine ++ "\n" ++ match level with
    | program => programHelp
    | command => commandHelp

/-- The reminder of how the program is called, before a message. -/
def reminder (level : Level) : Text :=
  level.usageLine ++ "Try '" ++ level.invocation ++ " --help' for help.\n\n"

end Level

end TagAudit.CommandLine
