import TagAudit.ClassFile.Defect
import TagAudit.Data.Display
import TagAudit.Text.Quoted

/-!
# Failures

A run can end in a failure that its user is told about. Each failure is a cause with the values
that explain it; the number, the name, the wording and the details that are printed all follow from
the cause. A defect of a class file becomes a failure when it is known which file was read.

The values are data, because whoever reports a failure may explain it by anything. Some of them are
written in ways that not all data can be written in; a failure that is explained by other data
cannot be reported.
-/

namespace TagAudit

/-- Why a run fails. -/
inductive Failure where
  /-- A settings document could not be read as one. -/
  | configUnreadable (path reason : Data)
  /-- A setting has a value that it cannot have. -/
  | configInvalid (field value reason : Data)
  | truncated (source offset wanted available : Data)
  | badMagic (source magic : Data)
  | badConstantIndex (source index expected : Data)
  | badConstantTag (source index tag : Data)
  | badElementTag (source tag offset : Data)
  | malformed (source reason : Data) (details : Keyed Text Data)
  /-- The directory to be scanned does not exist. -/
  | rootNotFound (path : Data)
  /-- The directory to be scanned is something else. -/
  | rootNotDirectory (path : Data)
  /-- A file could not be read. -/
  | readFailed (path reason : Data)
  /-- The library was called in a way that it rules out. -/
  | unexpected (reason : Data) (details : Keyed Text Data)

namespace Failure

/-- The part of a run that fails. -/
inductive Family where
  | config | classFile | scan | internal
deriving DecidableEq

/-- The part of the run to which a failure belongs. -/
def family : Failure → Family
  | configUnreadable .. | configInvalid .. => .config
  | truncated .. | badMagic .. | badConstantIndex .. | badConstantTag .. | badElementTag ..
  | malformed .. => .classFile
  | rootNotFound .. | rootNotDirectory .. | readFailed .. => .scan
  | unexpected .. => .internal

/-- The number of a failure. -/
def code : Failure → Nat
  | configUnreadable .. => 2001
  | configInvalid .. => 2002
  | truncated .. => 3001
  | badMagic .. => 3002
  | badConstantIndex .. => 3003
  | badConstantTag .. => 3004
  | badElementTag .. => 3005
  | malformed .. => 3006
  | rootNotFound .. => 4001
  | rootNotDirectory .. => 4002
  | readFailed .. => 4003
  | unexpected .. => 9001

/-- The name that stands for the number. -/
def name : Failure → Text
  | configUnreadable .. => "CONFIG_PARSE_ERROR"
  | configInvalid .. => "CONFIG_INVALID_VALUE"
  | truncated .. => "PARSE_TRUNCATED"
  | badMagic .. => "PARSE_BAD_MAGIC"
  | badConstantIndex .. => "PARSE_BAD_CONSTANT_INDEX"
  | badConstantTag .. => "PARSE_BAD_CONSTANT_TAG"
  | badElementTag .. => "PARSE_BAD_ELEMENT_TAG"
  | malformed .. => "PARSE_MALFORMED"
  | rootNotFound .. => "SCAN_ROOT_NOT_FOUND"
  | rootNotDirectory .. => "SCAN_ROOT_NOT_DIRECTORY"
  | readFailed .. => "SCAN_READ_FAILED"
  | unexpected .. => "INTERNAL_ERROR"

/-- What was read; bytes without a name are called bytes. -/
def sourceName (source : Data) : Data := if source.isFalsy then .text "<bytes>" else source

/-- Four bytes in hexadecimal. -/
def magicText (magic : Int) : Text :=
  if magic < 0 then "0x-" ++ Text.padded 16 7 magic.natAbs
  else "0x" ++ Text.padded 16 8 magic.natAbs

/-- The integer that a value counts as; a truth value counts as zero or one. -/
def integer? : Data → Option Int
  | .int n => some n
  | .bool b => some (if b then 1 else 0)
  | _ => none

/-- A magic as it is written. -/
def shownMagic (magic : Data) : Text := magicText ((integer? magic).getD 0)

/-- The tag of an element value as it is written. -/
def shownTag (tag : Data) : Text :=
  Text.quoted [CodePoint.ofNat ((integer? tag).getD 0).toNat]

/-- The reason that a constant index is refused. -/
def indexReason (expected : Data) : Text :=
  if expected.isFalsy then "out of range" else "expected " ++ expected.plain

/-- Why a failure cannot be reported. -/
inductive Problem where
  /-- A number is explained by data that is none. -/
  | noNumber
  /-- A value cannot be written in the way that is asked for. -/
  | unwritable
  /-- A number is far beyond what a code point can be. -/
  | tooLarge
deriving DecidableEq

/-- What is wrong with a magic. -/
def magicProblem? (magic : Data) : Option Problem :=
  match integer? magic, magic with
  | some _, _ => none
  | none, .real _ | none, .text _ => some .unwritable
  | none, _ => some .noNumber

/-- What is wrong with the tag of an element value. -/
def tagProblem? (tag : Data) : Option Problem :=
  match integer? tag with
  | none => some .noNumber
  | some n =>
    if n < -2147483648 || 2147483647 < n then some .tooLarge
    else if n < 0 || 0x110000 ≤ n then some .unwritable
    else none

/-- Why a failure cannot be reported, if it cannot. -/
def problem? : Failure → Option Problem
  | badMagic _ magic => magicProblem? magic
  | badElementTag _ tag _ => tagProblem? tag
  | _ => none

/-- The sentence that explains a failure. -/
def message : Failure → Text
  | configUnreadable path reason =>
    "Failed to parse config at " ++ path.plain ++ ": " ++ reason.plain
  | configInvalid field _ reason =>
    "Invalid value for '" ++ field.plain ++ "': " ++ reason.plain
  | truncated source offset wanted available =>
    "Truncated class file " ++ (sourceName source).plain ++ ": needed " ++ wanted.plain
      ++ " byte(s) at offset " ++ offset.plain ++ ", " ++ available.plain ++ " available"
  | badMagic source magic =>
    "Not a class file " ++ (sourceName source).plain ++ ": bad magic " ++ shownMagic magic
  | badConstantIndex source index expected =>
    "Unreadable constant pool index " ++ index.plain ++ " in " ++ (sourceName source).plain
      ++ ": " ++ indexReason expected
  | badConstantTag source index tag =>
    "Unknown constant pool tag " ++ tag.plain ++ " at index " ++ index.plain ++ " in "
      ++ (sourceName source).plain
  | badElementTag source tag offset =>
    "Unknown annotation element tag " ++ shownTag tag ++ " at offset " ++ offset.plain
      ++ " in " ++ (sourceName source).plain
  | malformed source reason _ =>
    "Malformed class file " ++ (sourceName source).plain ++ ": " ++ reason.plain
  | rootNotFound path => "Classes directory not found: " ++ path.plain
  | rootNotDirectory path => "Classes path is not a directory: " ++ path.plain
  | readFailed path reason => "Failed to read " ++ path.plain ++ ": " ++ reason.plain
  | unexpected reason _ => "Internal error: " ++ reason.plain

/-- The values that explain a failure, in the order in which they are printed. -/
def details : Failure → Keyed Text Data
  | configUnreadable path reason => [("path", path), ("reason", reason)]
  | configInvalid field value reason =>
    [("field", field), ("value", .text value.plain), ("reason", reason)]
  | truncated source offset wanted available =>
    [("source", sourceName source), ("offset", offset), ("wanted", wanted),
      ("available", available)]
  | badMagic source magic =>
    [("source", sourceName source), ("magic", .text (shownMagic magic))]
  | badConstantIndex source index expected =>
    [("source", sourceName source), ("index", index), ("expected", expected)]
  | badConstantTag source index tag =>
    [("source", sourceName source), ("index", index), ("tag", tag)]
  | badElementTag source tag offset =>
    [("source", sourceName source), ("tag", tag), ("offset", offset)]
  | malformed source reason details =>
    Keyed.putAll [("source", sourceName source), ("reason", reason)] details
  | rootNotFound path => [("path", path)]
  | rootNotDirectory path => [("path", path)]
  | readFailed path reason => [("path", path), ("reason", reason)]
  | unexpected _ details => details

/-- No failure goes away by trying again. -/
def retryable (_ : Failure) : Bool := false

/-- A failure on one line: number, name and sentence. -/
def line (failure : Failure) : Text :=
  "[" ++ Text.ofNat failure.code ++ "] " ++ failure.name ++ ": " ++ failure.message

/-- The failure of examining no class at all. -/
def noClass : Failure :=
  unexpected (.text "detect_class_conflicts called without a class descriptor") []

/-- A failure as data. -/
def toData (failure : Failure) : Data :=
  .ofFields [("code", .int failure.code), ("error", .text failure.name),
    ("message", .text failure.message), ("retryable", .bool failure.retryable),
    ("details", .ofFields failure.details)]

/-- The failure that a defect of a class file amounts to. -/
def ofDefect (source : Option Text) (defect : ClassFile.Defect) : Failure :=
  let source := Data.ofText? source
  match defect with
  | .truncated offset wanted available =>
    truncated source (.int offset) (.int wanted) (.int available)
  | .badMagic magic => badMagic source (.int magic)
  | .badConstantTag index tag => badConstantTag source (.int index) (.int tag)
  | .badConstantIndex index expected =>
    badConstantIndex source (.int index)
      (Data.ofText? (expected.bind fun kind => kind.label?.map Text.ofString))
  | .badElementTag tag offset => badElementTag source (.int tag) (.int offset)
  | .poolOverrun count =>
    malformed source (.text "8-byte constant overruns constant_pool_count")
      [("count", .int count)]
  | .undecodableText index =>
    malformed source (.text ("invalid modified UTF-8 at constant " ++ Text.ofNat index))
      [("index", .int index)]
  | .annotationLength declared held offset =>
    malformed source
      (.text ("RuntimeVisibleAnnotations declares " ++ Text.ofNat declared
        ++ " byte(s) but holds " ++ Text.ofNat held))
      [("offset", .int offset)]
  | .trailingBytes count =>
    malformed source
      (.text (Text.ofNat count ++ " trailing byte(s) after class attributes")) []

end Failure

end TagAudit
