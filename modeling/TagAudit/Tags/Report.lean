import TagAudit.Data.Display
import TagAudit.Tags.Conflict

/-!
# Violation reports

A report holds the conflicts of every class that has some, by the dotted name of the class and in
the order in which the classes were examined. Where two examined classes share a dotted name, the
later one with conflicts takes the place of the earlier.

A report is rendered with classes and tags in ascending order, so its rendering does not depend on
the order in which anything was found. There is no rendering if a tag is too long to be displayed.
-/

namespace TagAudit

open ClassFile

/-- Conflicts by class and tag. -/
abbrev Report := Keyed Text Conflicts

namespace Report

/-- Adds the conflicts of a class, if it has any. -/
def add (tagType : Text) (report : Report) (c : ClassDescriptor) : Report :=
  match Conflicts.ofClass tagType c with
  | [] => report
  | conflicts => Keyed.put c.dottedName conflicts report

/-- The report on a list of classes. -/
def ofClasses (tagType : Text) (classes : List ClassDescriptor) : Report :=
  classes.foldl (add tagType) []

/-- The entries made while classes are examined. -/
def trace (tagType : Text) (logger : Log.Logger) (classes : List ClassDescriptor) :
    List Log.Entry :=
  classes.flatMap (Conflicts.trace tagType logger)

/-- The report on a list of classes that ends at the first one that could not be had, with the
    entries made until then. -/
def ofStream {ε : Type} (tagType : Text) (logger : Log.Logger)
    (classes : List (Except ε ClassDescriptor)) : Except ε Report × List Log.Entry :=
  go [] [] classes
where
  /-- Goes on with the report and the classes so far. -/
  go (report : Report) (entries : List (List Log.Entry)) :
      List (Except ε ClassDescriptor) → Except ε Report × List Log.Entry
    | [] => (.ok report, entries.reverse.flatten)
    | .error problem :: _ => (.error problem, entries.reverse.flatten)
    | .ok c :: rest =>
      go (add tagType report c) (Conflicts.trace tagType logger c :: entries) rest

/-- The number of conflicts. -/
def total (report : Report) : Nat := (report.flatMap fun entry => entry.2).length

/-- The classes in ascending order of their names. -/
def sortedClasses (report : Report) : List (Text × Conflicts) :=
  report.mergeSort fun left right => left.1.precedes right.1

/-- The conflicts of a class in ascending order of their tags. -/
def sortedTags (conflicts : Conflicts) : List (Int × Conflict) :=
  conflicts.mergeSort fun left right => decide (left.1 ≤ right.1)

/-- The first line of a report. -/
def header : Text := "Duplicate @Tag configuration found:"

/-- The line after each class. -/
def separator : Text := List.replicate 40 ('-' : CodePoint)

/-- The lines about one class. -/
def classLines (className : Text) (conflicts : Conflicts) : List Text :=
  ("Class: " ++ className)
    :: (sortedTags conflicts).flatMap (fun (tag, conflict) =>
      ["  Tag " ++ Text.ofInt tag ++ " conflicting field:", "    ▸ " ++ conflict.line])
    ++ [separator]

/-- The lines of a report; an empty one has none. -/
def lines (report : Report) : List Text :=
  if report.isEmpty then []
  else header :: report.sortedClasses.flatMap fun (className, conflicts) =>
    classLines className conflicts

/-- The report as data, classes and tags in ascending order. -/
def toData (report : Report) : Data :=
  .ofFields (report.sortedClasses.map fun (className, conflicts) =>
    (className, .ofFields ((sortedTags conflicts).map fun (tag, conflict) =>
      (Text.ofInt tag, conflict.toData))))

/-- Whether the tags under which conflicts stand are short enough to be displayed. -/
def hasShortTags (report : Report) : Bool :=
  report.all fun (_, conflicts) => conflicts.all fun (tag, _) => Data.isShort tag

/-- Whether the tags that are recorded in conflicts are short enough to be displayed. -/
def recordsShortTags (report : Report) : Bool :=
  report.all fun (_, conflicts) => conflicts.all fun (_, conflict) => Data.isShort conflict.tag

/-- The lines of a report, if all that stands in them can be displayed. -/
def lines? (report : Report) : Option (List Text) :=
  if report.hasShortTags && report.recordsShortTags then some report.lines else none

/-- The report as data, if its tags can be displayed as keys. -/
def toData? (report : Report) : Option Data :=
  if report.hasShortTags then some report.toData else none

/-- The entries that repeat a report in the log, in the order of the report. -/
def announcements (logger : Log.Logger) (report : Report) : List Log.Entry :=
  report.flatMap fun (_, conflicts) => conflicts.map fun (_, conflict) =>
    logger.entry .error "duplicate_tag"
      [("class_name", .text conflict.className), ("field", .text conflict.fieldName),
        ("tag", .int conflict.tag)]

end Report

end TagAudit
