import ClassFields.RuleTable

/-!
# Classes

What is known of a CSS class, before and after its name is escaped.
-/

namespace ClassFields

/-- A rule of a style sheet that uses a class: its property and the media query around it. -/
structure Occurrence where
  property : String
  media : Option String
  deriving DecidableEq, Repr

namespace Occurrence

/-- The media query, if there is one and it is not empty. -/
def mediaQuery? (occurrence : Occurrence) : Option String :=
  occurrence.media.filter (· != "")

end Occurrence

/-- A class that was found in a project, with the rules that use it. -/
structure ClassRecord where
  name : String
  properties : List Occurrence
  deriving DecidableEq, Repr

namespace ClassRecord

/-- The record with one more occurrence. -/
def push (record : ClassRecord) (occurrence : Occurrence) : ClassRecord :=
  { record with properties := record.properties ++ [occurrence] }

end ClassRecord

/-- A class with the name of its field. -/
structure EscapedClass where
  record : ClassRecord
  escaped : String
  deriving DecidableEq, Repr

namespace EscapedClass

/-- The name of the class in style sheets. -/
def name (cls : EscapedClass) : String := cls.record.name

/-- The rules that use the class. -/
def properties (cls : EscapedClass) : List Occurrence := cls.record.properties

/-- Escapes the name of a class. -/
def ofRecord (table : RuleTable) (record : ClassRecord) : Logged EscapedClass := do
  return ⟨record, ← table.escape record.name⟩

/-- What the log says of a name that escaping has changed. -/
def escapedText (name escaped : String) : String :=
  "Escaped class `" ++ name ++ "` as `" ++ escaped ++ "`"

/-- Escapes the name of a class, and notes it if it has changed. -/
def ofRecordNoted (table : RuleTable) (record : ClassRecord) : Logged EscapedClass := do
  let cls ← ofRecord table record
  if cls.escaped != cls.name then Logged.note .debug (escapedText cls.name cls.escaped)
  return cls

/-- Escapes the names of classes, in order. -/
def ofRecords (table : RuleTable) (records : List ClassRecord) : Logged (List EscapedClass) :=
  Logged.each (ofRecordNoted table) records

end EscapedClass

end ClassFields
