import ClassFields.ClassRecord
import ClassFields.FieldName

/-!
# Checking classes

`validate` reports the first reason why the module generated for some classes would not compile, and
`duplicates` lists the classes whose field is taken.
-/

namespace ClassFields

/-- Two classes that are escaped to the same field: the first one and a later one. -/
structure Duplicate where
  escaped : String
  first : String
  second : String
  deriving DecidableEq, Repr

/-- The owners of fields: escaped names with the names of the classes they are from. -/
abbrev Owners := List (String × String)

/-- The duplicates among classes, given the owners so far. The first owner of a field stays. -/
def duplicatesFrom : Owners → List EscapedClass → List Duplicate
  | _, [] => []
  | owners, cls :: rest =>
    match owners.lookup cls.escaped with
    | some first => ⟨cls.escaped, first, cls.name⟩ :: duplicatesFrom owners rest
    | none => duplicatesFrom ((cls.escaped, cls.name) :: owners) rest

/-- The classes whose field an earlier class has taken, in order. -/
def duplicates (classes : List EscapedClass) : List Duplicate := duplicatesFrom [] classes

/-- Whether a text can stand between quotes as it is. -/
def quotable (name : String) : Bool :=
  name.toList.all fun c => !(c == '"' || c == '\\' || c == '\n' || c == '\r')

/-- Whether a text is on one line. -/
def oneLine (text : String) : Bool := text.toList.all fun c => !(c == '\n' || c == '\r')

/-- Whether the property and the media query of an occurrence are on one line each. -/
def Occurrence.oneLine (occurrence : Occurrence) : Bool :=
  ClassFields.oneLine occurrence.property && occurrence.mediaQuery?.all ClassFields.oneLine

/-- What is wrong with a class by itself. -/
def EscapedClass.fault? (cls : EscapedClass) : Option Fault :=
  if !quotable cls.name then some (.unquotableName cls.name)
  else if !cls.properties.all Occurrence.oneLine then some (.multilineDoc cls.name)
  else if !FieldName.valid cls.escaped then some (.invalidFieldName cls.name cls.escaped)
  else none

/-- Checks classes, given the owners of fields so far. -/
def validateFrom : Owners → List EscapedClass → Except Fault Unit
  | _, [] => .ok ()
  | owners, cls :: rest =>
    match cls.fault?, owners.lookup cls.escaped with
    | some fault, _ => .error fault
    | none, some first => .error (.duplicateField cls.escaped first cls.name)
    | none, none => validateFrom ((cls.escaped, cls.name) :: owners) rest

/-- Checks that the module generated for classes will compile. The first problem is reported. -/
def validate (classes : List EscapedClass) : Except Fault Unit := validateFrom [] classes

end ClassFields
