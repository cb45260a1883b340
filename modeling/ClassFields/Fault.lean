import ClassFields.Json
import ClassFields.Log

/-!
# Faults

Why a step of the program has no result. A `Report` is the outcome of such a step, with the log
entries left on the way.
-/

namespace ClassFields

/-- What a configuration key has to hold. -/
inductive Expected where
  | table
  | pairs
  | string
  | boolean
  deriving DecidableEq, Repr

/-- The expectation in words. -/
def Expected.phrase : Expected → String
  | table => "a table"
  | pairs => "an array of [pattern, replacement] pairs"
  | string => "a string"
  | boolean => "a boolean"

/-- What is wrong with a configuration whose text is well formed. -/
inductive ConfigFault where
  | wrongType (key : String) (expected : Expected)
  | notToml (key : String) (reason : Json.Mismatch)
  deriving DecidableEq, Repr

/-- What is wrong, in words. -/
def ConfigFault.text : ConfigFault → String
  | wrongType key expected => "`" ++ key ++ "` should be " ++ expected.phrase
  | notToml key reason => "`" ++ key ++ "` metadata: " ++ reason.message

/-- Why a step has no result. -/
inductive Fault where
  | invalidPattern (pattern : String)
  | unknownLineEnding (text : String)
  /-- A class whose escaped name is no identifier. -/
  | invalidFieldName (name escaped : String)
  /-- Two classes with the same escaped name. -/
  | duplicateField (escaped first second : String)
  /-- A class with a property or media query of several lines. -/
  | multilineDoc (name : String)
  /-- A class whose name cannot stand between quotes. -/
  | unquotableName (name : String)
  | malformedToml
  | unreadable
  | invalidConfig (fault : ConfigFault)
  deriving DecidableEq, Repr

/-- The reason in words. -/
def Fault.message : Fault → String
  | invalidPattern pattern => "Failed to compile replacement pattern `" ++ pattern ++ "`"
  | unknownLineEnding text =>
    "Unknown line ending `" ++ text ++ "`, expected one of: lf, crlf, native"
  | invalidFieldName name escaped =>
    "Class `" ++ name ++ "` is escaped to `" ++ escaped ++ "`, which is not a valid field name"
  | duplicateField escaped first second =>
    "Classes `" ++ first ++ "` and `" ++ second ++ "` are both escaped to field `" ++ escaped ++ "`"
  | multilineDoc name =>
    "Class `" ++ name ++ "` has a css property or media query spanning several lines"
  | unquotableName name => "Class `" ++ name ++ "` cannot be emitted as a string literal"
  | malformedToml => "Failed to parse configuration"
  | unreadable => "Failed to read configuration"
  | invalidConfig fault => "Invalid configuration: " ++ fault.text

/-- The outcome of a step that may fail, with the log entries left on the way. -/
abbrev Report := ExceptT Fault Logged

namespace Report

/-- The outcome of a step. -/
def result {α : Type} (report : Report α) : Except Fault α := Logged.value report.run

/-- The log entries that a step left. -/
def entries {α : Type} (report : Report α) : List LogEntry := Logged.entries report.run

end Report

end ClassFields
