import ClassFields.Fault

/-!
# Line endings
-/

namespace ClassFields

/-- How lines of the generated text end. -/
inductive LineEnding where
  | lf
  | crLf
  /-- As on the platform, which ends lines with a line feed. -/
  | native
  deriving DecidableEq, Repr

namespace LineEnding

instance : Inhabited LineEnding := ⟨native⟩

/-- The text at the end of a line. -/
def text : LineEnding → String
  | lf => "\n"
  | crLf => "\r\n"
  | native => "\n"

/-- Reads a line ending by its name, in any case. -/
def parse (s : String) : Except Fault LineEnding :=
  let name := s.toLower
  if name == "lf" then .ok lf
  else if name == "crlf" then .ok crLf
  else if name == "native" then .ok native
  else .error (.unknownLineEnding s)

end LineEnding

end ClassFields
