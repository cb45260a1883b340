import ClassFields.Check
import ClassFields.Config
import ClassFields.GeneratedModule

/-!
# Generating modules

From the classes of a project to the text of the module, as a configuration asks.
-/

namespace ClassFields

/-- What the log says of two classes with the same field. -/
def Duplicate.text (duplicate : Duplicate) : String :=
  "Classes `" ++ duplicate.first ++ "` and `" ++ duplicate.second ++
    "` are both escaped to field `" ++ duplicate.escaped ++ "`, generated module will not compile"

namespace Config

/-- Escapes the names of classes. -/
def escape (config : Config) (records : List ClassRecord) : Logged (List EscapedClass) :=
  EscapedClass.ofRecords config.rules records

/-- Generates the module for classes. If the configuration is strict, what would not compile is a
fault. Otherwise only duplicates are noted. -/
def generate (config : Config) (records : List ClassRecord) : Report String := do
  let classes ← config.escape records
  if config.strict then validate classes
  else Logged.notes ((duplicates classes).map fun duplicate => ⟨.warn, duplicate.text⟩)
  GeneratedModule.emit classes config.lineEnding

end Config

end ClassFields
