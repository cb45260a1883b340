import ClassFields.ClassRecord
import ClassFields.LineEnding

/-!
# The generated module

The text that is generated for classes: a struct with a field for each class, documented with the
rules that use it, and an instance that holds the names. With two classes it looks like this.

```text

// DO NOT EDIT THIS FILE - IT'S GENERATED, CHANGES WILL BE LOST!

#[allow(non_snake_case, dead_code)]
pub struct CssClasses<'a> {
    /// max-width: 576px;    @media (min-width: 576px)
    pub container: &'a str,

    /// width: 60%;
    pub w_3of5: &'a str,
}

pub const C: CssClasses = CssClasses {
    container: "container",
    w_3of5: "w-3/5",
};
```
-/

namespace ClassFields.GeneratedModule

/-- The comment at the top. -/
def warning : String := "// DO NOT EDIT THIS FILE - IT'S GENERATED, CHANGES WILL BE LOST!"

/-- The attributes of the struct. Few names are in snake case, and not all fields are used. -/
def attributes : String := "#[allow(non_snake_case, dead_code)]"

/-- The name of the struct. -/
def structName : String := "CssClasses"

/-- The name of the instance. -/
def instanceName : String := "C"

/-- The indentation of a field, and the gap between a property and its media query. -/
def indent : String := "    "

/-- Texts one after another. -/
def concat : List String → String
  | [] => ""
  | text :: rest => text ++ concat rest

/-- Texts one after another with a separator between them. -/
def joined (sep : String) : List String → String
  | [] => ""
  | [text] => text
  | text :: rest => text ++ sep ++ joined sep rest

/-- The line of documentation for an occurrence. -/
def docLine (eol : String) (occurrence : Occurrence) : String :=
  match occurrence.mediaQuery? with
  | some media => indent ++ "/// " ++ occurrence.property ++ ";" ++ indent ++ media ++ eol
  | none => indent ++ "/// " ++ occurrence.property ++ ";" ++ eol

/-- The elements of a list in order, each at its first place only. -/
def firstOccurrences : List String → List String
  | [] => []
  | text :: rest => text :: (firstOccurrences rest).filter (· != text)

/-- The lines of documentation for a class, each once. -/
def docLines (eol : String) (cls : EscapedClass) : List String :=
  firstOccurrences (cls.properties.map (docLine eol))

/-- The documentation of a field. -/
def docComment (eol : String) (cls : EscapedClass) : String := concat (docLines eol cls)

/-- A field of the struct. -/
def field (eol : String) (cls : EscapedClass) : String :=
  docComment eol cls ++ indent ++ "pub " ++ cls.escaped ++ ": &'a str," ++ eol

/-- The struct. Without fields it has no lifetime. -/
def structText (eol : String) (classes : List EscapedClass) : String :=
  "pub struct " ++ structName ++ (if classes.isEmpty then "" else "<'a>") ++ " \x7b" ++ eol ++
    joined eol (classes.map (field eol)) ++ "\x7d"

/-- The value of a field in the instance. -/
def value (eol : String) (cls : EscapedClass) : String :=
  indent ++ cls.escaped ++ ": \"" ++ cls.name ++ "\"," ++ eol

/-- The instance. -/
def instanceText (eol : String) (classes : List EscapedClass) : String :=
  "pub const " ++ instanceName ++ ": " ++ structName ++ " = " ++ structName ++ " \x7b" ++ eol ++
    concat (classes.map (value eol)) ++ "\x7d;"

/-- The whole module. Fields are in the order of the classes. -/
def text (classes : List EscapedClass) (lineEnding : LineEnding) : String :=
  let eol := lineEnding.text
  eol ++ warning ++ eol ++ eol ++ attributes ++ eol ++ structText eol classes ++ eol ++ eol ++
    instanceText eol classes ++ eol

/-- What the log says of a module. -/
def emittedText (fields bytes : Nat) : String :=
  "Emitted " ++ structName ++ " with " ++ toString fields ++ " fields (" ++ toString bytes ++
    " bytes)"

/-- Makes the module and notes its size. -/
def emit (classes : List EscapedClass) (lineEnding : LineEnding) : Logged String := do
  let result := text classes lineEnding
  Logged.note .debug (emittedText classes.length result.utf8ByteSize)
  return result

end ClassFields.GeneratedModule
