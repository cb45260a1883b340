import ClassFields.LineEnding
import ClassFields.Path
import ClassFields.RuleTable
import ClassFields.Toml.Document

/-!
# Configuration

A configuration comes from a TOML document, from a section of a package manifest, or from the
metadata of a package as JSON. All of them come down to a table with the keys of `Config.keys`,
each of which may be left out.
-/

namespace ClassFields

/-- How to generate a module and where to. -/
structure Config where
  rules : RuleTable
  /-- Where the generated module is to be saved. -/
  outputPath : String
  /-- Whether names that would not compile are faults. -/
  strict : Bool
  lineEnding : LineEnding

namespace Config

/-- The configuration in use unless another is asked for. -/
def standard : Config := ⟨.standard, "src/css_classes.rs", false, .native⟩

/-- The name of the section of a manifest or of metadata. -/
def sectionKey : String := "css-classes"

/-- The keys of a configuration. -/
def keys : List String := ["replace", "extend-replace", "output-path", "strict", "line-ending"]

/-! ## Values of keys -/

/-- A value that has to be a pair of strings. -/
def pairOf? : Toml.Value → Option (String × String)
  | .array [.string pattern, .string replacement] => some (pattern, replacement)
  | _ => none

/-- A value that has to be an array of pairs. -/
def pairsOf? : Toml.Value → Option (List (String × String))
  | .array items => items.mapM pairOf?
  | _ => none

/-- A value that has to be a string. -/
def stringOf? : Toml.Value → Option String
  | .string s => some s
  | _ => none

/-- A value that has to be a boolean. -/
def booleanOf? : Toml.Value → Option Bool
  | .boolean b => some b
  | _ => none

/-- Reads the value of a key, if the table has the key. -/
def readKey {α : Type} (table : Toml.Table) (key : String) (expected : Expected)
    (read : Toml.Value → Option α) : Except Fault (Option α) :=
  match table.get? key with
  | none => .ok none
  | some v =>
    match read v with
    | some a => .ok (some a)
    | none => .error (.invalidConfig (.wrongType key expected))

/-- The rules that a table asks for instead of the standard ones, or else those. -/
def readReplace (table : Toml.Table) : Report RuleTable := do
  match ← readKey table "replace" .pairs pairsOf? with
  | some pairs => RuleTable.ofPairs pairs
  | none => return .standard

/-- The rules that a table asks for, put at the end of given ones. -/
def readExtension (table : Toml.Table) (rules : RuleTable) : Report RuleTable := do
  match ← readKey table "extend-replace" .pairs pairsOf? with
  | some pairs => rules.pushAll pairs
  | none => return rules

/-- The line ending that a table asks for, or else the standard one. -/
def readLineEnding (table : Toml.Table) : Except Fault LineEnding := do
  match ← readKey table "line-ending" .string stringOf? with
  | some s => LineEnding.parse s
  | none => return standard.lineEnding

/-! ## Tables and documents -/

/-- What the log says of a key that no configuration has. -/
def unknownKeyText (key : String) : String :=
  "Unknown " ++ sectionKey ++ " config key `" ++ key ++ "`"

/-- What the log says of the keys of a table. -/
def unknownKeys (table : Toml.Table) : List LogEntry :=
  (table.keys.filter fun key => !keys.contains key).map fun key => ⟨.warn, unknownKeyText key⟩

/-- Reads a table. The output path is seen from a root, if there is one. -/
def ofTable (table : Toml.Table) (root : Option String) : Report Config := do
  Logged.notes (unknownKeys table)
  let rules ← readReplace table
  let rules ← readExtension table rules
  let path ← readKey table "output-path" .string stringOf?
  let path := path.getD standard.outputPath
  let path := root.elim path (Path.join · path)
  let strict ← readKey table "strict" .boolean booleanOf?
  let lineEnding ← readLineEnding table
  return ⟨rules, path, strict.getD standard.strict, lineEnding⟩

/-- The table of a document. -/
def documentOf (text : String) : Report Toml.Table :=
  match Toml.parse? text with
  | some table => return table
  | none => throw .malformedToml

/-- Reads a document that holds nothing but a configuration. -/
def ofToml (text : String) : Report Config := do
  ofTable (← documentOf text) none

/-- The section of a manifest, if there is one. -/
def sectionOf? (manifest : Toml.Table) : Option Toml.Value := do
  let package ← manifest.get? "package"
  let metadata ← package.get? "metadata"
  metadata.get? sectionKey

/-- Reads the section of a manifest. Without a section, the standard configuration is used. -/
def ofManifestTable (manifest : Toml.Table) (root : Option String) : Report Config :=
  match sectionOf? manifest with
  | some (.table entries) => ofTable entries root
  | some _ => throw (.invalidConfig (.wrongType sectionKey .table))
  | none => ofTable [] root

/-- Reads a manifest. -/
def ofManifest (text : String) : Report Config := do
  ofManifestTable (← documentOf text) none

/-- What the log says before a manifest file is read. -/
def readingText (path : String) : String := "Reading manifest file: " ++ path

/-- Reads a manifest file, given what it holds if it can be read at all. The output path is seen
from the directory of the file. -/
def ofManifestFile (path : String) (content : Option ByteArray) : Report Config := do
  Logged.note .debug (readingText path)
  match content.bind String.fromUTF8? with
  | none => throw .unreadable
  | some text => ofManifestTable (← documentOf text) (Path.parent? path)

/-- Reads the section of the metadata of a package in a directory. Without a section, the standard
configuration is used. -/
def ofMetadata (metadata : Json) (root : String) : Report Config :=
  match metadata.get? sectionKey with
  | none => ofTable [] (some root)
  | some json =>
    match json.toTable with
    | .ok table => ofTable table (some root)
    | .error reason => throw (.invalidConfig (.notToml sectionKey reason))

end Config

end ClassFields
