import Mathlib
import ClassFields.Config
import ClassFields.Proofs.Report

/-!
# Readers of a configuration

A document, the section of a manifest, a manifest file and the metadata of a package are read to the
same configuration, up to where the output path is seen from, with the same log (`readers_agree`).
The metadata is JSON: a table that JSON can hold is read back from it (`toTable_ofTable`).
-/

namespace ClassFields

/-! ## Tables as JSON -/

namespace Toml

mutual

/-- Whether JSON has the value: it has no dates and times, and no floats that are not finite. The
integers of TOML have 64 bits. -/
def Value.plain : Value → Bool
  | .string _ => true
  | .integer n => fits n
  | .float (.finite _) => true
  | .float _ => false
  | .boolean _ => true
  | .moment _ => false
  | .array items => plainAll items
  | .table entries => plainEntries entries

/-- Whether JSON has the values of an array. -/
def plainAll : List Value → Bool
  | [] => true
  | v :: rest => v.plain && plainAll rest

/-- Whether JSON has the values of a table. -/
def plainEntries : List (String × Value) → Bool
  | [] => true
  | (_, v) :: rest => v.plain && plainEntries rest

end

end Toml

namespace Json

mutual

/-- A value as JSON. What JSON does not have becomes null. -/
def ofValue : Toml.Value → Json
  | .string s => .string s
  | .integer n => .integer n
  | .float (.finite x) => .float x
  | .float _ => .null
  | .boolean b => .boolean b
  | .moment _ => .null
  | .array items => .array (ofValues items)
  | .table entries => .object (ofTableEntries entries)

/-- The values of an array as JSON. -/
def ofValues : List Toml.Value → List Json
  | [] => []
  | v :: rest => ofValue v :: ofValues rest

/-- The entries of a table as JSON. -/
def ofTableEntries : List (String × Toml.Value) → List (String × Json)
  | [] => []
  | (key, v) :: rest => (key, ofValue v) :: ofTableEntries rest

end

/-- A table as JSON. -/
def ofTable (table : Toml.Table) : Json := object (ofTableEntries table)

theorem toValue_integer {n : Int} (h : Toml.fits n) :
    (integer n).toValue = .ok (.integer n) := by
  simp only [Toml.fits, Bool.and_eq_true, decide_eq_true_eq] at h
  exact if_pos h.2

mutual

theorem toValue_ofValue (v : Toml.Value) (h : v.plain) : (ofValue v).toValue = .ok v := by
  cases v with
  | string s => rfl
  | integer n => exact toValue_integer h
  | float x =>
    cases x with
    | finite x => rfl
    | infinite _ => cases h
    | nan => cases h
  | boolean b => rfl
  | moment m => cases h
  | array items =>
    rw [ofValue, toValue, toValues_ofValues items h]
    rfl
  | table entries =>
    rw [ofValue, toValue, toEntries_ofTableEntries entries h]
    rfl

theorem toValues_ofValues (items : List Toml.Value) (h : Toml.plainAll items) :
    toValues (ofValues items) = .ok items := by
  cases items with
  | nil => rfl
  | cons v rest =>
    obtain ⟨hv, hr⟩ := Bool.and_eq_true_iff.mp h
    rw [ofValues, toValues, toValue_ofValue v hv, toValues_ofValues rest hr]
    rfl

theorem toEntries_ofTableEntries (entries : List (String × Toml.Value))
    (h : Toml.plainEntries entries) : toEntries (ofTableEntries entries) = .ok entries := by
  cases entries with
  | nil => rfl
  | cons entry rest =>
    obtain ⟨key, v⟩ := entry
    obtain ⟨hv, hr⟩ := Bool.and_eq_true_iff.mp h
    rw [ofTableEntries, toEntries, toValue_ofValue v hv, toEntries_ofTableEntries rest hr]
    rfl

end

/-- A table that JSON has is read back from it. -/
theorem toTable_ofTable {table : Toml.Table} (h : Toml.plainEntries table) :
    (ofTable table).toTable = .ok table :=
  toEntries_ofTableEntries table h

end Json

/-! ## The root -/

namespace Config

/-- A configuration with its output path as seen from a directory. -/
def seenFrom (root : String) (config : Config) : Config :=
  { config with outputPath := Path.join root config.outputPath }

/-- An absolute output path is the same from everywhere. -/
theorem seenFrom_of_absolute {root : String} {config : Config}
    (h : config.outputPath.toList.head? = some '/') : config.seenFrom root = config := by
  rw [seenFrom, Path.join, h]
  rfl

/-- The root matters to nothing but the output path. -/
theorem ofTable_some (table : Toml.Table) (root : String) :
    ofTable table (some root) = seenFrom root <$> ofTable table none := by
  simp only [ofTable, map_bind, map_pure, Option.elim]
  rfl

/-! ## Readers -/

section

variable {table package : Toml.Table} {text path dir : String} {root : Option String}

theorem documentOf_eq (h : Toml.parse? text = some table) : documentOf text = pure table := by
  rw [documentOf, h]

theorem ofToml_eq (h : Toml.parse? text = some table) : ofToml text = ofTable table none := by
  rw [ofToml, documentOf_eq h, pure_bind]

theorem ofManifestTable_eq (h : sectionOf? package = some (.table table)) :
    ofManifestTable package root = ofTable table root := by
  rw [ofManifestTable, h]

theorem ofManifest_eq (hp : Toml.parse? text = some package)
    (hs : sectionOf? package = some (.table table)) : ofManifest text = ofTable table none := by
  rw [ofManifest, documentOf_eq hp, pure_bind, ofManifestTable_eq hs]

theorem ofMetadata_eq {metadata : Json} (hp : Toml.plainEntries table)
    (hj : metadata.get? sectionKey = some (.ofTable table)) :
    ofMetadata metadata dir = ofTable table (some dir) := by
  simp only [ofMetadata, hj, Json.toTable_ofTable hp]

theorem ofManifestFile_eq {content : ByteArray} (hc : String.fromUTF8? content = some text)
    (hd : Path.parent? path = some dir) (hp : Toml.parse? text = some package)
    (hs : sectionOf? package = some (.table table)) :
    ofManifestFile path (some content) =
      (liftM (Logged.note .debug (readingText path)) >>= fun _ => ofTable table (some dir)) := by
  simp only [ofManifestFile, Option.bind_some, hc, hd, documentOf_eq hp, pure_bind,
    ofManifestTable_eq hs]

end

/-- A table that JSON has is read to one configuration from every source. A document and a manifest
give the same. The metadata of a package and a manifest file give the same fault, or the same with
the output path as seen from the directory of the package or the file, which leaves an absolute path
as it is. The logs are the same, but for the entry that a manifest file is read. -/
theorem readers_agree {table package : Toml.Table} {document manifest path root dir : String}
    {content : ByteArray} {metadata : Json} (hp : Toml.plainEntries table)
    (hd : Toml.parse? document = some table)
    (hm : Toml.parse? manifest = some package) (hs : sectionOf? package = some (.table table))
    (hj : metadata.get? sectionKey = some (.ofTable table))
    (hc : String.fromUTF8? content = some manifest) (hr : Path.parent? path = some dir) :
    let fromToml := ofToml document
    let fromManifest := ofManifest manifest
    let fromMetadata := ofMetadata metadata root
    let fromFile := ofManifestFile path (some content)
    fromManifest.result = fromToml.result ∧ fromManifest.entries = fromToml.entries ∧
    fromMetadata.result = fromToml.result.map (seenFrom root) ∧
      fromMetadata.entries = fromToml.entries ∧
    fromFile.result = fromToml.result.map (seenFrom dir) ∧
      fromFile.entries = ⟨.debug, readingText path⟩ :: fromToml.entries ∧
    ∀ (config : Config) (d : String), config.outputPath.toList.head? = some '/' →
      config.seenFrom d = config := by
  intro fromToml fromManifest fromMetadata fromFile
  have ht : fromToml = ofTable table none := ofToml_eq hd
  have ha : fromManifest = fromToml := (ofManifest_eq hm hs).trans ht.symm
  have hb : fromMetadata = seenFrom root <$> fromToml := by
    rw [ht, ← ofTable_some, ← ofMetadata_eq hp hj]
  have hf : fromFile =
      (liftM (Logged.note .debug (readingText path)) >>= fun _ => seenFrom dir <$> fromToml) := by
    rw [ht, ← ofTable_some, ← ofManifestFile_eq hc hr hm hs]
  rw [ha, hb, hf, Report.result_bind_logged, Report.entries_bind_logged, Report.result_map,
    Report.entries_map, Report.result_map, Report.entries_map]
  exact ⟨rfl, rfl, rfl, rfl, rfl, rfl, fun _ _ => seenFrom_of_absolute⟩

/-- A text is read back from its bytes. -/
theorem fromUTF8?_toUTF8 (text : String) : String.fromUTF8? text.toUTF8 = some text := by
  rw [String.fromUTF8?, String.toUTF8, dif_pos text.isValidUTF8]
  rfl

/-- A document with a rule that refers to a missing group. -/
def dollarDocument : String :=
  "output-path = \"ui.rs\"\nextend-replace = [[\"!\", \"$1\"]]\nstrict = true\n"

/-- Its table. -/
def dollarTable : Toml.Table :=
  [("extend-replace", .array [.array [.string "!", .string "$1"]]),
   ("output-path", .string "ui.rs"), ("strict", .boolean true)]

/-- The manifest with the document as its section. -/
def dollarManifest : String := "[package.metadata.css-classes]\n" ++ dollarDocument

theorem readers_agree_dollar :
    let fromToml := ofToml dollarDocument
    let fromManifest := ofManifest dollarManifest
    let fromMetadata := ofMetadata (.object [(sectionKey, .ofTable dollarTable)]) "/home"
    let fromFile := ofManifestFile "app/Cargo.toml" (some dollarManifest.toUTF8)
    fromManifest.result = fromToml.result ∧ fromManifest.entries = fromToml.entries ∧
    fromMetadata.result = fromToml.result.map (seenFrom "/home") ∧
      fromMetadata.entries = fromToml.entries ∧
    fromFile.result = fromToml.result.map (seenFrom "app") ∧
      fromFile.entries = ⟨.debug, readingText "app/Cargo.toml"⟩ :: fromToml.entries ∧
    ∀ (config : Config) (d : String), config.outputPath.toList.head? = some '/' →
      config.seenFrom d = config :=
  have hp : Toml.plainEntries dollarTable := by decide
  have hd : Toml.parse? dollarDocument = some dollarTable := by cbv
  have hm : Toml.parse? dollarManifest =
      some [("package", .table [("metadata", .table [(sectionKey, .table dollarTable)])])] := by cbv
  readers_agree hp hd hm (by rfl) (by rfl) (fromUTF8?_toUTF8 _) (by rfl)

end Config

end ClassFields
