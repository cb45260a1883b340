import Mathlib.Data.Set.List
import ClassFields.Config
import ClassFields.Proofs.StandardTable
import ClassFields.Proofs.TablePairs

/-!
# Keys of a configuration

A configuration is read key by key, and what one key says does not depend on the others: `ofKey`
reads what a table has of one key, and the whole table fails with the fault of the first key that
does (`ofTable_eq_error_iff`). What it comes to otherwise is made of what its keys come to
(`ofTable_of_ok`). A key for pairs is at fault by its shape or else by its patterns (`PairsFault`),
and the pairs of a table are read back as the table (`rules_eq_of_get?`).
-/

namespace ClassFields

/-! ## A table with one key -/

namespace Toml

/-- What a table has of one key. -/
def Table.only (table : Table) (key : String) : Table := table.filter (·.1 == key)

theorem Table.get?_only_self (table : Table) (key : String) :
    (table.only key).get? key = table.get? key := by
  induction table with
  | nil => rfl
  | cons entry rest ih =>
    obtain ⟨k, v⟩ := entry
    simp only [Table.only, Table.get?, List.filter_cons, List.lookup_cons] at ih ⊢
    by_cases h : k = key
    · subst h
      simp
    · simpa [h, beq_false_of_ne (Ne.symm h)] using ih

theorem Table.get?_only_of_ne (table : Table) {key other : String} (h : other ≠ key) :
    (table.only key).get? other = none := by
  rw [Table.get?, List.lookup_eq_none_iff]
  rintro ⟨k, v⟩ hm
  have hk : k = key := by simpa using (List.mem_filter.mp hm).2
  simpa [hk] using h

/-- A pair as a value. -/
def Value.ofPair (pair : String × String) : Value := .array [.string pair.1, .string pair.2]

/-- Pairs as a value. -/
def Value.ofPairs (pairs : List (String × String)) : Value := .array (pairs.map .ofPair)

end Toml

namespace Config

open Toml (Value)

variable {table : Toml.Table} {key : String} {value : Value} {pair : String × String}
  {pairs : List (String × String)} {fault : Fault}

theorem pairOf?_eq_some_iff : pairOf? value = some pair ↔ value = .ofPair pair := by
  constructor
  · intro h
    unfold pairOf? at h
    split at h <;> cases h
    rfl
  · rintro rfl
    rfl

theorem mapM_pairOf?_eq_some_iff {items : List Value} :
    items.mapM pairOf? = some pairs ↔ items = pairs.map .ofPair := by
  induction items generalizing pairs with
  | nil => simp [eq_comm]
  | cons item items ih =>
    rw [List.mapM_cons]
    simp only [Option.bind_eq_bind, Option.bind_eq_some_iff, Option.pure_def, Option.some.injEq,
      pairOf?_eq_some_iff, ih]
    constructor
    · rintro ⟨pair, rfl, rest, rfl, rfl⟩
      rfl
    · intro h
      obtain ⟨pair, rest, rfl, rfl, rfl⟩ := List.map_eq_cons_iff.mp h.symm
      exact ⟨pair, rfl, rest, rfl, rfl⟩

theorem pairsOf?_eq_some_iff : pairsOf? value = some pairs ↔ value = .ofPairs pairs := by
  unfold pairsOf?
  split
  · rename_i items
    rw [mapM_pairOf?_eq_some_iff, Value.ofPairs, Value.array.injEq]
  · rename_i hn
    exact ⟨nofun, fun h => absurd h (hn _)⟩

/-- What is wrong with a value that is not an array of pairs: it is no array, or it is one with an
item that is no pair. -/
inductive Misshapen : Value → Prop
  | noArray {value : Value} (h : ∀ items, value ≠ .array items) : Misshapen value
  | noPair {items : List Value} {item : Value} (hm : item ∈ items)
      (h : ∀ pair, item ≠ .ofPair pair) : Misshapen (.array items)

theorem misshapen_iff : Misshapen value ↔ ∀ pairs, value ≠ .ofPairs pairs := by
  constructor
  · rintro (h | ⟨hm, h⟩) pairs he
    · exact h _ he
    · cases he
      obtain ⟨pair, -, rfl⟩ := List.mem_map.mp hm
      exact h pair rfl
  · intro h
    by_cases ha : ∃ items, value = .array items
    · obtain ⟨items, rfl⟩ := ha
      -- An array whose items are all pairs would be the array of those pairs.
      have hm : ¬ ∀ item ∈ items, item ∈ Set.range Value.ofPair := fun hp => by
        obtain ⟨pairs, he⟩ : items ∈ Set.range (List.map Value.ofPair) := by
          rwa [Set.range_list_map]
        exact h pairs (congrArg Value.array he.symm)
      push Not at hm
      obtain ⟨item, hm, hn⟩ := hm
      exact .noPair hm fun pair he => hn ⟨pair, he.symm⟩
    · exact .noArray fun items he => ha ⟨items, he⟩

theorem pairsOf?_eq_none_iff : pairsOf? value = none ↔ Misshapen value := by
  rw [misshapen_iff, Option.eq_none_iff_forall_ne_some]
  exact forall_congr' fun pairs => not_congr pairsOf?_eq_some_iff

@[simp]
theorem pairsOf?_ofPairs : pairsOf? (.ofPairs pairs) = some pairs := pairsOf?_eq_some_iff.mpr rfl

theorem ofPairs_inj {other : List (String × String)} :
    Value.ofPairs pairs = Value.ofPairs other ↔ pairs = other := by
  rw [← pairsOf?_eq_some_iff, pairsOf?_ofPairs, Option.some.injEq]

theorem misshapen_or (value : Value) : Misshapen value ∨ ∃ pairs, value = .ofPairs pairs := by
  rw [misshapen_iff, ← not_exists]
  exact (em _).symm

/-! ## One key of a table -/

theorem readKey_of_none {α : Type} {expected : Expected} {read : Value → Option α}
    (h : table.get? key = none) : readKey table key expected read = .ok none := by
  rw [readKey, h]

theorem readKey_congr {α : Type} {other : Toml.Table} {expected : Expected}
    {read : Value → Option α} (h : other.get? key = table.get? key) :
    readKey other key expected read = readKey table key expected read := by
  rw [readKey, readKey, h]

theorem readLineEnding_congr {other : Toml.Table}
    (h : other.get? "line-ending" = table.get? "line-ending") :
    readLineEnding other = readLineEnding table := by
  rw [readLineEnding, readLineEnding, readKey_congr h]

theorem readLineEnding_of_none (h : table.get? "line-ending" = none) :
    readLineEnding table = .ok standard.lineEnding := by
  rw [readLineEnding, readKey_of_none h]
  rfl

/-- The rules that a key asks for, or else given ones. -/
def readRules (key : String) (rules : RuleTable) (table : Toml.Table) : Report RuleTable := do
  match ← readKey table key .pairs pairsOf? with
  | some pairs => RuleTable.ofPairs pairs
  | none => return rules

section Rules

variable {rules result : RuleTable}

theorem readRules_congr {other : Toml.Table} (h : other.get? key = table.get? key) :
    readRules key rules other = readRules key rules table := by
  rw [readRules, readRules, readKey_congr h]

theorem readRules_of_none (h : table.get? key = none) : readRules key rules table = pure rules := by
  rw [readRules, readKey_of_none h, Report.bind_ok]

theorem readRules_of_misshapen (h : table.get? key = some value) (hm : Misshapen value) :
    readRules key rules table = throw (.invalidConfig (.wrongType key .pairs)) := by
  simp only [readRules, readKey, h, pairsOf?_eq_none_iff.mpr hm, Report.bind_error]

theorem readRules_of_ofPairs (h : table.get? key = some (.ofPairs pairs)) :
    readRules key rules table = RuleTable.ofPairs pairs := by
  simp only [readRules, readKey, h, pairsOf?_ofPairs, Report.bind_ok]

/-- What is wrong with the value of a key for pairs: its shape, or else the first pattern that does
not compile. -/
def PairsFault (key : String) (value : Value) (fault : Fault) : Prop :=
  (Misshapen value ∧ fault = .invalidConfig (.wrongType key .pairs)) ∨
  ∃ before pattern replacement after,
    value = .ofPairs (before ++ (pattern, replacement) :: after) ∧
      (∀ pair ∈ before, Pattern.ofText? pair.1 ≠ none) ∧ Pattern.ofText? pattern = none ∧
      fault = .invalidPattern pattern

/-- The pairs of a key, or else given ones. -/
def PairsAt (table : Toml.Table) (key : String) (otherwise pairs : List (String × String)) : Prop :=
  match table.get? key with
  | some value => value = .ofPairs pairs
  | none => pairs = otherwise

theorem readRules_eq_error_iff : (readRules key rules table).result = .error fault ↔
    ∃ value, table.get? key = some value ∧ PairsFault key value fault := by
  rcases hv : table.get? key with _ | value
  · rw [readRules_of_none hv]
    exact ⟨nofun, nofun⟩
  simp only [Option.some.injEq, exists_eq_left', PairsFault]
  rcases misshapen_or value with hm | ⟨pairs, rfl⟩
  · have hn : ∀ pairs, value ≠ .ofPairs pairs := misshapen_iff.mp hm
    rw [readRules_of_misshapen hv hm, Report.result_throw, Except.error.injEq, eq_comm]
    simp only [hm, hn, true_and, false_and, exists_false, or_false]
  · have hn : ¬ Misshapen (.ofPairs pairs) := fun hm => misshapen_iff.mp hm pairs rfl
    rw [readRules_of_ofPairs hv, RuleTable.ofPairs_eq_error_iff]
    simp only [hn, false_and, false_or, ofPairs_inj]

theorem pairsAt_of_readRules (h : (readRules key rules table).result = .ok result) :
    PairsAt table key rules.pairs result.pairs := by
  rcases hv : table.get? key with _ | value
  · rw [readRules_of_none hv] at h
    cases h
    rw [PairsAt, hv]
  · rcases misshapen_or value with hm | ⟨pairs, rfl⟩
    · rw [readRules_of_misshapen hv hm] at h
      cases h
    · rw [readRules_of_ofPairs hv, RuleTable.ofPairs_eq_ok_iff] at h
      rw [PairsAt, hv, h]

end Rules

/-! ## A table as its keys -/

theorem readReplace_eq (table : Toml.Table) :
    readReplace table = readRules "replace" .standard table := rfl

/-- Rules that are put at the end of given ones are read as if there were none. -/
theorem readExtension_eq (table : Toml.Table) (rules : RuleTable) : readExtension table rules =
    (fun more => ⟨rules.rules ++ more.rules⟩) <$> readRules "extend-replace" .empty table := by
  unfold readExtension readRules
  rw [map_bind]
  refine bind_congr fun pairs => ?_
  rcases pairs with _ | pairs
  · simp [RuleTable.empty]
  · exact RuleTable.pushAll_eq rules pairs

/-- What a configuration is made of. -/
def assembled (root : Option String) (rules more : RuleTable) (path : Option String)
    (strict : Option Bool) (lineEnding : LineEnding) : Config :=
  let path := path.getD standard.outputPath
  ⟨⟨rules.rules ++ more.rules⟩, root.elim path (Path.join · path), strict.getD standard.strict,
    lineEnding⟩

/-- A configuration comes from the values of five keys, one after the other. -/
theorem result_ofTable (table : Toml.Table) (root : Option String) :
    (ofTable table root).result =
      (readRules "replace" .standard table).result.bind fun rules =>
      (readRules "extend-replace" .empty table).result.bind fun more =>
      (readKey table "output-path" .string stringOf?).bind fun path =>
      (readKey table "strict" .boolean booleanOf?).bind fun strict =>
      (readLineEnding table).map (assembled root rules more path strict) := by
  unfold ofTable
  rw [Report.result_bind_logged]
  simp only [readReplace_eq, readExtension_eq, Report.result_bind, Report.result_map,
    Report.result_lift]
  refine congrArg (Except.bind _) (funext fun rules => ?_)
  cases (readRules "extend-replace" .empty table).result <;> rfl

/-- Keys that no configuration has do not matter. -/
theorem result_ofTable_congr {other : Toml.Table} (root : Option String)
    (h : ∀ key ∈ keys, other.get? key = table.get? key) :
    (ofTable other root).result = (ofTable table root).result := by
  rw [result_ofTable, result_ofTable, readRules_congr (h "replace" (by decide)),
    readRules_congr (h "extend-replace" (by decide)), readKey_congr (h "output-path" (by decide)),
    readKey_congr (h "strict" (by decide)), readLineEnding_congr (h "line-ending" (by decide))]

variable (table) (root : Option String)

/-- Reads what a table has of one key. -/
def ofKey (key : String) : Report Config := ofTable (table.only key) root

theorem readKey_only {α : Type} (key other : String) (expected : Expected)
    (read : Value → Option α) : readKey (table.only key) other expected read =
      if other = key then readKey table other expected read else .ok none := by
  split
  · rename_i h
    exact readKey_congr (h ▸ table.get?_only_self key)
  · rename_i h
    exact readKey_of_none (table.get?_only_of_ne h)

theorem readRules_only (key other : String) (rules : RuleTable) :
    readRules other rules (table.only key) =
      if other = key then readRules other rules table else pure rules := by
  split
  · rename_i h
    exact readRules_congr (h ▸ table.get?_only_self key)
  · rename_i h
    exact readRules_of_none (table.get?_only_of_ne h)

theorem readLineEnding_only (key : String) : readLineEnding (table.only key) =
    if "line-ending" = key then readLineEnding table else .ok standard.lineEnding := by
  split
  · rename_i h
    exact readLineEnding_congr (h ▸ table.get?_only_self key)
  · rename_i h
    exact readLineEnding_of_none (table.get?_only_of_ne h)

theorem result_ofKey_replace : (ofKey table root "replace").result =
    (readRules "replace" .standard table).result.map
      (assembled root · .empty none none standard.lineEnding) := by
  rw [ofKey, result_ofTable]
  simp only [readRules_only, readKey_only, readLineEnding_only, String.reduceEq, reduceIte]
  rfl

theorem result_ofKey_extension : (ofKey table root "extend-replace").result =
    (readRules "extend-replace" .empty table).result.map
      (assembled root .standard · none none standard.lineEnding) := by
  rw [ofKey, result_ofTable]
  simp only [readRules_only, readKey_only, readLineEnding_only, String.reduceEq, reduceIte]
  rfl

theorem result_ofKey_outputPath : (ofKey table root "output-path").result =
    (readKey table "output-path" .string stringOf?).map
      (assembled root .standard .empty · none standard.lineEnding) := by
  rw [ofKey, result_ofTable]
  simp only [readRules_only, readKey_only, readLineEnding_only, String.reduceEq, reduceIte]
  rfl

theorem result_ofKey_strict : (ofKey table root "strict").result =
    (readKey table "strict" .boolean booleanOf?).map
      (assembled root .standard .empty none · standard.lineEnding) := by
  rw [ofKey, result_ofTable]
  simp only [readRules_only, readKey_only, readLineEnding_only, String.reduceEq, reduceIte]
  rfl

theorem result_ofKey_lineEnding : (ofKey table root "line-ending").result =
    (readLineEnding table).map (assembled root .standard .empty none none) := by
  rw [ofKey, result_ofTable]
  simp only [readRules_only, readKey_only, readLineEnding_only, String.reduceEq, reduceIte]
  rfl

variable {table root} {config : Config}

/-- The fault of a table is that of the first key that is at fault. -/
theorem ofTable_eq_error_iff : (ofTable table root).result = .error fault ↔
    FirstFault (fun key => (ofKey table root key).result) keys fault := by
  simp only [keys, firstFault_cons, not_firstFault_nil, result_ofKey_replace,
    result_ofKey_extension, result_ofKey_outputPath, result_ofKey_strict, result_ofKey_lineEnding,
    Except.map_eq_error_iff, Except.exists_map_eq_ok_iff, result_ofTable,
    Except.bind_eq_error_iff, exists_and_right, and_false, or_false]

theorem ofTable_of_ok (h : (ofTable table root).result = .ok config) :
    (∃ alone, (ofKey table root "output-path").result = .ok alone ∧
        config.outputPath = alone.outputPath) ∧
      (∃ alone, (ofKey table root "strict").result = .ok alone ∧
        config.strict = alone.strict) ∧
      (∃ alone, (ofKey table root "line-ending").result = .ok alone ∧
        config.lineEnding = alone.lineEnding) ∧
      ∃ replaced more, PairsAt table "replace" RuleTable.standardPairs replaced ∧
        PairsAt table "extend-replace" [] more ∧ config.rules.pairs = replaced ++ more := by
  rw [result_ofTable] at h
  simp only [Except.bind_eq_ok_iff, Except.map_eq_ok_iff] at h
  obtain ⟨rules, hr, more, hm, path, hp, strict, hs, lineEnding, hl, rfl⟩ := h
  refine ⟨⟨assembled root .standard .empty path none standard.lineEnding, ?_, rfl⟩,
    ⟨assembled root .standard .empty none strict standard.lineEnding, ?_, rfl⟩,
    ⟨assembled root .standard .empty none none lineEnding, ?_, rfl⟩, rules.pairs, more.pairs, ?_,
    pairsAt_of_readRules hm, List.map_append⟩
  · rw [result_ofKey_outputPath, hp, Except.map]
  · rw [result_ofKey_strict, hs, Except.map]
  · rw [result_ofKey_lineEnding, hl, Except.map]
  · rw [← RuleTable.pairs_standard]
    exact pairsAt_of_readRules hr

/-! ## Pairs of a table under a key -/

section

variable {rules : RuleTable}

theorem result_readRules_of_pairs {otherwise : RuleTable}
    (h : table.get? key = some (.ofPairs rules.pairs)) :
    (readRules key otherwise table).result = .ok rules := by
  rw [readRules_of_ofPairs h, RuleTable.ofPairs_eq_ok_iff]

/-- The pairs of a table are read back as the table. -/
theorem rules_eq_of_get? (hr : table.get? "replace" = some (.ofPairs rules.pairs))
    (he : table.get? "extend-replace" = none) (hc : (ofTable table root).result = .ok config) :
    config.rules = rules := by
  obtain ⟨-, -, -, replaced, more, hp, hm, hrules⟩ := ofTable_of_ok hc
  rw [PairsAt, hr] at hp
  rw [PairsAt, he] at hm
  rw [← RuleTable.pairs_inj, hrules, ofPairs_inj.mp hp, hm, List.append_nil]

/-- Where the pairs of a table are read, only other keys can be at fault. -/
theorem exists_ofKey_of_get? (hr : table.get? "replace" = some (.ofPairs rules.pairs))
    (he : table.get? "extend-replace" = none) (h : (ofTable table root).result = .error fault) :
    ∃ key ∈ ["output-path", "strict", "line-ending"],
      (ofKey table root key).result = .error fault := by
  obtain ⟨before, key, after, hk, -, hf⟩ := ofTable_eq_error_iff.mp h
  have hf : (ofKey table root key).result = .error fault := hf
  have hm : key ∈ keys := hk ▸ List.mem_append_right before List.mem_cons_self
  rcases List.mem_cons.mp hm with rfl | hm
  · rw [result_ofKey_replace, result_readRules_of_pairs hr] at hf
    cases hf
  rcases List.mem_cons.mp hm with rfl | hm
  · rw [result_ofKey_extension, readRules_of_none he] at hf
    cases hf
  · exact ⟨key, hm, hf⟩

/-- A configuration with nothing but the pairs of a table is read. -/
theorem exists_ofTable_replace (rules : RuleTable) (root : Option String) : ∃ config,
    (ofTable [("replace", .ofPairs rules.pairs)] root).result = .ok config ∧
      config.rules = rules := by
  have hc : (ofTable [("replace", .ofPairs rules.pairs)] root).result =
      .ok (assembled root rules .empty none none standard.lineEnding) := by
    rw [result_ofTable, result_readRules_of_pairs rfl]
    rfl
  exact ⟨_, hc, rules_eq_of_get? rfl rfl hc⟩

end

/-! ## Faults of keys -/

theorem unknownKeys_only (h : key ∈ keys) : unknownKeys (table.only key) = [] := by
  rw [unknownKeys, List.map_eq_nil_iff, List.filter_eq_nil_iff]
  intro other hm
  obtain ⟨entry, he, rfl⟩ := List.mem_map.mp hm
  have hk : entry.1 = key := beq_iff_eq.mp (List.mem_filter.mp he).2
  simpa [hk] using h

/-- A value of the wrong shape is found before any of its patterns is compiled: the log has nothing
of them. -/
theorem entries_ofKey_of_misshapen (hk : key = "replace" ∨ key = "extend-replace")
    (hv : table.get? key = some value) (hm : Misshapen value) :
    (ofKey table root key).entries = [] := by
  have hs : (table.only key).get? key = some value := (table.get?_only_self key).trans hv
  have hu : unknownKeys (table.only key) = [] :=
    unknownKeys_only (by rcases hk with rfl | rfl <;> decide)
  rw [ofKey, ofTable, Report.entries_bind_logged, Logged.notes, hu, List.nil_append]
  rcases hk with rfl | rfl
  · rw [readReplace_eq, readRules_of_misshapen hs hm, Report.throw_bind, Report.entries_throw]
  · have hn : (table.only "extend-replace").get? "replace" = none :=
      table.get?_only_of_ne (by decide)
    rw [readReplace_eq, readRules_of_none hn, pure_bind, readExtension_eq,
      readRules_of_misshapen hs hm, Report.map_throw, Report.throw_bind, Report.entries_throw]

theorem ofKey_eq_error_iff (hk : key = "replace" ∨ key = "extend-replace") :
    (ofKey table root key).result = .error fault ↔
      ∃ value, table.get? key = some value ∧ PairsFault key value fault := by
  rcases hk with rfl | rfl
  · rw [result_ofKey_replace, Except.map_eq_error_iff, readRules_eq_error_iff]
  · rw [result_ofKey_extension, Except.map_eq_error_iff, readRules_eq_error_iff]

/-- A table is read key by key. It is at fault if one of its keys is when it stands alone, and then
with the fault of the first such key. Otherwise the path, the strictness and the line ending are
those of their keys alone, and the rules are those of the two keys for pairs, one after the other.
Other keys do not matter. A key for pairs is at fault by its shape, with no pattern compiled, or
else by the first pattern that does not compile. -/
theorem ofTable_by_keys (table : Toml.Table) (root : Option String) :
    (∀ fault, (ofTable table root).result = .error fault ↔
      FirstFault (fun key => (ofKey table root key).result) keys fault) ∧
    ((∃ fault, (ofTable table root).result = .error fault) ↔
      ∃ key ∈ keys, ∃ fault, (ofKey table root key).result = .error fault) ∧
    (∀ config, (ofTable table root).result = .ok config →
      (∃ alone, (ofKey table root "output-path").result = .ok alone ∧
        config.outputPath = alone.outputPath) ∧
      (∃ alone, (ofKey table root "strict").result = .ok alone ∧
        config.strict = alone.strict) ∧
      (∃ alone, (ofKey table root "line-ending").result = .ok alone ∧
        config.lineEnding = alone.lineEnding) ∧
      ∃ replaced more, PairsAt table "replace" RuleTable.standardPairs replaced ∧
        PairsAt table "extend-replace" [] more ∧ config.rules.pairs = replaced ++ more) ∧
    (∀ other : Toml.Table, (∀ key ∈ keys, other.get? key = table.get? key) →
      (ofTable other root).result = (ofTable table root).result) ∧
    ∀ key, key = "replace" ∨ key = "extend-replace" →
      (∀ fault, (ofKey table root key).result = .error fault ↔
        ∃ value, table.get? key = some value ∧ PairsFault key value fault) ∧
      ∀ value, table.get? key = some value → Misshapen value →
        (ofKey table root key).entries = [] := by
  refine ⟨fun fault => ofTable_eq_error_iff, ?_, fun config => ofTable_of_ok,
    fun other => result_ofTable_congr root, fun key hk => ⟨fun fault => ofKey_eq_error_iff hk,
      fun value => entries_ofKey_of_misshapen hk⟩⟩
  rw [← exists_firstFault_iff]
  exact exists_congr fun fault => ofTable_eq_error_iff

/-- Of a pattern that does not compile, a value that is no pair and another key at fault, the value
that is no pair comes first. -/
example : (ofTable [("strict", .string "yes"),
    ("extend-replace", .array [.ofPair ("(", ""), .array []])] none).result =
    .error (.invalidConfig (.wrongType "extend-replace" .pairs)) := rfl

end Config

end ClassFields
