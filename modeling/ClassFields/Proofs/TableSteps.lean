import ClassFields.Proofs.ConfigKeys
import ClassFields.Proofs.TablePairs

/-!
# Tables in use

A program holds tables of rules: it makes them from pairs or configurations, copies them, and puts
rules at their ends in place (`Step`). A step does all or nothing (`Step.outcome_run`). What the
tables print after any steps comes from the steps and printed pairs alone (`map_pairs_after`), and a
table is again what its pairs make, by themselves or in a configuration (`rebuilt_after`).
-/

namespace ClassFields

namespace Config

/-- Where a configuration comes from. -/
inductive Source where
  | standard
  | document (text : String)
  | manifest (text : String)
  | manifestFile (path : String) (content : Option ByteArray)
  | metadata (json : Json) (root : String)

/-- Reads the configuration from where it comes from. -/
def Source.config : Source → Report Config
  | standard => return .standard
  | document text => ofToml text
  | manifest text => ofManifest text
  | manifestFile path content => ofManifestFile path content
  | metadata json root => ofMetadata json root

end Config

namespace RuleTable

/-- Where a table comes from. -/
inductive Source where
  | empty
  | standard
  | pairs (list : List (String × String))
  | config (source : Config.Source)

/-- The table that comes from somewhere. -/
def Source.table : Source → Report RuleTable
  | empty => return .empty
  | standard => return .standard
  | pairs list => ofPairs list
  | config source => Config.rules <$> source.config

/-! ## Steps -/

/-- What a program does with the tables that it holds, which it may change before it fails. -/
abbrev Holding := ExceptT Fault (StateT (List RuleTable) Logged)

namespace Holding

variable {α β : Type}

/-- A report is made without regard to the tables. -/
def ofReport (report : Report α) : Holding α := ExceptT.mk (StateT.lift report.run)

/-- What an action on given tables comes to, and the tables afterwards. -/
def outcome (action : Holding α) (tables : List RuleTable) : Except Fault α × List RuleTable :=
  (StateT.run action.run tables).value

theorem outcome_bind (action : Holding α) (f : α → Holding β) (tables : List RuleTable) :
    (action >>= f).outcome tables = match action.outcome tables with
      | (.ok a, tables) => (f a).outcome tables
      | (.error fault, tables) => (.error fault, tables) := by
  show (StateT.run (ExceptT.run (action >>= f)) tables).value = _
  rw [ExceptT.run_bind, StateT.run_bind, Logged.value_bind, outcome]
  rcases (StateT.run action.run tables).value with ⟨result, tables⟩
  cases result <;> rfl

theorem outcome_ofReport (report : Report α) (tables : List RuleTable) :
    (ofReport report).outcome tables = (report.result, tables) := rfl

theorem outcome_get (tables : List RuleTable) :
    (get : Holding (List RuleTable)).outcome tables = (.ok tables, tables) := rfl

end Holding

/-- One thing to do with the tables at hand, which are known by their positions. -/
inductive Step where
  | make (source : Source)
  | copy (i : Nat)
  | push (i : Nat) (pattern replacement : String)

namespace Step

/-- Does one thing. A new table comes last. -/
def run : Step → Holding Unit
  | make source => do
    let table ← Holding.ofReport source.table
    modify (· ++ [table])
  | copy i => do
    if let some table := (← get)[i]? then
      modify (· ++ [table])
  | push i pattern replacement => do
    if let some table := (← get)[i]? then
      let longer ← Holding.ofReport (table.push pattern replacement)
      modify (·.set i longer)

/-- What a step comes to. -/
def result (step : Step) (tables : List RuleTable) : Except Fault Unit := (step.run.outcome tables).1

/-- The tables after a step. -/
def after (step : Step) (tables : List RuleTable) : List RuleTable := (step.run.outcome tables).2

/-- What a step makes of the tables if it does not fail. -/
def next (step : Step) (tables : List RuleTable) : Except Fault (List RuleTable) :=
  match step with
  | make source => source.table.result.map fun table => tables ++ [table]
  | copy i => .ok (tables ++ tables[i]?.toList)
  | push i pattern replacement =>
    match tables[i]? with
    | some table => (table.push pattern replacement).result.map fun longer => tables.set i longer
    | none => .ok tables

/-- A step does all or nothing. -/
theorem outcome_run (step : Step) (tables : List RuleTable) :
    step.run.outcome tables = match step.next tables with
      | .ok next => (.ok (), next)
      | .error fault => (.error fault, tables) := by
  cases step with
  | make source =>
    rw [run, Holding.outcome_bind, Holding.outcome_ofReport, next]
    cases source.table.result <;> rfl
  | copy i =>
    rw [run, Holding.outcome_bind, Holding.outcome_get, next]
    cases h : tables[i]? with
    | none =>
      simp only [h, Option.toList_none, List.append_nil]
      rfl
    | some table =>
      simp only [h, Option.toList_some]
      rfl
  | push i pattern replacement =>
    rw [run, Holding.outcome_bind, Holding.outcome_get, next]
    cases h : tables[i]? with
    | none =>
      simp only [h]
      rfl
    | some table =>
      simp only [h]
      rw [Holding.outcome_bind, Holding.outcome_ofReport]
      cases (table.push pattern replacement).result <;> rfl

theorem after_eq (step : Step) (tables : List RuleTable) :
    step.after tables = (step.next tables).toOption.getD tables := by
  rw [after, outcome_run]
  cases step.next tables <;> rfl

variable {step : Step} {tables : List RuleTable} {fault : Fault}

theorem result_eq_ok_iff : step.result tables = .ok () ↔ ∃ next, step.next tables = .ok next := by
  rw [result, outcome_run]
  cases step.next tables <;> simp

theorem result_eq_error_iff : step.result tables = .error fault ↔
    step.next tables = .error fault := by
  rw [result, outcome_run]
  cases step.next tables <;> simp

/-- A step that fails leaves the tables as they were. -/
theorem after_of_error (h : step.result tables = .error fault) : step.after tables = tables := by
  rw [after_eq, result_eq_error_iff.mp h]
  rfl

end Step

/-! ## What is printed -/

/-- The pairs of what comes from somewhere, if anything does. -/
def Source.pairs? : Source → Option (List (String × String))
  | empty => some []
  | standard => some standardPairs
  | pairs list => if ∀ pair ∈ list, Pattern.ofText? pair.1 ≠ none then some list else none
  | config source => source.config.result.toOption.map (·.rules.pairs)

theorem Source.pairs?_eq (source : Source) :
    source.pairs? = source.table.result.toOption.map RuleTable.pairs := by
  cases source with
  | empty => rfl
  | standard => exact congrArg some pairs_standard.symm
  | pairs list =>
    rw [Source.pairs?, Source.table]
    split
    · rename_i h
      obtain ⟨table, ht⟩ := exists_ofPairs_eq_ok_iff.mpr h
      rw [ht, Except.toOption, Option.map_some, ofPairs_eq_ok_iff.mp ht]
    · rename_i h
      cases hr : (ofPairs list).result with
      | error fault => rfl
      | ok table => exact absurd (exists_ofPairs_eq_ok_iff.mp ⟨table, hr⟩) h
  | config source =>
    rw [Source.pairs?, Source.table, Report.result_map]
    cases source.config.result <;> rfl

/-- What a step makes of the pairs of tables. -/
def Step.print (step : Step) (printed : List (List (String × String))) :
    List (List (String × String)) :=
  match step with
  | make source => printed ++ source.pairs?.toList
  | copy i => printed ++ printed[i]?.toList
  | push i pattern replacement =>
    match printed[i]?, Pattern.ofText? pattern with
    | some list, some _ => printed.set i (list ++ [(pattern, replacement)])
    | _, _ => printed

/-- What the tables print after a step comes from what they printed before. -/
theorem Step.map_pairs_after (step : Step) (tables : List RuleTable) :
    (step.after tables).map pairs = step.print (tables.map pairs) := by
  rw [after_eq]
  cases step with
  | make source =>
    rw [print, source.pairs?_eq, next]
    cases source.table.result with
    | error fault => exact (List.append_nil _).symm
    | ok table => exact List.map_append
  | copy i =>
    rw [print, next, List.getElem?_map]
    cases tables[i]? with
    | none => simp [Except.toOption]
    | some table => exact List.map_append
  | push i pattern replacement =>
    rw [print, next, List.getElem?_map]
    cases tables[i]? with
    | none => rfl
    | some table =>
      cases hc : Pattern.ofText? pattern with
      | none =>
        have hp : (table.push pattern replacement).result = .error (.invalidPattern pattern) :=
          push_eq_error_iff.mpr ⟨hc, rfl⟩
        simp only [hp]
        rfl
      | some compiled =>
        obtain ⟨longer, hp⟩ : ∃ longer, (table.push pattern replacement).result = .ok longer :=
          exists_push_eq_ok_iff.mpr (hc ▸ Option.some_ne_none compiled)
        simp only [hp, Except.map, Except.toOption, Option.getD_some, Option.map_some,
          List.map_set, push_eq_ok_iff.mp hp]

/-- The tables that a program holds after steps, some of which may have failed. -/
def after (steps : List Step) : List RuleTable :=
  steps.foldl (fun tables step => step.after tables) []

/-- The pairs that are printed after steps. -/
def printed (steps : List Step) : List (List (String × String)) :=
  steps.foldl (fun printed step => step.print printed) []

/-- What the tables print after any steps comes from the steps and printed pairs alone. -/
theorem map_pairs_after (steps : List Step) : (after steps).map pairs = printed steps :=
  (List.foldl_hom (List.map pairs) fun tables step => (step.map_pairs_after tables).symm).symm

theorem after_concat (steps : List Step) (step : Step) :
    after (steps ++ [step]) = step.after (after steps) := by
  rw [after, List.foldl_append]
  rfl

/-! ## Rules that are put in -/

section

variable {tables : List RuleTable} {table : RuleTable} {i : Nat} {pattern replacement : String}

theorem Step.result_push_eq_ok_iff (h : tables[i]? = some table) :
    (push i pattern replacement).result tables = .ok () ↔ Pattern.ofText? pattern ≠ none := by
  simp only [result_eq_ok_iff, next, h, Except.exists_map_eq_ok_iff, exists_push_eq_ok_iff]

theorem Step.after_push (h : tables[i]? = some table)
    (hr : (push i pattern replacement).result tables = .ok ()) :
    ∃ longer, (push i pattern replacement).after tables = tables.set i longer ∧
      longer.pairs = table.pairs ++ [(pattern, replacement)] := by
  obtain ⟨longer, hp⟩ := exists_push_eq_ok_iff.mpr ((result_push_eq_ok_iff h).mp hr)
  refine ⟨longer, ?_, push_eq_ok_iff.mp hp⟩
  simp only [after_eq, next, h, hp, Except.map, Except.toOption, Option.getD_some]

end

/-- After any steps, what the tables print comes from the steps and printed pairs alone, and each table
is again what its pairs make, the same rules with the same missing groups and the same results for all
names: by themselves, and where a configuration has them under the key for them and asks for no more.
Such a configuration is at fault by its other keys only. A step that fails leaves all tables as they
were. A rule can be put in if its pattern compiles, and is then the one new pair of its table, at the
end. -/
theorem rebuilt_after (steps : List Step) :
    (after steps).map pairs = printed steps ∧
    (∀ table ∈ after steps,
      (ofPairs table.pairs).result = .ok table ∧
      (∀ root, ∃ config, (Config.ofTable [("replace", .ofPairs table.pairs)] root).result =
        .ok config ∧ config.rules = table) ∧
      ∀ settings root, Toml.Table.get? settings "replace" = some (.ofPairs table.pairs) →
        settings.get? "extend-replace" = none →
        (∀ config, (Config.ofTable settings root).result = .ok config → config.rules = table) ∧
        ∀ fault, (Config.ofTable settings root).result = .error fault →
          ∃ key ∈ ["output-path", "strict", "line-ending"],
            (Config.ofKey settings root key).result = .error fault) ∧
    (∀ step fault, step.result (after steps) = .error fault →
      after (steps ++ [step]) = after steps) ∧
    ∀ i table pattern replacement, (after steps)[i]? = some table →
      ((Step.push i pattern replacement).result (after steps) = .ok () ↔
        Pattern.ofText? pattern ≠ none) ∧
      ((Step.push i pattern replacement).result (after steps) = .ok () → ∃ longer,
        after (steps ++ [.push i pattern replacement]) = (after steps).set i longer ∧
          longer.pairs = table.pairs ++ [(pattern, replacement)]) := by
  refine ⟨map_pairs_after steps, fun table _ => ⟨ofPairs_eq_ok_iff.mpr rfl,
    Config.exists_ofTable_replace table, fun settings root hr he => ⟨?_, ?_⟩⟩, ?_, ?_⟩
  · exact fun config => Config.rules_eq_of_get? hr he
  · exact fun fault => Config.exists_ofKey_of_get? hr he
  · intro step fault h
    rw [after_concat, Step.after_of_error h]
  · intro i table pattern replacement h
    refine ⟨Step.result_push_eq_ok_iff h, fun hr => ?_⟩
    rw [after_concat]
    exact Step.after_push h hr

/-- Steps on the standard table and a copy of it, of which two fail. -/
def copied : List Step :=
  [.make .standard, .copy 0, .push 1 "!" "$1", .push 1 "(" "", .make (.pairs [("-", "_"), ("(", "")]),
   .make (.config (.document "replace = [[\"x\", \"y\"]]"))]

theorem rebuilt_after_copied :
    (after copied).map pairs = [standardPairs, standardPairs ++ [("!", "$1")], [("x", "y")]] ∧
    (∃ table ∈ after copied, table.pairs = standardPairs ++ [("!", "$1")] ∧
      (ofPairs table.pairs).result = .ok table ∧
      (∃ config, (Config.ofTable [("replace", .ofPairs table.pairs)] none).result = .ok config ∧
        config.rules = table) ∧
      ∃ config, (Config.ofTable [("replace", .ofPairs table.pairs), ("strict", .boolean true)]
        none).result = .ok config ∧ config.rules = table) ∧
    (Step.push 0 "(" "").result (after copied) = .error (.invalidPattern "(") ∧
    after (copied ++ [.push 0 "(" ""]) = after copied ∧
    ∃ longer, after (copied ++ [.push 0 "%" "_"]) = (after copied).set 0 longer ∧
      longer.pairs = standardPairs ++ [("%", "_")] := by
  obtain ⟨hp, ht, hf, hl⟩ := rebuilt_after copied
  have hc : printed copied = [standardPairs, standardPairs ++ [("!", "$1")], [("x", "y")]] := by
    decide +kernel
  rw [hc] at hp
  obtain ⟨first, rest, ha, h₁, hr⟩ := List.map_eq_cons_iff.mp hp
  obtain ⟨second, rest, rfl, h₂, -⟩ := List.map_eq_cons_iff.mp hr
  have hm : second ∈ after copied := by simp [ha]
  obtain ⟨hs, hn, hk⟩ := ht second hm
  have he : (Step.push 0 "(" "").result (after copied) = .error (.invalidPattern "(") := by
    decide +kernel
  have hx : (after copied)[0]? = some first := by simp [ha]
  obtain ⟨hi, ho⟩ := hl 0 first "%" "_" hx
  refine ⟨hp, ⟨second, hm, h₂, hs, hn none, ?_⟩, he, hf _ _ he, h₁ ▸ ho (hi.mpr (by decide +kernel))⟩
  cases hd : (Config.ofTable [("replace", .ofPairs second.pairs), ("strict", .boolean true)]
    none).result with
  | ok config => exact ⟨config, rfl, (hk _ none rfl rfl).1 config hd⟩
  | error fault =>
    have ho : (Config.ofTable [("replace", .ofPairs (standardPairs ++ [("!", "$1")])),
      ("strict", .boolean true)] none).result.isOk := by decide +kernel
    rw [← h₂, hd] at ho
    cases ho

end RuleTable

end ClassFields
