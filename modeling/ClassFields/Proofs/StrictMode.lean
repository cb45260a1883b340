import ClassFields.Generator
import ClassFields.Proofs.Acceptance
import ClassFields.Proofs.Report

/-!
# Strict generation

What `generate` returns and logs in either mode, and how the modes agree
(`strict_agrees_lenient`): without a fault there is no difference, and where strict generation stops
at a duplicate, lenient generation warns of that one first.
-/

namespace ClassFields

/-! ## Entries -/

/-- What lenient generation logs of a duplicate. -/
def Duplicate.warning (duplicate : Duplicate) : LogEntry := ⟨.warn, duplicate.text⟩

/-- What is logged of the module that is made for classes. -/
def GeneratedModule.emitted (classes : List EscapedClass) (lineEnding : LineEnding) : LogEntry :=
  ⟨.debug, emittedText classes.length (text classes lineEnding).utf8ByteSize⟩

/-- An entry that escaping leaves: a rule is skipped, or a name has changed. -/
def EscapeEntry (entry : LogEntry) : Prop :=
  (∃ pattern name fault, entry = ⟨.warn, Rule.skippedText pattern name fault⟩) ∨
    ∃ name escaped, entry = ⟨.debug, EscapedClass.escapedText name escaped⟩

theorem escapeEntry_of_mem_apply {rule : Rule} {name : String} {entry : LogEntry}
    (h : entry ∈ (rule.apply name).entries) : EscapeEntry entry := by
  unfold Rule.apply at h
  split at h
  · cases h
  · exact .inl ⟨_, _, _, List.mem_singleton.mp h⟩

theorem escapeEntry_of_mem_rewrite {rules : List Rule} {name : String} {entry : LogEntry}
    (h : entry ∈ (rules.foldlM (fun name rule => rule.apply name) name : Logged String).entries) :
    EscapeEntry entry := by
  induction rules generalizing name with
  | nil => cases h
  | cons rule rules ih =>
    rw [List.foldlM_cons, Logged.entries_bind] at h
    rcases List.mem_append.mp h with h | h
    · exact escapeEntry_of_mem_apply h
    · exact ih h

theorem escapeEntry_of_mem_ofRecordNoted {table : RuleTable} {record : ClassRecord}
    {entry : LogEntry} (h : entry ∈ (EscapedClass.ofRecordNoted table record).entries) :
    EscapeEntry entry := by
  rw [EscapedClass.ofRecordNoted, Logged.entries_bind] at h
  rcases List.mem_append.mp h with h | h
  · simp only [EscapedClass.ofRecord, RuleTable.escape, RuleTable.rewrite, Logged.entries_bind,
      Logged.entries_pure, List.append_nil] at h
    exact escapeEntry_of_mem_rewrite h
  · split at h
    · exact .inr ⟨_, _, List.mem_singleton.mp h⟩
    · cases h

theorem escapeEntry_of_mem {config : Config} {records : List ClassRecord} {entry : LogEntry}
    (h : entry ∈ (config.escape records).entries) : EscapeEntry entry := by
  rw [Config.escape, EscapedClass.ofRecords] at h
  induction records with
  | nil => cases h
  | cons record records ih =>
    rcases List.mem_append.mp h with h | h
    · exact escapeEntry_of_mem_ofRecordNoted h
    · exact ih h

/-- Entries of different kinds start differently. -/
theorem EscapeEntry.ne_warning {entry : LogEntry} (h : EscapeEntry entry) (duplicate : Duplicate) :
    duplicate.warning ≠ entry := by
  rcases h with ⟨pattern, name, fault, rfl⟩ | ⟨name, escaped, rfl⟩
  · intro he
    have := congrArg (fun e => e.text.toList.head?) he
    unfold Duplicate.warning Duplicate.text Rule.skippedText at this
    simp at this
  · intro he
    have := congrArg LogEntry.level he
    simp [Duplicate.warning] at this

theorem EscapeEntry.ne_emitted {entry : LogEntry} (h : EscapeEntry entry) (fields bytes : Nat) :
    ⟨.debug, GeneratedModule.emittedText fields bytes⟩ ≠ entry := by
  rcases h with ⟨pattern, name, fault, rfl⟩ | ⟨name, escaped, rfl⟩
  · intro he
    have := congrArg LogEntry.level he
    simp at this
  · intro he
    have := congrArg (fun e => e.text.toList[1]?) he
    unfold GeneratedModule.emittedText EscapedClass.escapedText at this
    simp at this

/-! ## Modes -/

namespace Config

/-- A configuration in the strict or the lenient mode. -/
def inMode (config : Config) (strict : Bool) : Config := { config with strict }

variable {config : Config} {records : List ClassRecord}

theorem result_generate_lenient : ((config.inMode false).generate records).result =
    .ok (GeneratedModule.text (config.escape records).value config.lineEnding) := rfl

theorem entries_generate_lenient : ((config.inMode false).generate records).entries =
    (config.escape records).entries ++
      ((duplicates (config.escape records).value).map Duplicate.warning ++
        [GeneratedModule.emitted (config.escape records).value config.lineEnding]) := by
  rw [generate, Report.entries_bind_logged]
  refine congrArg ((config.escape records).entries ++ ·) ?_
  exact (Report.entries_bind_logged _ _).trans (congrArg _ (Report.entries_logged _))

theorem generate_strict_of_ok (h : validate (config.escape records).value = .ok ()) :
    ((config.inMode true).generate records).result =
        .ok (GeneratedModule.text (config.escape records).value config.lineEnding) ∧
      ((config.inMode true).generate records).entries = (config.escape records).entries ++
        [GeneratedModule.emitted (config.escape records).value config.lineEnding] := by
  have he : (config.inMode true).escape records = config.escape records := rfl
  rw [generate, Report.result_bind_logged, Report.entries_bind_logged, he]
  simp only [inMode, if_true, h, Report.bind_ok]
  exact ⟨rfl, congrArg _ (Report.entries_logged _)⟩

theorem generate_strict_of_error {fault : Fault}
    (h : validate (config.escape records).value = .error fault) :
    ((config.inMode true).generate records).result = .error fault ∧
      ((config.inMode true).generate records).entries = (config.escape records).entries := by
  have he : (config.inMode true).escape records = config.escape records := rfl
  rw [generate, Report.result_bind_logged, Report.entries_bind_logged, he]
  simp only [inMode, if_true, h, Report.bind_error]
  exact ⟨rfl, List.append_nil _⟩

/-- Lenient generation always succeeds. If strict generation succeeds, lenient generation returns
and logs the same, and warns of no duplicate. If strict generation fails, it logs what escaping logs
and no module, and if it fails at a duplicate, that is the first one that lenient generation warns
of. -/
theorem strict_agrees_lenient (config : Config) (records : List ClassRecord) :
    let strict := (config.inMode true).generate records
    let lenient := (config.inMode false).generate records
    (∃ text, lenient.result = .ok text) ∧
    (∀ text, strict.result = .ok text →
      lenient.result = .ok text ∧ lenient.entries = strict.entries ∧
        ∀ duplicate : Duplicate, duplicate.warning ∉ lenient.entries) ∧
    (∀ fault, strict.result = .error fault →
      strict.entries = (config.escape records).entries ∧
        ∀ fields bytes, ⟨.debug, GeneratedModule.emittedText fields bytes⟩ ∉ strict.entries) ∧
    (∀ escaped first second, strict.result = .error (.duplicateField escaped first second) →
      ∃ before after,
        lenient.entries = before ++ (Duplicate.mk escaped first second).warning :: after ∧
          ∀ duplicate : Duplicate, duplicate.warning ∉ before) := by
  intro strict lenient
  have hw : ∀ duplicate : Duplicate, duplicate.warning ∉ (config.escape records).entries :=
    fun duplicate hm => (escapeEntry_of_mem hm).ne_warning duplicate rfl
  refine ⟨⟨_, result_generate_lenient⟩, ?_⟩
  rcases hv : validate (config.escape records).value with fault | ⟨⟩
  · obtain ⟨hr, hl⟩ := generate_strict_of_error hv
    refine ⟨fun text ht => ?_, fun fault' _ => ⟨hl, fun fields bytes hm => ?_⟩,
      fun escaped first second hf => ?_⟩
    · cases hr.symm.trans ht
    · exact (escapeEntry_of_mem (hl ▸ hm)).ne_emitted fields bytes rfl
    · cases hr.symm.trans hf
      obtain ⟨more, hd⟩ := duplicatesFrom_of_validateFrom_error hv
      have he : lenient.entries = _ := entries_generate_lenient
      rw [duplicates, hd] at he
      exact ⟨_, _, he, hw⟩
  · obtain ⟨hr, hl⟩ := generate_strict_of_ok hv
    refine ⟨fun text ht => ?_, fun fault hf => ?_, fun escaped first second hf => ?_⟩
    · have hd : lenient.entries = strict.entries := by
        rw [show lenient.entries = _ from entries_generate_lenient, duplicates,
          duplicatesFrom_of_validateFrom_ok hv, List.map_nil, List.nil_append, ← hl]
      refine ⟨ht ▸ hr ▸ result_generate_lenient, hd, fun duplicate hm => ?_⟩
      rw [hd, hl] at hm
      rcases List.mem_append.mp hm with hm | hm
      · exact hw duplicate hm
      · have := congrArg LogEntry.level (List.mem_singleton.mp hm)
        simp [Duplicate.warning, GeneratedModule.emitted] at this
    · cases hr.symm.trans hf
    · cases hr.symm.trans hf

end Config

end ClassFields
