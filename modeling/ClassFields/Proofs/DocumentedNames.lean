import ClassFields.Proofs.FirstProblem
import ClassFields.Proofs.ReservedWords
import ClassFields.Proofs.Spelling
import ClassFields.Proofs.StandardTable
import ClassFields.Proofs.StrictMode

/-!
# Names that the standard table is made for

A name of letters, digits and the signs that the standard table replaces is escaped to a word, and a
word is the name of a field unless it is a low line (`valid_escaped`). So strict generation fails for
such names only where a name is `-` or `_` or where two escaped names are the same
(`generate_standard_iff`).
-/

namespace ClassFields

/-! ## Words -/

namespace FieldName

open Unicode

/-- A text that starts and goes on like an identifier. -/
def Word (text : List Char) : Prop :=
  ∃ c rest, text = c :: rest ∧ isStart c ∧ ∀ d ∈ rest, isXidContinue d

theorem allowed_false_iff {text : List Char} :
    allowed false text ↔ text ≠ ['_'] ∧ isReserved (String.ofList text) = false := by
  simp [allowed]

/-- A word that is allowed is the name of a field, written plainly. -/
theorem valid_of_word {text : List Char} (hw : Word text) (ha : allowed false text) :
    valid (String.ofList text) := by
  have hf : WellFormed ⟨text, false⟩ := ⟨hw, ha⟩
  have hm : afterMark text = text := by
    obtain ⟨c, t, hc, -, -, hb⟩ := written_head hf
    rw [show text = c :: t from hc, afterMark_cons hb]
  have hs : Spells ⟨text, false⟩ text :=
    ⟨hf, [], [], .between, by rw [hm, List.append_nil]; rfl, .between, .between⟩
  rw [valid, String.toList_ofList, read?_eq_some_iff.mpr hs]
  rfl

end FieldName

open FieldName (Word isStart)
open Unicode (isXidContinue isXidStart isDecimalDigit)

/-! ## Reserved words -/

/-- A word that is not a low line is the name of a field once it is not reserved. -/
theorem valid_avoidReserved {text : List Char} (hw : Word text) (hn : text ≠ ['_']) :
    FieldName.valid (avoidReserved (String.ofList text)) := by
  unfold avoidReserved
  split
  · rename_i hr
    obtain ⟨hs, hl⟩ := reserved_suffix hr
    have ha : String.ofList text ++ reservedSuffix = String.ofList (text ++ ['_']) := by
      rw [String.ofList_append]
      rfl
    rw [ha] at hs hl ⊢
    have ht : Word (text ++ ['_']) := by
      obtain ⟨c, rest, rfl, hc, hd⟩ := hw
      refine ⟨c, rest ++ ['_'], rfl, hc, fun d hm => ?_⟩
      rcases List.mem_append.mp hm with hm | hm
      · exact hd d hm
      · rw [List.mem_singleton.mp hm]
        decide
    refine FieldName.valid_of_word ht (FieldName.allowed_false_iff.mpr ⟨fun he => hl ?_, hs⟩)
    rw [he]
  · rename_i hr
    exact FieldName.valid_of_word hw (FieldName.allowed_false_iff.mpr ⟨hn, eq_false_of_ne_true hr⟩)

/-! ## Names -/

namespace RuleTable

/-- A sign is replaced by text that starts and goes on like an identifier. -/
theorem translate_sign {c : Char} (h : c ∈ signs) :
    ∃ d t, translate c = d :: t ∧ isStart d ∧ isDecimalDigit d = false ∧
      ∀ e ∈ d :: t, isXidContinue e := by
  simp only [signs, List.mem_cons, List.not_mem_nil, or_false] at h
  rcases h with rfl | rfl | rfl | rfl | rfl <;>
    exact ⟨_, _, rfl, by decide +kernel, by decide +kernel, List.all_eq_true.mp (by decide +kernel)⟩

/-- A text that starts like an identifier, but for a digit, is made a word. -/
theorem word_inFront {c : Char} {text : List Char} (hc : isStart c ∨ isDecimalDigit c)
    (ht : ∀ d ∈ c :: text, isXidContinue d) : Word (Program.inFront .digit ['_'] (c :: text)) := by
  rw [Program.inFront_cons]
  split
  · exact ⟨'_', c :: text, rfl, by decide, ht⟩
  · rename_i hn
    exact ⟨c, text, rfl, hc.resolve_right hn, fun d hd => ht d (List.mem_cons_of_mem c hd)⟩

/-- The low line in front of a digit is not alone. -/
theorem inFront_eq_lowLine {text : List Char}
    (h : Program.inFront .digit ['_'] text = ['_']) : text = ['_'] := by
  rcases text with _ | ⟨c, text⟩
  · cases h
  rw [Program.inFront_cons] at h
  split at h
  · cases h
  · exact h

theorem translate_ne_nil (c : Char) : translate c ≠ [] := by
  unfold translate
  split <;> nofun

theorem translate_eq_lowLine {c : Char} (h : translate c = ['_']) : c = '-' ∨ c = '_' := by
  unfold translate at h
  split at h
  · exact .inl rfl
  · cases h
  · cases h
  · cases h
  · cases h
  · exact .inr (List.singleton_inj.mp h)

theorem onePass_eq_lowLine {name : String} (h : onePass name = ['_']) : name = "-" ∨ name = "_" := by
  replace h := inFront_eq_lowLine h
  have hn : name = String.ofList name.toList := String.ofList_toList.symm
  rcases he : name.toList with _ | ⟨c, rest⟩
  · rw [he] at h
    cases h
  rw [he, List.flatMap_cons, List.append_eq_singleton_iff] at h
  rcases h with ⟨hc, -⟩ | ⟨hc, hr⟩
  · exact absurd hc (translate_ne_nil c)
  rcases rest with _ | ⟨d, rest⟩
  · rw [hn, he]
    rcases translate_eq_lowLine hc with rfl | rfl
    · exact .inl rfl
    · exact .inr rfl
  · rw [List.flatMap_cons, List.append_eq_nil_iff] at hr
    exact absurd hr.1 (translate_ne_nil d)

end RuleTable

open RuleTable (signs translate onePass)

/-- A class as the standard table expects it. Its name has the characters of identifiers and the signs
that are replaced; it may start with a digit, but with no other character that cannot start an
identifier. Its properties and media queries have no line breaks. -/
structure ClassRecord.Documented (record : ClassRecord) : Prop where
  nonempty : record.name ≠ ""
  chars : ∀ c ∈ record.name.toList, c ∈ signs ∨ isXidContinue c
  first : ∀ c ∈ record.name.toList.head?, c ∈ signs ∨ c = '_' ∨ isXidStart c ∨ isDecimalDigit c
  property : ∀ occurrence ∈ record.properties,
    ∀ c ∈ occurrence.property.toList, c ≠ '\n' ∧ c ≠ '\r'
  media : ∀ occurrence ∈ record.properties, ∀ media ∈ occurrence.media,
    ∀ c ∈ media.toList, c ≠ '\n' ∧ c ≠ '\r'

/-- The same, computed. -/
def ClassRecord.isDocumented (record : ClassRecord) : Bool :=
  record.name != "" && record.name.toList.all (fun c => signs.contains c || isXidContinue c) &&
    record.name.toList.head?.all
      (fun c => signs.contains c || c == '_' || isXidStart c || isDecimalDigit c) &&
    record.properties.all fun occurrence =>
      occurrence.property.toList.all (fun c => c != '\n' && c != '\r') &&
        occurrence.media.all fun media => media.toList.all fun c => c != '\n' && c != '\r'

theorem ClassRecord.documented_of_isDocumented {record : ClassRecord} (h : record.isDocumented) :
    record.Documented := by
  simp only [isDocumented, Bool.and_eq_true, List.all_eq_true, Option.all_eq_true, Bool.or_eq_true,
    bne_iff_ne, beq_iff_eq, List.contains_iff_mem, or_assoc] at h
  obtain ⟨⟨⟨hn, hc⟩, hf⟩, ho⟩ := h
  exact ⟨hn, hc, hf, fun occurrence hm => (ho occurrence hm).1, fun occurrence hm => (ho occurrence hm).2⟩

namespace ClassRecord.Documented

variable {record : ClassRecord}

/-- The rules of the standard table make a word of a documented name. -/
theorem word_onePass (h : record.Documented) : Word (onePass record.name) := by
  obtain ⟨c, rest, hn⟩ : ∃ c rest, record.name.toList = c :: rest :=
    List.exists_cons_of_ne_nil (mt String.toList_eq_nil_iff.mp h.nonempty)
  have hall : ∀ d ∈ record.name.toList.flatMap translate, isXidContinue d := by
    intro d hd
    obtain ⟨e, he, hde⟩ := List.mem_flatMap.mp hd
    by_cases hs : e ∈ signs
    · obtain ⟨f, t, ht, -, -, ha⟩ := RuleTable.translate_sign hs
      exact ha d (ht ▸ hde)
    · rw [RuleTable.translate_of_notMem hs, List.mem_singleton] at hde
      exact hde ▸ (h.chars e he).resolve_left hs
  have hf := h.first c (by rw [hn]; rfl)
  rw [hn, List.flatMap_cons] at hall
  rw [onePass, hn, List.flatMap_cons]
  by_cases hs : c ∈ signs
  · obtain ⟨d, t, ht, hd, -, -⟩ := RuleTable.translate_sign hs
    rw [ht] at hall ⊢
    exact RuleTable.word_inFront (.inl hd) hall
  · rw [RuleTable.translate_of_notMem hs] at hall ⊢
    refine RuleTable.word_inFront ?_ hall
    rcases hf.resolve_left hs with rfl | hx | hx
    · exact .inl (by decide)
    · exact .inl (Bool.or_eq_true_iff.mpr (.inr hx))
    · exact .inr hx

/-- The class that the standard table makes of a record. -/
def escaped (record : ClassRecord) : EscapedClass :=
  ⟨record, (RuleTable.standard.escape record.name).value⟩

/-- A documented name that is not a low line is escaped to the name of a field. -/
theorem valid_escaped (h : record.Documented) (hn : record.name ≠ "-" ∧ record.name ≠ "_") :
    FieldName.valid (escaped record).escaped := by
  rw [escaped, RuleTable.escape_standard]
  refine valid_avoidReserved h.word_onePass fun he => ?_
  rcases RuleTable.onePass_eq_lowLine he with hl | hl
  · exact hn.1 hl
  · exact hn.2 hl

/-- A low line is escaped to itself, and is not the name of a field. -/
theorem escaped_lowLine (hn : record.name = "-" ∨ record.name = "_") :
    (escaped record).escaped = "_" ∧ ¬ FieldName.valid (escaped record).escaped := by
  have hs : ∀ name, name = "-" ∨ name = "_" →
      avoidReserved (String.ofList (onePass name)) = "_" := by
    rintro name (rfl | rfl) <;> decide +kernel
  have hl : (escaped record).escaped = "_" := by
    rw [escaped, RuleTable.escape_standard]
    exact hs _ hn
  refine ⟨hl, ?_⟩
  rw [hl]
  decide +kernel

theorem quotable (h : record.Documented) : (escaped record).Quotable := by
  intro c hc
  have hx : ['"', '\\', '\n', '\r'].all fun d => !(signs.contains d || isXidContinue d) := by
    decide +kernel
  have hd : c ∉ ['"', '\\', '\n', '\r'] := by
    intro hm
    have hs : signs.contains c || isXidContinue c := by simpa using h.chars c hc
    have hn := List.all_eq_true.mp hx c hm
    rw [hs] at hn
    cases hn
  simpa using hd

theorem unbroken (h : record.Documented) : (escaped record).Unbroken :=
  fun occurrence ho =>
    ⟨h.property occurrence ho, fun media hm _ => h.media occurrence ho media hm⟩

theorem valid_iff (h : record.Documented) :
    FieldName.valid (escaped record).escaped ↔ record.name ≠ "-" ∧ record.name ≠ "_" :=
  ⟨fun hv => ⟨fun he => (escaped_lowLine (.inl he)).2 hv, fun he => (escaped_lowLine (.inr he)).2 hv⟩,
    h.valid_escaped⟩

end ClassRecord.Documented

/-! ## Classes -/

open ClassRecord.Documented (escaped)

theorem EscapedClass.value_ofRecordNoted (table : RuleTable) (record : ClassRecord) :
    (ofRecordNoted table record).value = ⟨record, (table.escape record.name).value⟩ := by
  rw [ofRecordNoted, Logged.value_bind]
  split <;> rfl

/-- Escaping names leaves the records and their order. -/
theorem EscapedClass.value_ofRecords (table : RuleTable) (records : List ClassRecord) :
    (ofRecords table records).value =
      records.map fun record => ⟨record, (table.escape record.name).value⟩ := by
  rw [ofRecords]
  induction records with
  | nil => rfl
  | cons record records ih =>
    rw [Logged.each, ih, value_ofRecordNoted]
    rfl

/-- The problem of a documented class is that its name is a low line or its escaped name is taken. -/
theorem Problem.of_documented {before : List EscapedClass} {record : ClassRecord} {fault : Fault}
    (h : record.Documented) (hp : Problem before (escaped record) fault) :
    ((record.name = "-" ∨ record.name = "_") ∧ fault = .invalidFieldName record.name "_") ∨
      ∃ first, fault = .duplicateField (escaped record).escaped first record.name := by
  cases hp with
  | unquotable hq => exact absurd h.quotable hq
  | broken _ hl => exact absurd h.unbroken hl
  | invalid _ _ hv =>
    have hn : record.name = "-" ∨ record.name = "_" := by
      rw [h.valid_iff, Decidable.not_and_iff_or_not, Decidable.not_not, Decidable.not_not] at hv
      exact hv
    exact .inl ⟨hn, congrArg _ (ClassRecord.Documented.escaped_lowLine hn).1⟩
  | taken owner => exact .inr ⟨owner.name, rfl⟩

variable {records : List ClassRecord}

/-- Documented classes are accepted if no name is a low line and the escaped names are different. -/
theorem validate_documented_iff (h : ∀ record ∈ records, record.Documented) :
    validate (records.map escaped) = .ok () ↔
      (∀ record ∈ records, record.name ≠ "-" ∧ record.name ≠ "_") ∧
        (records.map escaped).Pairwise fun a b => a.escaped ≠ b.escaped := by
  rw [validate_eq_ok_iff, List.forall_mem_map]
  refine and_congr_left fun _ => forall_congr' fun record => forall_congr' fun hm => ?_
  rw [EscapedClass.sound_iff, (h record hm).valid_iff]
  simp only [(h record hm).quotable, (h record hm).unbroken, true_and]

theorem validate_documented_error (h : ∀ record ∈ records, record.Documented) {fault : Fault}
    (hv : validate (records.map escaped) = .error fault) :
    (∃ record ∈ records, (record.name = "-" ∨ record.name = "_") ∧
        fault = .invalidFieldName record.name "_") ∨
      ∃ first, ∃ record ∈ records,
        fault = .duplicateField (escaped record).escaped first record.name := by
  obtain ⟨i, hi, -, hp⟩ := (validateFrom_eq_error_iff Owners.hold_nil).mp hv
  rw [List.getElem_map] at hp
  have hl : i < records.length := by simpa using hi
  have hm : records[i] ∈ records := List.getElem_mem hl
  rcases hp.of_documented (h _ hm) with hn | ⟨first, hn⟩
  · exact .inl ⟨_, hm, hn⟩
  · exact .inr ⟨first, _, hm, hn⟩

namespace Config

/-- With the standard table, strict generation succeeds for documented classes if and only if no name
is `-` or `_` and the escaped names are different. Otherwise it fails, at one of those names or at an
escaped name that is taken. -/
theorem generate_standard_iff (config : Config) (records : List ClassRecord)
    (hr : config.rules = .standard) (hs : config.strict = true)
    (hd : ∀ record ∈ records, record.Documented) :
    ((∃ text, (config.generate records).result = .ok text) ↔
      (∀ record ∈ records, record.name ≠ "-" ∧ record.name ≠ "_") ∧
        (config.escape records).value.Pairwise fun a b => a.escaped ≠ b.escaped) ∧
    ∀ fault, (config.generate records).result = .error fault →
      (∃ record ∈ records, (record.name = "-" ∨ record.name = "_") ∧
          fault = .invalidFieldName record.name "_") ∨
        ∃ escaped first second, fault = .duplicateField escaped first second := by
  have hm : config.inMode true = config := by
    rw [inMode, ← hs]
  have he : (config.escape records).value = records.map escaped := by
    rw [Config.escape, hr, EscapedClass.value_ofRecords]
    rfl
  rw [he, ← validate_documented_iff hd]
  rcases hv : validate (records.map escaped) with fault | ⟨⟩
  · obtain ⟨hg, -⟩ := generate_strict_of_error (he ▸ hv)
    rw [hm] at hg
    rw [hg]
    refine ⟨?_, ?_⟩
    · constructor
      · rintro ⟨_, ⟨⟩⟩
      · rintro ⟨⟩
    rintro fault ⟨⟩
    refine (validate_documented_error hd hv).imp_right ?_
    rintro ⟨first, record, -, rfl⟩
    exact ⟨_, _, _, rfl⟩
  · obtain ⟨hg, -⟩ := generate_strict_of_ok (he ▸ hv)
    rw [hm] at hg
    rw [hg]
    refine ⟨⟨fun _ => rfl, fun _ => ⟨_, rfl⟩⟩, ?_⟩
    rintro fault ⟨⟩

/-- The standard configuration, made strict. -/
def strictStandard : Config := { Config.standard with strict := true }

/-- Documented classes: a digit that is not of ASCII at the start, a reserved word, and all signs. -/
def documentedRecords : List ClassRecord :=
  [⟨"\u0663xl:p-4", [⟨"padding: 1rem", some "@media print"⟩]⟩, ⟨"type", []⟩, ⟨"\u00e9/2@x.y", []⟩]

theorem generate_standard_iff_documented :
    (strictStandard.rules = .standard ∧ strictStandard.strict = true ∧
      ∀ record ∈ documentedRecords, record.Documented) ∧
    ((∃ text, (strictStandard.generate documentedRecords).result = .ok text) ↔
      (∀ record ∈ documentedRecords, record.name ≠ "-" ∧ record.name ≠ "_") ∧
        (strictStandard.escape documentedRecords).value.Pairwise
          fun a b => a.escaped ≠ b.escaped) ∧
    ∀ fault, (strictStandard.generate documentedRecords).result = .error fault →
      (∃ record ∈ documentedRecords, (record.name = "-" ∨ record.name = "_") ∧
          fault = .invalidFieldName record.name "_") ∨
        ∃ escaped first second, fault = .duplicateField escaped first second :=
  have hd : ∀ record ∈ documentedRecords, record.Documented := fun record hm =>
    record.documented_of_isDocumented
      (List.all_eq_true.mp (by decide +kernel : documentedRecords.all (·.isDocumented)) record hm)
  ⟨⟨rfl, rfl, hd⟩, generate_standard_iff strictStandard documentedRecords rfl rfl hd⟩

end Config

end ClassFields
