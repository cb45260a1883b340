import ClassFields.RuleTable
import ClassFields.Proofs.MatchSlots
import ClassFields.Proofs.OpenedGroups
import ClassFields.Proofs.Report
import ClassFields.Proofs.StandardTable
import ClassFields.Proofs.TemplateReading

/-!
# The report of missing groups

A rule reports the references that its pattern has no group for, and expansion looks references up
in a match. In a clear template the two see the same references. If the report can be made at all
(`Template.Told`), those that expansion does not find are then all reported, and nothing else is
unless a number is miscounted (`Template.miscounted`): the report goes by how many groups can take
part, and does not look for a number among the names.
-/

namespace ClassFields

/-- Whether a match has a group, which has two slots. -/
def Match.hasGroup (found : Match) (i : Nat) : Bool := 2 * i + 1 < found.slots.length

theorem Match.hasGroup_of_group? {found : Match} {i : Nat} {taken : List Char}
    (h : found.group? i = some taken) : found.hasGroup i := by
  obtain ⟨span, hs, -⟩ := Option.map_eq_some_iff.mp h
  unfold Slots.span? at hs
  split at hs
  · rename_i hi hh
    have hl : 2 * i + 1 < found.slots.length := by
      refine Nat.lt_of_not_le fun hl => ?_
      rw [Slots.at?, List.getD_eq_getElem?_getD, List.getElem?_eq_none hl] at hh
      cases hh
    exact decide_eq_true hl
  · cases hs

namespace Template

variable {names : List (String × Nat)} {found : Match} {name template : List Char}
  {program : Program}

/-- Whether expansion finds a group in a match, by name or else by number. -/
def finds (names : List (String × Nat)) (found : Match) (name : List Char) : Bool :=
  (names.lookup (String.ofList name)).any found.hasGroup || (index? name).any found.hasGroup

/-- The groups that expansion looks up in a match and does not find, in order and with repeats. -/
def unfound (names : List (String × Nat)) (found : Match) (template : List Char) :
    List (List Char) :=
  (lookups template).filter fun name => !finds names found name

/-- Whether it can be told if a pattern lacks the group of a reference: it is a number, or the groups
that have names are counted. -/
def Told (program : Program) (name : List Char) : Prop :=
  (index? name).isSome ∨ program.namesCounted

instance (program : Program) (name : List Char) : Decidable (Told program name) :=
  inferInstanceAs (Decidable (_ ∨ _))

/-- Whether the report takes a group for missing that a match has: a number that is not below the
number of groups that can take part, though the match has that many groups or the group of that name. -/
def miscounted (program : Program) (name : List Char) : Bool :=
  (index? name).any fun i => program.groupCount ≤ i &&
    (i ≤ program.lastGroup || (program.names.lookup (String.ofList name)).any (· ≤ program.lastGroup))

/-- What is not found took nothing. -/
theorem lookUp?_eq_none (h : finds names found name = false) : lookUp? names found name = none := by
  obtain ⟨hn, hi⟩ := Bool.or_eq_false_iff.mp h
  have none_of {o : Option Nat} (ho : o.any found.hasGroup = false) : o.bind found.group? = none := by
    cases o with
    | none => rfl
    | some i =>
      refine Option.eq_none_iff_forall_ne_some.mpr fun taken ht => ?_
      rw [Option.any_some, Match.hasGroup_of_group? ht] at ho
      cases ho
  rw [lookUp?, none_of hn, none_of hi, Option.or_none]

/-! ## The references of which it can be told -/

/-- Whether a pattern lacks the group of a reference, where that can be told. -/
def lacks (program : Program) (name : List Char) : Bool := (lacks? program name).getD false

theorem lacks?_eq_some_iff : lacks? program name = some (lacks program name) ↔
    Told program name := by
  unfold lacks lacks? Told
  cases index? name with
  | some i => simp
  | none => cases program.namesCounted <;> simp

theorem lacks?_eq_none_iff : lacks? program name = none ↔ ¬ Told program name := by
  rw [← lacks?_eq_some_iff, lacks]
  cases lacks? program name <;> simp

/-- The report has what is lacked, and can be made if that can be told of each reference. -/
theorem missingOf?_eq_some_iff {names missing : List (List Char)} :
    missingOf? program names = some missing ↔
      (∀ name ∈ names, Told program name) ∧ names.filter (lacks program) = missing := by
  induction names generalizing missing with
  | nil => simp [missingOf?]
  | cons name names ih =>
    rw [missingOf?, List.forall_mem_cons, List.filter_cons]
    by_cases ht : Told program name
    · rw [lacks?_eq_some_iff.mpr ht]
      simp only [Option.bind_eq_bind, Option.bind_some, Option.bind_eq_some_iff, ih, ht, true_and]
      constructor
      · rintro ⟨others, ⟨hn, rfl⟩, ho⟩
        exact ⟨hn, by simpa using ho⟩
      · rintro ⟨hn, ho⟩
        exact ⟨_, ⟨hn, rfl⟩, by simpa using ho⟩
    · rw [lacks?_eq_none_iff.mpr ht]
      simp [ht]

theorem missing?_eq_none_iff : missing? program template = none ↔
    ∃ name ∈ references template, ¬ Told program name := by
  constructor
  · intro h
    by_contra hn
    have hn : ∀ name ∈ references template, Told program name := by simpa using hn
    have hs : missing? program template = some _ := missingOf?_eq_some_iff.mpr ⟨hn, rfl⟩
    rw [h] at hs
    cases hs
  · rintro ⟨name, hm, ht⟩
    exact Option.eq_none_iff_forall_ne_some.mpr fun missing h =>
      ht ((missingOf?_eq_some_iff.mp h).1 name hm)

/-! ## Groups of a pattern and of its matches -/

theorem hasGroup_eq (hl : found.slots.length = 2 * program.lastGroup + 2) :
    found.hasGroup = fun i => decide (i ≤ program.lastGroup) := by
  funext i
  rw [Match.hasGroup, hl, decide_eq_decide]
  omega

theorem any_fst_eq (names : List (String × Nat)) (name : String) :
    names.any (·.1 == name) = (names.lookup name).isSome := by
  induction names with
  | nil => rfl
  | cons pair names ih =>
    obtain ⟨other, i⟩ := pair
    rw [List.any_cons, ih, List.lookup_cons]
    by_cases h : name = other
    · simp [h]
    · simp [beq_eq_false_iff_ne.mpr h, beq_eq_false_iff_ne.mpr (Ne.symm h)]

section

variable {text : List Char} (hc : Program.compile? text = some program)
  (hl : found.slots.length = 2 * program.lastGroup + 2)

include hc hl

/-- A match has every named group, if they are all counted. -/
theorem any_lookup_hasGroup (hn : program.namesCounted) (name : String) :
    (program.names.lookup name).any found.hasGroup = (program.names.lookup name).isSome := by
  cases hs : program.names.lookup name with
  | none => rfl
  | some i =>
    obtain ⟨front, back, hf, -⟩ := List.lookup_eq_some_iff.mp hs
    have hi : i < program.groupCount :=
      of_decide_eq_true (List.all_eq_true.mp hn (name, i) (by simp [hf]))
    have hg := Program.groupCount_le hc
    rw [hasGroup_eq hl, Option.any_some, decide_eq_true (by omega), Option.isSome_some]

/-- The report is right about a reference unless it is miscounted. -/
theorem lacks_eq_iff (ht : Told program name) :
    lacks program name = !finds program.names found name ↔ miscounted program name = false := by
  have hg := Program.groupCount_le hc
  unfold lacks lacks? finds miscounted
  cases hi : index? name with
  | none =>
    have hn : program.namesCounted := by simpa [Told, hi] using ht
    simp [hn, any_lookup_hasGroup hc hl hn, any_fst_eq]
  | some i =>
    rw [hasGroup_eq hl]
    simp only [Option.getD_some, Option.any_some]
    by_cases hi : program.groupCount ≤ i
    · cases (program.names.lookup (String.ofList name)).any fun i => decide (i ≤ program.lastGroup)
      · by_cases ho : i ≤ program.lastGroup <;> simp [hi, ho]
      · simp [hi]
    · have ho : i ≤ program.lastGroup := by omega
      simp [hi, ho]

omit hc in
/-- What is miscounted is reported, and found. -/
theorem lacks_and_finds_of_miscounted (h : miscounted program name) :
    lacks program name ∧ finds program.names found name := by
  obtain ⟨i, hi, hm⟩ := (Option.any_eq_true ..).mp h
  obtain ⟨hg, ho⟩ := Bool.and_eq_true_iff.mp hm
  refine ⟨by simpa only [lacks, lacks?, hi, Option.getD_some] using hg, ?_⟩
  rw [finds, hasGroup_eq hl, hi, Option.any_some, Bool.or_comm]
  exact ho

theorem lacks_of_not_finds (ht : Told program name) (h : finds program.names found name = false) :
    lacks program name := by
  have hm : miscounted program name = false := Bool.eq_false_iff.mpr fun hm => by
    rw [(lacks_and_finds_of_miscounted hl hm).2] at h
    cases h
  rw [(lacks_eq_iff hc hl ht).mpr hm, h, Bool.not_false]

/-- In a clear template, what a match does not have is reported, if a report can be made. -/
theorem unfound_sublist (ht : Clear template) {missing : List (List Char)}
    (hm : missing? program template = some missing) :
    (unfound program.names found template).Sublist missing := by
  obtain ⟨hn, rfl⟩ := missingOf?_eq_some_iff.mp hm
  rw [ht.references_eq] at hn ⊢
  have hu : unfound program.names found template =
      ((lookups template).filter (lacks program)).filter fun name => !finds program.names found name := by
    rw [List.filter_filter]
    refine List.filter_congr fun name hm => ?_
    cases hf : finds program.names found name with
    | false => simp [lacks_of_not_finds hc hl (hn name hm) hf]
    | true => simp
  rw [hu]
  exact List.filter_sublist

theorem missing?_eq_unfound_iff (ht : Clear template) :
    missing? program template = some (unfound program.names found template) ↔
      ∀ name ∈ lookups template, Told program name ∧ miscounted program name = false := by
  rw [missing?, missingOf?_eq_some_iff, ht.references_eq, unfound]
  constructor
  · -- a miscounted name would be in the first list only
    rintro ⟨hn, h⟩ name hm
    refine ⟨hn name hm, Bool.eq_false_iff.mpr fun hn => ?_⟩
    obtain ⟨hlacks, hfinds⟩ := lacks_and_finds_of_miscounted hl hn
    have hu := h ▸ List.mem_filter.mpr ⟨hm, hlacks⟩
    rw [List.mem_filter, hfinds] at hu
    cases hu.2
  · intro h
    exact ⟨fun name hm => (h name hm).1, List.filter_congr fun name hm =>
      (lacks_eq_iff hc hl (h name hm).1).mpr (h name hm).2⟩

end

end Template

namespace Rule

open Template

/-- The references that expansion looks up in a match and does not find. -/
def unfound (rule : Rule) (found : Match) : List String :=
  (Template.unfound rule.pattern.program.names found rule.replacement.toList).map String.ofList

theorem entries_make (rule : Rule) :
    (make rule.pattern.text rule.replacement).entries = rule.warnings := by
  rw [make, Pattern.ofText?_text]
  exact (Report.entries_bind_logged (Logged.notes rule.warnings) _).trans (List.append_nil _)

/-- The check and expansion see the same references exactly in clear templates. In those, the report
is what a match does not have exactly if of each reference it can be told whether it is missing and
none is miscounted, and a report always has all that a match does not have. There is no report exactly
if of some reference it cannot be told. What a match does not have becomes nothing, and what is
reported is logged when the rule is made. -/
theorem missingGroups_eq_unfound_iff (rule : Rule) (found : Match) {spot : Spot} {steppedOver : Bool}
    (hf : rule.pattern.program.search spot steppedOver = .matched found.slots) :
    (references rule.replacement.toList = lookups rule.replacement.toList ↔
        Clear rule.replacement.toList) ∧
      (Clear rule.replacement.toList →
        (rule.missingGroups? = some (rule.unfound found) ↔
            ∀ name ∈ lookups rule.replacement.toList, Told rule.pattern.program name ∧
              miscounted rule.pattern.program name = false) ∧
          ∀ missing, rule.missingGroups? = some missing → (rule.unfound found).Sublist missing) ∧
      (rule.missingGroups? = none ↔
        ∃ name ∈ references rule.replacement.toList, ¬ Told rule.pattern.program name) ∧
      (∀ name ∈ Template.unfound rule.pattern.program.names found rule.replacement.toList,
        (Piece.group name).expand rule.pattern.program.names found = []) ∧
      (make rule.pattern.text rule.replacement).entries = rule.warnings := by
  have hl : found.slots.length = 2 * rule.pattern.program.lastGroup + 2 := Program.length_of_search hf
  have hc := rule.pattern.compiled
  refine ⟨references_eq_lookups_iff, fun ht => ⟨?_, ?_⟩, ?_, fun name hm => ?_, rule.entries_make⟩
  · rw [← missing?_eq_unfound_iff hc hl ht, missingGroups?, Option.map_eq_some_iff]
    constructor
    · rintro ⟨names, hn, he⟩
      rwa [(List.map_inj_right fun _ _ => String.ofList_inj.mp).mp he] at hn
    · exact fun h => ⟨_, h, rfl⟩
  · rintro missing hm
    obtain ⟨names, hn, rfl⟩ := Option.map_eq_some_iff.mp hm
    exact (unfound_sublist hc hl ht hn).map _
  · rw [missingGroups?, Option.map_eq_none_iff, missing?_eq_none_iff]
  · have hn : finds rule.pattern.program.names found name = false := by
      simpa using (List.mem_filter.mp hm).2
    rw [Piece.expand, lookUp?_eq_none hn, Option.getD_none]

/-- The pattern `a` has no group but the match. -/
theorem missingGroups_eq_unfound_iff_single :
    ∃ (rule : Rule) (found : Match), rule.pattern.text = "a" ∧ rule.replacement = "$0$1" ∧
      rule.pattern.program.search (.start ['a']) false = .matched found.slots ∧
      rule.missingGroups? = some (rule.unfound found) ∧ rule.missingGroups? = some ["1"] := by
  let rule := groupless "a" "$0$1" (Program.only 'a') (by decide +kernel)
  let found : Match := ⟨['a'], [some 0, some 1]⟩
  have hf : rule.pattern.program.search (.start ['a']) false = .matched found.slots := rfl
  have ht : Clear rule.replacement.toList := by decide +kernel
  have hm : ∀ name ∈ lookups rule.replacement.toList,
      Told rule.pattern.program name ∧ miscounted rule.pattern.program name = false := by
    decide +kernel
  have hr := ((missingGroups_eq_unfound_iff rule found hf).2.1 ht).1.mpr hm
  exact ⟨rule, found, rfl, rfl, hf, hr, by decide +kernel⟩

/-- The pattern `a` and the replacement `$0é`. -/
def accented : Rule := groupless "a" "$0é" (Program.only 'a') (by decide +kernel)

/-- Expansion looks up a group `0é`, which there is not, and the check sees group zero. -/
theorem accented_unreported :
    accented.pattern.program.search (.start ['a']) false = .matched [some 0, some 1] ∧
      accented.missingGroups? = some [] ∧ accented.unfound ⟨['a'], [some 0, some 1]⟩ = ["0é"] ∧
      accented.rewrite "a" = .ok "" := by
  refine ⟨rfl, ?_, ?_, ?_⟩
  · decide +kernel
  · decide +kernel
  · decide +kernel

end Rule

end ClassFields
