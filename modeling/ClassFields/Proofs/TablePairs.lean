import ClassFields.RuleTable
import ClassFields.Proofs.Report

/-!
# Tables from pairs

A table of rules has its pairs, and pairs whose patterns compile make the one table that has them
(`ofPairs_eq_ok_iff`). Otherwise the first pattern that does not compile is the fault
(`ofPairs_eq_error_iff`). Pairs put at the end of a table are read as if there were no table
(`pushAll_eq`).
-/

namespace ClassFields

theorem Rule.result_make (pattern replacement : String) : (make pattern replacement).result =
    match Pattern.ofText? pattern with
    | some pattern => .ok ⟨pattern, replacement⟩
    | none => .error (.invalidPattern pattern) := by
  unfold make
  rcases Pattern.ofText? pattern with _ | pattern <;> rfl

namespace Rule

variable {rule : Rule} {pattern replacement : String} {fault : Fault}

theorem make_eq_ok_iff : (make pattern replacement).result = .ok rule ↔
    rule.pattern.text = pattern ∧ rule.replacement = replacement := by
  rw [result_make]
  constructor
  · intro h
    split at h
    · rename_i compiled hc
      cases h
      exact ⟨Pattern.text_of_ofText? hc, rfl⟩
    · cases h
  · rintro ⟨rfl, rfl⟩
    rw [Pattern.ofText?_text]

theorem exists_make_eq_ok_iff :
    (∃ rule, (make pattern replacement).result = .ok rule) ↔ Pattern.ofText? pattern ≠ none := by
  rw [result_make]
  cases Pattern.ofText? pattern with
  | none => simp
  | some compiled => simp

theorem make_eq_error_iff : (make pattern replacement).result = .error fault ↔
    Pattern.ofText? pattern = none ∧ fault = .invalidPattern pattern := by
  rw [result_make]
  cases Pattern.ofText? pattern with
  | none => simp [eq_comm]
  | some compiled => simp

end Rule

namespace RuleTable

theorem pushAll_cons (table : RuleTable) (pattern replacement : String)
    (rest : List (String × String)) : table.pushAll ((pattern, replacement) :: rest) =
      Rule.make pattern replacement >>= fun rule => pushAll ⟨table.rules ++ [rule]⟩ rest := by
  rw [pushAll, push]
  simp only [bind_assoc, pure_bind]

/-- Pairs are put at the end of a table as the rules that they make by themselves. -/
theorem pushAll_eq (table : RuleTable) (pairs : List (String × String)) :
    table.pushAll pairs = (fun more => ⟨table.rules ++ more.rules⟩) <$> ofPairs pairs := by
  induction pairs generalizing table with
  | nil => simp [pushAll, ofPairs, empty]
  | cons pair rest ih =>
    obtain ⟨pattern, replacement⟩ := pair
    rw [ofPairs, pushAll_cons, pushAll_cons, map_bind]
    refine bind_congr fun rule => ?_
    rw [ih, ih ⟨empty.rules ++ [rule]⟩]
    simp [empty]

theorem ofPairs_cons (pattern replacement : String) (rest : List (String × String)) :
    ofPairs ((pattern, replacement) :: rest) = Rule.make pattern replacement >>= fun rule =>
      (fun more => ⟨rule :: more.rules⟩) <$> ofPairs rest := by
  rw [ofPairs, pushAll_cons]
  exact bind_congr fun rule => pushAll_eq _ rest

theorem result_ofPairs_nil : (ofPairs []).result = .ok empty := rfl

theorem result_ofPairs_cons (pattern replacement : String) (rest : List (String × String)) :
    (ofPairs ((pattern, replacement) :: rest)).result =
      (Rule.make pattern replacement).result.bind fun rule =>
        (ofPairs rest).result.map fun more => ⟨rule :: more.rules⟩ := by
  rw [ofPairs_cons, Report.result_bind]
  simp only [Report.result_map]

variable {table : RuleTable} {pairs : List (String × String)} {fault : Fault}

/-- Pairs make the one table that has them. -/
theorem ofPairs_eq_ok_iff : (ofPairs pairs).result = .ok table ↔ table.pairs = pairs := by
  induction pairs generalizing table with
  | nil =>
    obtain ⟨rules⟩ := table
    rw [result_ofPairs_nil, Except.ok.injEq, empty, RuleTable.mk.injEq, eq_comm]
    exact List.map_eq_nil_iff.symm
  | cons pair rest ih =>
    obtain ⟨pattern, replacement⟩ := pair
    rw [result_ofPairs_cons, Except.bind_eq_ok_iff]
    simp only [Rule.make_eq_ok_iff, Except.map_eq_ok_iff]
    constructor
    · rintro ⟨rule, ⟨rfl, rfl⟩, more, hm, rfl⟩
      rw [← ih.mp hm]
      rfl
    · intro hp
      obtain ⟨rules⟩ := table
      obtain ⟨rule, rules, rfl, hr, hm⟩ := List.map_eq_cons_iff.mp hp
      cases hr
      exact ⟨rule, ⟨rfl, rfl⟩, ⟨rules⟩, ih.mpr hm, rfl⟩

/-- A table is determined by its pairs. -/
theorem pairs_inj {other : RuleTable} : table.pairs = other.pairs ↔ table = other := by
  rw [← ofPairs_eq_ok_iff, ofPairs_eq_ok_iff.mpr (rfl : other.pairs = other.pairs),
    Except.ok.injEq, eq_comm]

theorem result_push (table : RuleTable) (pattern replacement : String) :
    (table.push pattern replacement).result =
      (Rule.make pattern replacement).result.map fun rule => ⟨table.rules ++ [rule]⟩ := by
  rw [push, Report.result_bind]
  cases (Rule.make pattern replacement).result <;> rfl

/-- A rule that is put at the end of a table is the table's one new pair. -/
theorem push_eq_ok_iff {longer : RuleTable} {pattern replacement : String} :
    (table.push pattern replacement).result = .ok longer ↔
      longer.pairs = table.pairs ++ [(pattern, replacement)] := by
  rw [result_push, Except.map_eq_ok_iff]
  simp only [Rule.make_eq_ok_iff]
  constructor
  · rintro ⟨rule, ⟨rfl, rfl⟩, rfl⟩
    exact List.map_append
  · intro hp
    obtain ⟨before, last, hr, hb, hl⟩ := List.map_eq_append_iff.mp hp
    obtain ⟨rule, rfl, he⟩ := List.map_eq_singleton_iff.mp hl
    obtain rfl : mk before = table := pairs_inj.mp hb
    cases he
    exact ⟨rule, ⟨rfl, rfl⟩, (congrArg mk hr).symm⟩

theorem exists_push_eq_ok_iff {pattern replacement : String} :
    (∃ longer, (table.push pattern replacement).result = .ok longer) ↔
      Pattern.ofText? pattern ≠ none := by
  rw [result_push, Except.exists_map_eq_ok_iff, Rule.exists_make_eq_ok_iff]

theorem push_eq_error_iff {pattern replacement : String} :
    (table.push pattern replacement).result = .error fault ↔
      Pattern.ofText? pattern = none ∧ fault = .invalidPattern pattern := by
  rw [result_push, Except.map_eq_error_iff, Rule.make_eq_error_iff]

theorem ofPairs_eq_error_iff_firstFault : (ofPairs pairs).result = .error fault ↔
    FirstFault (fun pair => (Rule.make pair.1 pair.2).result) pairs fault := by
  induction pairs with
  | nil => simp [result_ofPairs_nil, not_firstFault_nil]
  | cons pair rest ih =>
    obtain ⟨pattern, replacement⟩ := pair
    rw [result_ofPairs_cons, Except.bind_eq_error_iff, firstFault_cons]
    simp only [Except.map_eq_error_iff, ih, exists_and_right]

/-- The first pattern that does not compile is the fault of all pairs. -/
theorem ofPairs_eq_error_iff : (ofPairs pairs).result = .error fault ↔
    ∃ before pattern replacement after, pairs = before ++ (pattern, replacement) :: after ∧
      (∀ pair ∈ before, Pattern.ofText? pair.1 ≠ none) ∧ Pattern.ofText? pattern = none ∧
      fault = .invalidPattern pattern := by
  rw [ofPairs_eq_error_iff_firstFault, FirstFault]
  simp only [Rule.exists_make_eq_ok_iff, Rule.make_eq_error_iff, Prod.exists]

/-- There is a table with given pairs if all their patterns compile. -/
theorem exists_ofPairs_eq_ok_iff : (∃ table, (ofPairs pairs).result = .ok table) ↔
    ∀ pair ∈ pairs, Pattern.ofText? pair.1 ≠ none := by
  constructor
  · rintro ⟨table, ht⟩ pair hm
    rw [← ofPairs_eq_ok_iff.mp ht] at hm
    obtain ⟨rule, -, rfl⟩ := List.mem_map.mp hm
    rw [Pattern.ofText?_text]
    exact Option.some_ne_none _
  · intro h
    cases hr : (ofPairs pairs).result with
    | ok table => exact ⟨table, rfl⟩
    | error fault =>
      obtain ⟨before, pattern, replacement, after, rfl, -, hn, -⟩ := ofPairs_eq_error_iff.mp hr
      exact absurd hn (h (pattern, replacement) (by simp))

end RuleTable

end ClassFields
