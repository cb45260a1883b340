import Mathlib.Control.Monad.Basic
import ClassFields.RuleTable
import ClassFields.Proofs.Report
import ClassFields.Proofs.SearchCost
import ClassFields.Proofs.StandardTable
import ClassFields.Proofs.Unanswered

/-!
# Rules that are skipped

A rule gives up on a text if any of the searches for its matches has no answer, for whatever reason
and however many matches there were before (`Rule.GivesUp`). It then leaves the text as it is and
warns once (`Rule.apply_of_givesUp`), so that a table does without the rule what it does with it, and
the log has one warning for each rule that gives up, in the order of the table
(`RuleTable.escape_without_skipped`). A pattern that can take each character in two ways gives up on
short names (`RuleTable.givesUp_slowRule`), and one that finds nothing again and again gives up on
any name (`RuleTable.givesUp_deepRule`).
-/

namespace ClassFields

namespace Rule

variable {rule : Rule} {name : String} {fault : SearchFault}

/-- A rule gives up on a name: of the searches for matches of its pattern, one has no answer. -/
def GivesUp (rule : Rule) (name : String) (fault : SearchFault) : Prop :=
  ∃ n, rule.pattern.program.Unanswered (!rule.replacement.toList.contains '$') fault n
    (.start name.toList) false

theorem rewrite_eq_error_iff : rule.rewrite name = .error fault ↔ rule.GivesUp name fault := by
  rw [rewrite, Except.map_eq_error_iff]
  exact Program.rewrite_eq_error_iff

instance (rule : Rule) (name : String) (fault : SearchFault) : Decidable (rule.GivesUp name fault) :=
  decidable_of_iff _ rewrite_eq_error_iff

/-- The reasons for which a rule gives up on a name: one, or none if it does not give up. -/
def faults (rule : Rule) (name : String) : List SearchFault :=
  SearchFault.all.filter fun fault => rule.GivesUp name fault

theorem faults_of_givesUp (h : rule.GivesUp name fault) : rule.faults name = [fault] := by
  have hu (other : SearchFault) : rule.GivesUp name other ↔ fault = other := by
    rw [← rewrite_eq_error_iff, rewrite_eq_error_iff.mpr h, Except.error.injEq]
  unfold faults SearchFault.all
  simp only [hu]
  cases fault <;> rfl

theorem faults_of_rewrite {result : String} (h : rule.rewrite name = .ok result) :
    rule.faults name = [] := by
  have hn (other : SearchFault) : ¬ rule.GivesUp name other := by
    rw [← rewrite_eq_error_iff, h]
    nofun
  simp [faults, hn]

/-- What is logged of a rule that gives up on a name: its pattern, the name before the rule and the
reason. -/
def skipWarning (rule : Rule) (name : String) (fault : SearchFault) : LogEntry :=
  ⟨.warn, skippedText rule.pattern.text name fault⟩

/-- A rule that gives up on a name leaves it as it is and warns once. -/
theorem apply_of_givesUp (h : rule.GivesUp name fault) :
    rule.apply name = ⟨[rule.skipWarning name fault], name⟩ := by
  rw [apply, rewrite_eq_error_iff.mpr h]
  rfl

theorem entries_apply (rule : Rule) (name : String) :
    (rule.apply name).entries = (rule.faults name).map (rule.skipWarning name) := by
  cases h : rule.rewrite name with
  | ok result =>
    rw [apply, h, faults_of_rewrite h]
    rfl
  | error fault =>
    have hg : rule.GivesUp name fault := rewrite_eq_error_iff.mp h
    rw [apply_of_givesUp hg, faults_of_givesUp hg]
    rfl

end Rule

namespace RuleTable

/-! ## Parts of a table -/

variable {before : List Rule} {rule : Rule} {name : String} {fault : SearchFault} {i : Nat}

theorem rewrite_cons (rule : Rule) (rules : List Rule) (name : String) :
    (mk (rule :: rules)).rewrite name = rule.apply name >>= (mk rules).rewrite := rfl

/-- The rules of a table go on with what the rules before them have made of a name. -/
theorem rewrite_append (before after : List Rule) (name : String) :
    (mk (before ++ after)).rewrite name = (mk before).rewrite name >>= (mk after).rewrite :=
  List.foldlM_append

/-- The text that reaches the rule at a position of a table: what the rules before it make of a
name. -/
def reaching (table : RuleTable) (name : String) (i : Nat) : String :=
  ((mk (table.rules.take i)).rewrite name).value

theorem reaching_zero (table : RuleTable) (name : String) : table.reaching name 0 = name := rfl

theorem reaching_cons (rule : Rule) (rules : List Rule) (name : String) (i : Nat) :
    (mk (rule :: rules)).reaching name (i + 1) = (mk rules).reaching (rule.apply name).value i := rfl

/-- A table without the rule at a position. -/
def without (table : RuleTable) (i : Nat) : RuleTable := ⟨table.rules.eraseIdx i⟩

/-! ## The log -/

/-- What is logged of the rules that give up on the text that reaches them, in order. -/
def skipWarnings (table : RuleTable) (name : String) : List LogEntry :=
  table.rules.zipIdx.flatMap fun (rule, i) =>
    (rule.faults (table.reaching name i)).map (rule.skipWarning (table.reaching name i))

theorem skipWarnings_cons (rule : Rule) (rules : List Rule) (name : String) :
    (mk (rule :: rules)).skipWarnings name =
      (rule.faults name).map (rule.skipWarning name) ++
        (mk rules).skipWarnings (rule.apply name).value := by
  have hz : (mk (rule :: rules)).rules.zipIdx =
      (rule, 0) :: rules.zipIdx.map fun place => (place.1, place.2 + 1) := by
    rw [List.zipIdx_cons, List.zipIdx_succ]
  unfold skipWarnings
  rw [hz, List.flatMap_cons, List.flatMap_map]
  simp only [reaching_zero, reaching_cons]

theorem entries_rewrite (rules : List Rule) (name : String) :
    ((mk rules).rewrite name).entries = (mk rules).skipWarnings name := by
  induction rules generalizing name with
  | nil => rfl
  | cons rule rules ih =>
    rw [rewrite_cons, Logged.entries_bind, ih, skipWarnings_cons, Rule.entries_apply]

/-! ## Tables without a rule -/

theorem rules_eq_of_getElem? {table : RuleTable} (h : table.rules[i]? = some rule) :
    table.rules = table.rules.take i ++ rule :: table.rules.drop (i + 1) := by
  obtain ⟨hi, rfl⟩ := List.getElem?_eq_some_iff.mp h
  rw [← List.drop_eq_getElem_cons hi, List.take_append_drop]

/-- What reaches the next rule is what a rule makes of the text that reaches it. -/
theorem reaching_succ {table : RuleTable} (h : table.rules[i]? = some rule) (name : String) :
    table.reaching name (i + 1) = (rule.apply (table.reaching name i)).value := by
  obtain ⟨hi, rfl⟩ := List.getElem?_eq_some_iff.mp h
  rw [reaching, List.take_succ_eq_append_getElem hi, rewrite_append, Logged.value_bind]
  rfl

/-- Rules make the same of a name without one that gives up, and leave the same log but for the warning
of that rule. -/
theorem rewrite_append_cons {text : String} (after : List Rule)
    (ht : ((mk before).rewrite name).value = text) (h : rule.GivesUp text fault) :
    ((mk (before ++ rule :: after)).rewrite name).value =
        ((mk (before ++ after)).rewrite name).value ∧
      ((mk (before ++ rule :: after)).rewrite name).entries =
        ((mk before).rewrite name).entries ++
          rule.skipWarning text fault :: ((mk after).rewrite text).entries ∧
      ((mk (before ++ after)).rewrite name).entries =
        ((mk before).rewrite name).entries ++ ((mk after).rewrite text).entries := by
  have hr : (mk (rule :: after)).rewrite text =
      ⟨rule.skipWarning text fault :: ((mk after).rewrite text).entries,
        ((mk after).rewrite text).value⟩ := by
    rw [rewrite_cons, Rule.apply_of_givesUp h]
    rfl
  rw [rewrite_append, rewrite_append]
  simp only [Logged.value_bind, Logged.entries_bind, ht, hr, and_self]

theorem entries_escape (table : RuleTable) (name : String) :
    (table.escape name).entries = (table.rewrite name).entries := by
  rw [escape, Logged.entries_bind, Logged.entries_pure, List.append_nil]

/-! ## Rules that give up -/

/-- Matches a sign, or a run of a letter with another one after it, for which it takes each letter in
two ways. -/
def slowPlan : Plan :=
  .group 0 (.alt (.regular (.one (.single '-')))
    (.seq .empty (.seq (.many (.twoWays (.single 'x')) 0 none true false)
      (.seq (.ahead false (.regular (.one (.single 'y')))) .empty))))

/-- A rule that replaces what the slow plan matches. -/
def slowRule : Rule :=
  ⟨⟨"-|(?:x|x)*(?=y)", ⟨.backtracking slowPlan false, 1, 0, []⟩, by decide +kernel⟩, "_"⟩

/-- A run of the letter with nothing after it is more than the budget allows. -/
theorem search_slowRule {n : Nat} (hn : 18 ≤ n) (hm : 2 * n + 4 ≤ maxPending) (index : Nat)
    (before : List Char) (steppedOver : Bool) :
    slowRule.pattern.program.search ⟨index, before, List.replicate n 'x'⟩ steppedOver =
      .failed .tooManyGivenUp := by
  have hb (c : Char) (hc : (CharClass.single c).contains 'x' = false) (m : Nat) :
      ∀ d ∈ List.replicate m 'x', (CharClass.single c).contains d = false := by
    intro d hd
    rw [List.eq_of_mem_replicate hd, hc]
  have hs (rest : Rest) (thread : Thread) (m : Nat) (h : thread.spot.after = List.replicate m 'x') :
      Costs ((Plan.seq (.ahead false (.regular (.one (.single 'y')))) .empty).run ⟨index, steppedOver⟩
        rest thread) 0 0 := by
    rw [Plan.run, Plan.run, Plan.run_regular_one_eq_fail (h ▸ hb 'y' (by decide) m)]
    exact .fail
  have hp : Costs (slowPlan.run ⟨index, steppedOver⟩ .done
      ⟨⟨index, before, List.replicate n 'x'⟩, Slots.unset 0⟩) (2 * n + 2 + 1)
      (0 + 1 + (4 * Nat.pow 2 n - 2)) := by
    rw [slowPlan, Plan.run, Plan.run, Plan.run_regular_one_eq_fail (hb '-' (by decide) n)]
    exact .orElse .fail (Plan.costs_many_twoWays (by decide) (hs _) rfl)
  have hc : Program.budget < 0 + 1 + (4 * Nat.pow 2 n - 2) := by
    have hn : 2 ^ 18 ≤ Nat.pow 2 n := Nat.pow_le_pow_right Nat.two_pos hn
    unfold Program.budget
    omega
  exact Program.search_of_costs rfl hp (by omega) hc

/-- A sign is replaced before the search that has no answer. -/
theorem givesUp_slowRule {n : Nat} (hn : 18 ≤ n) (hm : 2 * n + 4 ≤ maxPending) :
    slowRule.GivesUp (String.ofList ('-' :: List.replicate n 'x')) .tooManyGivenUp := by
  refine ⟨2, ?_⟩
  rw [String.toList_ofList]
  have hf (after : List Char) : slowRule.pattern.program.search (.start ('-' :: after)) false =
      .matched [some 0, some 1] := rfl
  exact .later (hf _) rfl (.now (search_slowRule hn hm 1 ['-'] _))

/-- Looks ahead, again and again, at a run of a letter that may be empty. -/
def deepPlan : Plan :=
  .group 0 (.many (.group 1 (.ahead false (.regular (.many (.one (.single 'x')) 0 none true)))) 0
    (some 1000001) true false)

/-- A rule that replaces what the deep plan matches. -/
def deepRule : Rule :=
  ⟨⟨"((?=x*)){0,1000001}", ⟨.backtracking deepPlan false, 2, 1, []⟩, by decide +kernel⟩, "_"⟩

/-- At any place the letter is there some number of times, so that rounds go on until there is no room
for another pending way. -/
theorem search_deepRule (spot : Spot) (steppedOver : Bool) :
    deepRule.pattern.program.search spot steppedOver = .failed .tooManyPending := by
  have hg : (Plan.group 1 (.ahead false (.regular (.many (.one (.single 'x')) 0 none true)))).GoesOn :=
    (Plan.goesOn_regular (Plan.threads_zeroOrMore_ne_nil _ true)).ahead.group 1
  have hf (thread : Thread) : 999999 < Plan.roundLimit 0 (some 1000001) thread :=
    show 999999 < 1000001 + 1 by decide
  have hp : Overflows (deepPlan.run ⟨spot.index, steppedOver⟩ .done ⟨spot, Slots.unset 1⟩) 999999 := by
    rw [deepPlan, Plan.run, Plan.run]
    exact Plan.overflows_rounds hg (hf _) (Nat.le_refl 0) (by decide) none
  exact Program.search_of_overflows rfl hp (by decide)

theorem givesUp_deepRule (name : String) : deepRule.GivesUp name .tooManyPending :=
  ⟨1, .now (search_deepRule _ _)⟩

/-! ## Skipping -/

/-- The log of escaping a name has one warning for each rule that gives up on the text that reaches
it, in the order of the table, with the pattern of the rule, that text and the reason, and nothing
else. A rule that gives up passes on the text that reaches it, and the table without the rule makes
the same of the name and leaves the same log but for that warning. -/
theorem escape_without_skipped (table : RuleTable) (name : String) :
    (table.escape name).entries = table.skipWarnings name ∧
    ∀ i rule text fault, table.rules[i]? = some rule → table.reaching name i = text →
      rule.GivesUp text fault →
      table.reaching name (i + 1) = text ∧
      (table.escape name).value = ((table.without i).escape name).value ∧
      (table.escape name).entries = (mk (table.rules.take i)).skipWarnings name ++
        rule.skipWarning text fault :: (mk (table.rules.drop (i + 1))).skipWarnings text ∧
      ((table.without i).escape name).entries = (mk (table.rules.take i)).skipWarnings name ++
        (mk (table.rules.drop (i + 1))).skipWarnings text := by
  refine ⟨(entries_escape table name).trans (entries_rewrite table.rules name), ?_⟩
  intro i rule text fault hi ht h
  obtain ⟨hv, hl, hw⟩ := rewrite_append_cons (table.rules.drop (i + 1)) ht h
  rw [← rules_eq_of_getElem? hi] at hv hl
  rw [← List.eraseIdx_eq_take_drop_succ] at hv hw
  rw [entries_rewrite (table.rules.take i), entries_rewrite (table.rules.drop (i + 1)),
    ← entries_escape] at hl hw
  refine ⟨?_, congrArg avoidReserved hv, hl, hw⟩
  rw [reaching_succ hi, ht, Rule.apply_of_givesUp h]

/-- A table with two rules that give up between two others. -/
def stuckTable : RuleTable :=
  ⟨[.groupless ";" "-" (Program.only ';') (by decide +kernel), slowRule, deepRule,
    .groupless "x" "z" (Program.only 'x') (by decide +kernel)]⟩

theorem escape_stuckTable :
    stuckTable.rules[1]? = some slowRule ∧ stuckTable.rules[2]? = some deepRule ∧
    stuckTable.reaching ";xxxxxxxxxxxxxxxxxx" 1 = "-xxxxxxxxxxxxxxxxxx" ∧
    slowRule.GivesUp "-xxxxxxxxxxxxxxxxxx" .tooManyGivenUp ∧
    stuckTable.reaching ";xxxxxxxxxxxxxxxxxx" 2 = "-xxxxxxxxxxxxxxxxxx" ∧
    deepRule.GivesUp "-xxxxxxxxxxxxxxxxxx" .tooManyPending ∧
    stuckTable.reaching ";xxxxxxxxxxxxxxxxxx" 3 = "-xxxxxxxxxxxxxxxxxx" ∧
    (stuckTable.escape ";xxxxxxxxxxxxxxxxxx").value = "-zzzzzzzzzzzzzzzzzz" ∧
    (stuckTable.escape ";xxxxxxxxxxxxxxxxxx").entries =
      [slowRule.skipWarning "-xxxxxxxxxxxxxxxxxx" .tooManyGivenUp,
       deepRule.skipWarning "-xxxxxxxxxxxxxxxxxx" .tooManyPending] := by
  have hr : stuckTable.reaching ";xxxxxxxxxxxxxxxxxx" 1 = "-xxxxxxxxxxxxxxxxxx" := by
    decide +kernel
  have hn : String.ofList ('-' :: List.replicate 18 'x') = "-xxxxxxxxxxxxxxxxxx" := by
    decide +kernel
  have hg : slowRule.GivesUp "-xxxxxxxxxxxxxxxxxx" .tooManyGivenUp := by
    rw [← hn]
    exact givesUp_slowRule (Nat.le_refl 18) (by decide)
  have hd : deepRule.GivesUp "-xxxxxxxxxxxxxxxxxx" .tooManyPending := givesUp_deepRule _
  obtain ⟨hp, hv, hl, -⟩ :=
    (escape_without_skipped stuckTable ";xxxxxxxxxxxxxxxxxx").2 1 slowRule _ _ rfl hr hg
  obtain ⟨hq, -, -, -⟩ :=
    (escape_without_skipped stuckTable ";xxxxxxxxxxxxxxxxxx").2 2 deepRule _ _ rfl hp hd
  -- what is left without the slow rule is again a table with a rule that gives up
  have hs : (stuckTable.without 1).reaching ";xxxxxxxxxxxxxxxxxx" 1 = "-xxxxxxxxxxxxxxxxxx" := by
    decide +kernel
  obtain ⟨-, hw, -, -⟩ := (escape_without_skipped (stuckTable.without 1) ";xxxxxxxxxxxxxxxxxx").2 1
    deepRule _ _ rfl hs hd
  have hz : (((stuckTable.without 1).without 1).escape ";xxxxxxxxxxxxxxxxxx").value =
      "-zzzzzzzzzzzzzzzzzz" := by
    decide +kernel
  have hb : (mk (stuckTable.rules.take 1)).skipWarnings ";xxxxxxxxxxxxxxxxxx" = [] := by
    decide +kernel
  have he : (mk (stuckTable.rules.drop 3)).skipWarnings "-xxxxxxxxxxxxxxxxxx" = [] := by
    decide +kernel
  have ha : (mk (stuckTable.rules.drop 2)).skipWarnings "-xxxxxxxxxxxxxxxxxx" =
      [deepRule.skipWarning "-xxxxxxxxxxxxxxxxxx" .tooManyPending] := by
    refine (skipWarnings_cons deepRule _ _).trans ?_
    rw [Rule.faults_of_givesUp hd, Rule.apply_of_givesUp hd]
    exact congrArg _ he
  rw [hb, ha] at hl
  exact ⟨rfl, rfl, hr, hg, hp, hd, hq, hv.trans (hw.trans hz), hl⟩

end RuleTable

end ClassFields
