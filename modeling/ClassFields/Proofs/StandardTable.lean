import ClassFields.RuleTable
import ClassFields.Proofs.Replacing

/-!
# The standard table

What the standard table makes of a name, in one pass: each character is replaced by itself
(`translate`), and a digit that is then at the start gets a low line in front (`escape_standard`). No
rule reads what another one has written but the last, so the rules do not get in each other's way.
With the suffix of reserved words this is a function of characters alone
(`escape_standard_eq_fieldOf`).
-/

namespace ClassFields

/-! ## Rules without groups -/

theorem Program.compile?_of_any {text : List Char} {a : Regular}
    (h : (compile? text).any (·.isGroupless a)) : compile? text = some (groupless a) := by
  obtain ⟨program, hp, hg⟩ := (Option.any_eq_true ..).mp h
  rw [hp, eq_groupless hg]

namespace Rule

/-- The rule of a pattern that has no groups. -/
def groupless (pattern replacement : String) (a : Regular)
    (h : (Program.compile? pattern.toList).any (·.isGroupless a)) : Rule :=
  ⟨⟨pattern, .groupless a, Program.compile?_of_any h⟩, replacement⟩

variable {pattern replacement : String} {a : Regular} {text : List Char}

/-- A replacement without a dollar is put in as it is. -/
theorem apply_groupless {result : List Char}
    (h : (Program.compile? pattern.toList).any (·.isGroupless a))
    (hd : replacement.toList.contains '$' = false)
    (hr : (Program.groupless a).rewrite true (fun _ => replacement.toList) text = .ok result) :
    (groupless pattern replacement a h).apply (String.ofList text) =
      pure (String.ofList result) := by
  have hw : (groupless pattern replacement a h).rewrite (String.ofList text) =
      .ok (String.ofList result) := by
    simp only [rewrite, groupless, hd, String.toList_ofList, Bool.false_eq_true, if_false,
      Bool.not_false, hr, Except.map]
  rw [apply, hw]

end Rule

/-! ## One pass -/

namespace RuleTable

/-- What the standard table makes of a character. -/
def translate : Char → List Char
  | '-' => ['_']
  | ':' => ['_', '_']
  | '/' => ['o', 'f']
  | '@' => ['_', 'a', 't', '_']
  | '.' => ['_', 'p', '_']
  | c => [c]

/-- The signs that the standard table replaces. -/
def signs : List Char := ['-', ':', '/', '@', '.']

theorem translate_of_notMem {c : Char} (h : c ∉ signs) : translate c = [c] := by
  unfold translate
  split <;> first | rfl | exact absurd (by decide) h

/-- The rules of the standard table. -/
def standardRules : List Rule :=
  [.groupless "-" "_" (Program.only '-') (by decide +kernel),
   .groupless ":" "__" (Program.only ':') (by decide +kernel),
   .groupless "/" "of" (Program.only '/') (by decide +kernel),
   .groupless "@" "_at_" (Program.only '@') (by decide +kernel),
   .groupless "\\." "_p_" (Program.only '.') (by decide +kernel),
   .groupless "^(?=\\d)" "_" (Program.leading .digit) (by decide +kernel)]

theorem rules_standard : standard.rules = standardRules := by
  have hs : standard.rules =
      standardPairs.filterMap fun pair => (Pattern.ofText? pair.1).map (Rule.mk · pair.2) := rfl
  have hp : standardPairs = standardRules.map fun rule => (rule.pattern.text, rule.replacement) :=
    rfl
  have hf : (fun pair : String × String => (Pattern.ofText? pair.1).map (Rule.mk · pair.2)) ∘
      (fun rule : Rule => (rule.pattern.text, rule.replacement)) = some := by
    funext rule
    simp only [Function.comp, Pattern.ofText?_text, Option.map_some]
  rw [hs, hp, List.filterMap_map, hf, List.filterMap_some]

theorem pairs_standard : standard.pairs = standardPairs := by
  rw [pairs, rules_standard]
  rfl

/-- The rules for single characters one after another are one pass. -/
theorem flatMap_translate (name : List Char) :
    ((((name.flatMap (Program.swap '-' ['_'])).flatMap (Program.swap ':' ['_', '_'])).flatMap
      (Program.swap '/' ['o', 'f'])).flatMap (Program.swap '@' ['_', 'a', 't', '_'])).flatMap
      (Program.swap '.' ['_', 'p', '_']) = name.flatMap translate := by
  simp only [List.flatMap_assoc]
  congr 1
  funext c
  unfold translate
  split
  · rfl
  · rfl
  · rfl
  · rfl
  · rfl
  · rename_i h₁ h₂ h₃ h₄ h₅
    simp only [Program.swap_of_ne h₁, Program.swap_of_ne h₂, Program.swap_of_ne h₃,
      Program.swap_of_ne h₄, Program.swap_of_ne h₅, List.flatMap_singleton]

/-- What the rules of the standard table make of a name: its characters are translated, and a digit
at the start gets a low line in front. -/
def onePass (name : String) : List Char :=
  Program.inFront .digit ['_'] (name.toList.flatMap translate)

theorem rewrite_standard (name : String) :
    standard.rewrite name = pure (String.ofList (onePass name)) := by
  have hn : name = String.ofList name.toList := String.ofList_toList.symm
  rw [rewrite, rules_standard, hn]
  simp only [standardRules, List.foldlM_cons, List.foldlM_nil]
  rw [Rule.apply_groupless _ rfl (Program.rewrite_only ..), pure_bind,
    Rule.apply_groupless _ rfl (Program.rewrite_only ..), pure_bind,
    Rule.apply_groupless _ rfl (Program.rewrite_only ..), pure_bind,
    Rule.apply_groupless _ rfl (Program.rewrite_only ..), pure_bind,
    Rule.apply_groupless _ rfl (Program.rewrite_only ..), pure_bind,
    Rule.apply_groupless _ rfl (Program.rewrite_leading ..), pure_bind]
  simp only [onePass, String.reduceToList, String.toList_ofList, flatMap_translate]

/-- The standard table escapes a name in one pass, and logs nothing. -/
theorem escape_standard (name : String) :
    standard.escape name = pure (avoidReserved (String.ofList (onePass name))) := by
  rw [escape, rewrite_standard, pure_bind]

/-- The name of a field by one reading of the class name: the characters are translated, a decimal
digit that is then at the start gets a low line in front, and a reserved word gets one at its end. -/
def fieldOf (name : String) : String :=
  let text := name.toList.flatMap translate
  let text := if text.head?.any Unicode.isDecimalDigit then '_' :: text else text
  if reservedWords.contains (String.ofList text) then String.ofList (text ++ ['_'])
  else String.ofList text

theorem inFront_digit (text : List Char) : Program.inFront .digit ['_'] text =
    if text.head?.any Unicode.isDecimalDigit then '_' :: text else text := by
  cases text with
  | nil => rfl
  | cons c rest => exact Program.inFront_cons ..

theorem avoidReserved_ofList (text : List Char) : avoidReserved (String.ofList text) =
    if reservedWords.contains (String.ofList text) then String.ofList (text ++ ['_'])
    else String.ofList text := by
  have hs : String.ofList text ++ reservedSuffix = String.ofList (text ++ ['_']) := by
    rw [String.ofList_append]
    rfl
  rw [avoidReserved, hs]
  rfl

/-- The rules of the standard table, each of which goes over the whole name, and the suffix of
reserved words are one reading of the name. No rule gives up on any name. -/
theorem escape_standard_eq_fieldOf (name : String) :
    (standard.escape name).value = fieldOf name ∧ (standard.escape name).entries = [] := by
  rw [escape_standard, onePass, inFront_digit, avoidReserved_ofList]
  exact ⟨rfl, rfl⟩

example : fieldOf "2xl:w-1/2" = "_2xl__w_1of2" := by decide +kernel

end RuleTable

end ClassFields
