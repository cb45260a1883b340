import ClassFields.Fault
import ClassFields.Reserved
import ClassFields.Template

/-!
# Escaping class names

A class name becomes the name of a field by an ordered table of rules, each of which replaces the
matches of a pattern in what the rules before it have made of the name. A result that is a reserved
word gets a suffix. Escaping is not injective.
-/

namespace ClassFields

/-- Replaces the matches of a pattern by what a template becomes for them. -/
structure Rule where
  pattern : Pattern
  replacement : String

namespace Rule

/-- The groups that the replacement refers to and the pattern does not have, if that can be told. -/
def missingGroups? (rule : Rule) : Option (List String) :=
  (Template.missing? rule.pattern.program rule.replacement.toList).map (·.map String.ofList)

/-- The groups that the replacement refers to and the pattern does not have. Where that cannot be told,
the program stops before there is a rule: such pairs are left out here, and none is given for them. -/
def missingGroups (rule : Rule) : List String := rule.missingGroups?.getD []

/-- What the log says of a missing group. -/
def missingGroupText (pattern replacement group : String) : String :=
  "Replacement `" ++ replacement ++ "` for pattern `" ++ pattern ++ "` references missing group `" ++
    group ++ "`, it will expand to nothing (use `$\x7b1\x7d` to separate group index from text)"

/-- What the log says when a rule is made. -/
def warnings (rule : Rule) : List LogEntry :=
  rule.missingGroups.map fun group =>
    ⟨.warn, missingGroupText rule.pattern.text rule.replacement group⟩

/-- Makes a rule, if the pattern compiles. The missing groups have to be such as can be told. -/
def make (pattern replacement : String) : Report Rule := do
  match Pattern.ofText? pattern with
  | none => throw (.invalidPattern pattern)
  | some pattern =>
    let rule : Rule := ⟨pattern, replacement⟩
    Logged.notes rule.warnings
    return rule

/-- What a rule makes of a name, unless a search for a match has no answer. A replacement without a
dollar has nothing to expand, and is made without regard to groups. -/
def rewrite (rule : Rule) (name : String) : Except SearchFault String :=
  let template := rule.replacement.toList
  let expand :=
    if template.contains '$' then Template.expand rule.pattern.program.names template
    else fun _ => template
  (rule.pattern.program.rewrite (!template.contains '$') expand name.toList).map String.ofList

/-- What the log says of a rule that is skipped. -/
def skippedText (pattern name : String) (fault : SearchFault) : String :=
  "Skipping replacement `" ++ pattern ++ "` for class `" ++ name ++ "`: " ++ fault.message

/-- Applies a rule. One with a search that has no answer is skipped. -/
def apply (rule : Rule) (name : String) : Logged String :=
  match rule.rewrite name with
  | .ok result => pure result
  | .error fault => do
    Logged.note .warn (skippedText rule.pattern.text name fault)
    return name

end Rule

/-- An ordered list of rules. -/
structure RuleTable where
  rules : List Rule

namespace RuleTable

/-- The table without rules. -/
def empty : RuleTable := ⟨[]⟩

/-- The table with one more rule at its end. -/
def push (table : RuleTable) (pattern replacement : String) : Report RuleTable := do
  let rule ← Rule.make pattern replacement
  return ⟨table.rules ++ [rule]⟩

/-- The table with rules for several pairs at its end. -/
def pushAll (table : RuleTable) : List (String × String) → Report RuleTable
  | [] => return table
  | (pattern, replacement) :: rest => do pushAll (← table.push pattern replacement) rest

/-- The table of rules for pairs of a pattern and a replacement. -/
def ofPairs (pairs : List (String × String)) : Report RuleTable := empty.pushAll pairs

/-- The patterns and replacements of a table. -/
def pairs (table : RuleTable) : List (String × String) :=
  table.rules.map fun rule => (rule.pattern.text, rule.replacement)

/-- The rules in use unless others are asked for. The last one puts a low line in front of a
digit. -/
def standardPairs : List (String × String) :=
  [("-", "_"), (":", "__"), ("/", "of"), ("@", "_at_"), ("\\.", "_p_"), ("^(?=\\d)", "_")]

/-- The table in use unless another is asked for. -/
def standard : RuleTable :=
  ⟨standardPairs.filterMap fun (pattern, replacement) =>
    (Pattern.ofText? pattern).map fun pattern => ⟨pattern, replacement⟩⟩

/-- What the rules make of a name. -/
def rewrite (table : RuleTable) (name : String) : Logged String :=
  table.rules.foldlM (fun name rule => rule.apply name) name

/-- Escapes a class name into the name of a field. -/
def escape (table : RuleTable) (name : String) : Logged String := do
  return avoidReserved (← table.rewrite name)

end RuleTable

end ClassFields
