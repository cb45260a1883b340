import ClassFields.Pattern.Rewrite

/-!
# Replacement templates

In a replacement text a dollar refers to a group of the pattern, by name or by number: `$1`,
`$name`, or `${1}` where letters follow. Two dollars stand for one.

`references` lists the references of a template for a check against the pattern, and `pieces` reads
the template for expansion. They are two grammars: in the first, a name without braces is a run of
ASCII letters, digits and low lines and whatever stands in braces is a name, while the second takes
letters and digits of any script, and takes braces around anything else as text.
-/

namespace ClassFields.Template

open Pattern (wholeNumber? isNameChar)

/-- Where a reader of templates is: in text, after a dollar, or in a name, whose characters it has
in reverse. -/
inductive Place where
  | text
  | dollar
  | braced (name : List Char)
  | bare (name : List Char)
  deriving DecidableEq, Repr

/-! ## References -/

/-- The characters of a name without braces, as `references` sees it. -/
def isPlainNameChar (c : Char) : Bool := c.isAlphanum || c == '_'

/-- The references from a place on. A brace that is not closed ends the search. -/
def referencesFrom : Place → List Char → List (List Char)
  | .text, [] => []
  | .text, c :: rest => if c == '$' then referencesFrom .dollar rest else referencesFrom .text rest
  | .dollar, [] => []
  | .dollar, c :: rest =>
    if c == '$' then referencesFrom .text rest
    else if c == '\x7b' then referencesFrom (.braced []) rest
    else if isPlainNameChar c then referencesFrom (.bare [c]) rest
    else referencesFrom .text rest
  | .braced _, [] => []
  | .braced name, c :: rest =>
    if c == '\x7d' then name.reverse :: referencesFrom .text rest
    else referencesFrom (.braced (c :: name)) rest
  | .bare name, [] => [name.reverse]
  | .bare name, c :: rest =>
    if isPlainNameChar c then referencesFrom (.bare (c :: name)) rest
    else name.reverse :: (if c == '$' then referencesFrom .dollar rest else referencesFrom .text rest)

/-- The groups that a template refers to, in order and with repeats. -/
def references (template : List Char) : List (List Char) := referencesFrom .text template

/-- The number that a reference is, if it is one. A plus sign in front is allowed. -/
def index? : List Char → Option Nat
  | '+' :: digits => wholeNumber? digits
  | name => wholeNumber? name

/-- Whether a pattern lacks the group of a reference. A name is looked for in a list that has a place
for each group that is counted. If a group that is not counted has a name, as in `(?<n>a){0}b`, there is
no such list, and no answer. -/
def lacks? (program : Program) (name : List Char) : Option Bool :=
  match index? name with
  | some i => some (program.groupCount ≤ i)
  | none =>
    if program.namesCounted then some (!program.names.any (·.1 == String.ofList name)) else none

/-- Those of some references that a pattern has no group for. -/
def missingOf? (program : Program) : List (List Char) → Option (List (List Char))
  | [] => some []
  | name :: rest => do
    let lacked ← lacks? program name
    let others ← missingOf? program rest
    return if lacked then name :: others else others

/-- The references of a template that a pattern has no group for. -/
def missing? (program : Program) (template : List Char) : Option (List (List Char)) :=
  missingOf? program (references template)

/-! ## Expansion -/

/-- A piece of a template that is read for expansion. -/
inductive Piece where
  | char (c : Char)
  | group (name : List Char)
  deriving DecidableEq, Repr

/-- A brace after a dollar that turns out not to start a reference, as text. -/
def brokenBrace (name : List Char) : List Piece :=
  .char '$' :: .char '\x7b' :: name.reverse.map .char

/-- The pieces from a place on. -/
def piecesFrom : Place → List Char → List Piece
  | .text, [] => []
  | .text, c :: rest =>
    if c == '$' then piecesFrom .dollar rest else .char c :: piecesFrom .text rest
  | .dollar, [] => [.char '$']
  | .dollar, c :: rest =>
    if c == '$' then .char '$' :: piecesFrom .text rest
    else if c == '\x7b' then piecesFrom (.braced []) rest
    else if isNameChar c then piecesFrom (.bare [c]) rest
    else .char '$' :: .char c :: piecesFrom .text rest
  | .braced name, [] => brokenBrace name
  | .braced name, c :: rest =>
    if c == '\x7d' && !name.isEmpty then .group name.reverse :: piecesFrom .text rest
    else if isNameChar c then piecesFrom (.braced (c :: name)) rest
    else if c == '$' then brokenBrace name ++ piecesFrom .dollar rest
    else brokenBrace name ++ .char c :: piecesFrom .text rest
  | .bare name, [] => [.group name.reverse]
  | .bare name, c :: rest =>
    if isNameChar c then piecesFrom (.bare (c :: name)) rest
    else if c == '$' then .group name.reverse :: piecesFrom .dollar rest
    else .group name.reverse :: .char c :: piecesFrom .text rest

/-- The pieces of a template. -/
def pieces (template : List Char) : List Piece := piecesFrom .text template

/-- What a group took in a match, by name or else by number. -/
def lookUp? (names : List (String × Nat)) (found : Match) (name : List Char) :
    Option (List Char) :=
  ((names.lookup (String.ofList name)).bind found.group?).or ((index? name).bind found.group?)

/-- What a piece becomes for a match. A group that took no part becomes nothing. -/
def Piece.expand (names : List (String × Nat)) (found : Match) : Piece → List Char
  | char c => [c]
  | group name => (lookUp? names found name).getD []

/-- What a template becomes for a match. -/
def expand (names : List (String × Nat)) (template : List Char) (found : Match) : List Char :=
  (pieces template).flatMap (·.expand names found)

end ClassFields.Template
