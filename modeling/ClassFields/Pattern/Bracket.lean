import ClassFields.Pattern.CharClass

/-!
# Bracketed character classes

The text between brackets is read in two steps. The pattern reader turns it into signs: characters,
quoted characters and whole classes. `Bracket.read?` then reads the signs by the grammar of
brackets: ranges, nested brackets, named classes such as `[:alpha:]`, and the set operations `&&`,
`--` and `~~`, which bind less than juxtaposition and associate to the left.
-/

namespace ClassFields.Bracket

/-- One sign of a bracketed class. -/
inductive Sign where
  /-- A character as it stands, which may have a meaning of its own. -/
  | plain (c : Char)
  /-- A character without any meaning of its own. -/
  | quoted (c : Char)
  /-- A class, such as that of a shorthand. -/
  | set (a : CharClass)
  deriving DecidableEq, Repr

/-- The set operations of brackets. -/
inductive Operation where
  | intersection
  | difference
  | symmetricDifference
  deriving DecidableEq, Repr

/-- The class that an operation makes of two. -/
def Operation.apply : Operation → CharClass → CharClass → CharClass
  | intersection => .intersection
  | difference => .difference
  | symmetricDifference => .symmetricDifference

/-- An open bracket: its sign, an operation that waits for its right side, and what stands after. -/
structure Level where
  negated : Bool
  pending : Option (Operation × CharClass)
  items : CharClass

namespace Level

/-- The level with one more item. -/
def add (level : Level) (a : CharClass) : Level :=
  { level with items := .union level.items a }

/-- What the level holds so far. Both sides of an operation ignore case where the class does. -/
def value (ignoreCase : Bool) (level : Level) : CharClass :=
  match level.pending with
  | none => level.items
  | some (op, left) => op.apply (left.withCase ignoreCase) (level.items.withCase ignoreCase)

/-- The level at the right side of an operation. -/
def operate (ignoreCase : Bool) (level : Level) (op : Operation) : Level :=
  { level with pending := some (op, level.value ignoreCase), items := .nothing }

/-- The class of a level that closes. -/
def close (ignoreCase : Bool) (level : Level) : CharClass :=
  ((level.value ignoreCase).withCase ignoreCase).withSign level.negated

end Level

/-- The named classes, all of ASCII. -/
def namedRanges : List (String × Unicode.Ranges) :=
  [("alnum", [(0x30, 0x39), (0x41, 0x5A), (0x61, 0x7A)]),
   ("alpha", [(0x41, 0x5A), (0x61, 0x7A)]),
   ("ascii", [(0, 0x7F)]),
   ("blank", [(0x09, 0x09), (0x20, 0x20)]),
   ("cntrl", [(0, 0x1F), (0x7F, 0x7F)]),
   ("digit", [(0x30, 0x39)]),
   ("graph", [(0x21, 0x7E)]),
   ("lower", [(0x61, 0x7A)]),
   ("print", [(0x20, 0x7E)]),
   ("punct", [(0x21, 0x2F), (0x3A, 0x40), (0x5B, 0x60), (0x7B, 0x7E)]),
   ("space", [(0x09, 0x0D), (0x20, 0x20)]),
   ("upper", [(0x41, 0x5A)]),
   ("word", [(0x30, 0x39), (0x41, 0x5A), (0x5F, 0x5F), (0x61, 0x7A)]),
   ("xdigit", [(0x30, 0x39), (0x41, 0x46), (0x61, 0x66)])]

/-- The characters of the plain signs at the front, up to a colon, and the signs from there. -/
def nameOf : List Sign → List Char × List Sign
  | .plain c :: rest =>
    if c == ':' then ([], .plain c :: rest)
    else
      let (name, rest) := nameOf rest
      (c :: name, rest)
  | rest => ([], rest)

/-- A named class, from the signs after its opening bracket. -/
def named? (ignoreCase : Bool) : List Sign → Option (CharClass × List Sign)
  | .plain ':' :: signs =>
    let (negated, signs) :=
      match signs with
      | .plain '^' :: rest => (true, rest)
      | _ => (false, signs)
    match nameOf signs with
    | (name, .plain ':' :: .plain ']' :: rest) =>
      (namedRanges.lookup (String.ofList name)).map fun ranges =>
        (((CharClass.table ranges).withCase ignoreCase).withSign negated, rest)
    | _ => none
  | _ => none

/-- The hyphens at the front, as items, and the signs after them. -/
def leadingHyphens : CharClass → List Sign → CharClass × List Sign
  | items, .plain '-' :: rest => leadingHyphens (.union items (.single '-')) rest
  | items, rest => (items, rest)

/-- A new level, from the signs after its opening bracket. Hyphens at the front stand for
themselves, and so does a closing bracket there. -/
def openLevel (signs : List Sign) : Level × List Sign :=
  let (negated, signs) :=
    match signs with
    | .plain '^' :: rest => (true, rest)
    | _ => (false, signs)
  match signs with
  | .plain ']' :: rest => (⟨negated, none, .single ']'⟩, rest)
  | _ =>
    let (items, rest) := leadingHyphens .nothing signs
    (⟨negated, none, items⟩, rest)

/-- The character that a sign stands for, if it stands for one. -/
def Sign.char? : Sign → Option Char
  | plain c => some c
  | quoted c => some c
  | set _ => none

/-- A single item or a range. A hyphen makes a range unless a bracket or a hyphen follows it. -/
def item? (first : Sign) (rest : List Sign) : Option (CharClass × List Sign) :=
  let alone : CharClass × List Sign :=
    match first with
    | .set a => (a, rest)
    | .plain c => (.single c, rest)
    | .quoted c => (.single c, rest)
  match rest with
  | .plain '-' :: .plain ']' :: _ => some alone
  | .plain '-' :: .plain '-' :: _ => some alone
  | .plain '-' :: second :: rest =>
    match first.char?, second.char? with
    | some a, some b => if a ≤ b then some (.range a b, rest) else none
    | _, _ => none
  | .plain '-' :: [] => none
  | _ => some alone

/-- Reads signs into the innermost level. Each step uses at least one sign, so as many steps as
signs are enough. -/
def fill (ignoreCase : Bool) : Nat → List Sign → Level → List Level → Option CharClass
  | 0, _, _, _ => none
  | _ + 1, [], _, _ => none
  | steps + 1, .plain ']' :: rest, level, outer =>
    match outer, rest with
    | [], [] => some (level.close ignoreCase)
    | [], _ :: _ => none
    | parent :: outer, rest =>
      fill ignoreCase steps rest (parent.add (level.close ignoreCase)) outer
  | steps + 1, .plain '[' :: rest, level, outer =>
    match named? ignoreCase rest with
    | some (a, rest) => fill ignoreCase steps rest (level.add a) outer
    | none =>
      let (inner, rest) := openLevel rest
      fill ignoreCase steps rest inner (level :: outer)
  | steps + 1, .plain '&' :: .plain '&' :: rest, level, outer =>
    fill ignoreCase steps rest (level.operate ignoreCase .intersection) outer
  | steps + 1, .plain '-' :: .plain '-' :: rest, level, outer =>
    fill ignoreCase steps rest (level.operate ignoreCase .difference) outer
  | steps + 1, .plain '~' :: .plain '~' :: rest, level, outer =>
    fill ignoreCase steps rest (level.operate ignoreCase .symmetricDifference) outer
  | steps + 1, first :: rest, level, outer =>
    match item? first rest with
    | some (a, rest) => fill ignoreCase steps rest (level.add a) outer
    | none => none

/-- The class of the signs after an opening bracket, the matching closing one included. -/
def read? (ignoreCase : Bool) (signs : List Sign) : Option CharClass :=
  let (level, rest) := openLevel signs
  fill ignoreCase (rest.length + 1) rest level []

end ClassFields.Bracket
