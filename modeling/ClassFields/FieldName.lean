import ClassFields.Reserved
import ClassFields.Unicode.Identifier
import ClassFields.Unicode.Property

/-!
# Names of fields

`FieldName.read?` reads the identifier that a text consists of. Blanks and plain comments around it
do not count, nor does a byte order mark at the very start. An identifier may be raw, with `r#` in
front, which lets most reserved words pass.
-/

namespace ClassFields

/-- An identifier: its name, and whether it is written raw. -/
structure FieldName where
  name : List Char
  raw : Bool
  deriving DecidableEq, Repr

namespace FieldName

open Unicode

/-! ## Blanks and comments -/

/-- Blanks between tokens: those of text, and the marks of writing direction. -/
def isGap (c : Char) : Bool := isBlank c || c.toNat == 0x200E || c.toNat == 0x200F

/-- Whether the text after two slashes makes a documentation comment of them: one more slash but not
two, or an exclamation mark. -/
def isDocLine : List Char → Bool
  | '/' :: '/' :: _ => false
  | '/' :: _ => true
  | '!' :: _ => true
  | _ => false

/-- Whether the text after a slash and a star makes a documentation comment of them: one more star
that neither a star nor a slash follows, or an exclamation mark. -/
def isDocBlock : List Char → Bool
  | '*' :: '*' :: _ => false
  | '*' :: '/' :: _ => false
  | '*' :: _ => true
  | '!' :: _ => true
  | _ => false

/-- Where a reader is: between tokens, in a comment up to the end of the line, or in a comment that
a number of further ones are open around. -/
inductive Place where
  | between
  | line
  | block (depth : Nat)
  deriving DecidableEq, Repr

/-- Skips blanks and plain comments. A comment that is not closed has no end. -/
def skip : Place → List Char → Option (List Char)
  | .between, '/' :: '/' :: rest =>
    if isDocLine rest then some ('/' :: '/' :: rest) else skip .line rest
  | .between, '/' :: '*' :: rest =>
    if isDocBlock rest then some ('/' :: '*' :: rest) else skip (.block 0) rest
  | .between, c :: rest => if isGap c then skip .between rest else some (c :: rest)
  | .between, [] => some []
  | .line, c :: rest => if c == '\n' then skip .between rest else skip .line rest
  | .line, [] => some []
  | .block depth, '/' :: '*' :: rest => skip (.block (depth + 1)) rest
  | .block 0, '*' :: '/' :: rest => skip .between rest
  | .block (depth + 1), '*' :: '/' :: rest => skip (.block depth) rest
  | .block depth, _ :: rest => skip (.block depth) rest
  | .block _, [] => none

/-! ## Identifiers -/

/-- Whether an identifier may start with a character. -/
def isStart (c : Char) : Bool := c == '_' || isXidStart c

/-- The word at the front of a text and what follows it. -/
def word? : List Char → Option (List Char × List Char)
  | [] => none
  | c :: rest =>
    if isStart c then some (c :: rest.takeWhile isXidContinue, rest.dropWhile isXidContinue)
    else none

/-- The words that cannot be raw identifiers. -/
def neverRaw : List String := ["_", "super", "self", "Self", "crate"]

/-- Whether a word is an identifier, raw or not. -/
def allowed (raw : Bool) (name : List Char) : Bool :=
  if raw then !neverRaw.contains (String.ofList name)
  else !(name == ['_'] || isReserved (String.ofList name))

/-- The identifier at the front of a text and what follows it. -/
def identifier? (text : List Char) : Option (FieldName × List Char) :=
  let (raw, text) :=
    match text with
    | 'r' :: '#' :: rest => (true, rest)
    | _ => (false, text)
  match word? text with
  | some (name, rest) => if allowed raw name then some (⟨name, raw⟩, rest) else none
  | none => none

/-- A text without the byte order mark at its start. -/
def afterMark : List Char → List Char
  | '\uFEFF' :: rest => rest
  | text => text

/-- The identifier that a text consists of. -/
def read? (text : List Char) : Option FieldName := do
  let text ← skip .between (afterMark text)
  let (name, rest) ← identifier? text
  match ← skip .between rest with
  | [] => return name
  | _ => none

/-- Whether a text is accepted as the name of a field. -/
def valid (text : String) : Bool := (read? text.toList).isSome

end FieldName

end ClassFields
