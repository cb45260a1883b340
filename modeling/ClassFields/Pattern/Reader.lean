import ClassFields.Pattern.Bracket
import ClassFields.Pattern.Node
import ClassFields.Unicode.Named

/-!
# Reading patterns

`Pattern.read?` reads the text of a pattern into a `Node`. Groups may be nested 63 deep; the reader
for each depth is made from the reader for the next one, so reading ends.
-/

namespace ClassFields.Pattern

open Unicode

/-- The flags that `(?i)` and the like switch. -/
structure Flags where
  ignoreCase : Bool := false
  multiLine : Bool := false
  dotAll : Bool := false
  swapGreed : Bool := false
  ignoreSpace : Bool := false
  deriving DecidableEq, Repr

/-- Where the reader is and what it has met so far. -/
structure ReadState where
  rest : List Char
  flags : Flags := {}
  /-- How many groups have been opened. -/
  groups : Nat := 0
  /-- Names of groups, the newest first. -/
  names : List (String × Nat) := []
  /-- Groups that are referred to. -/
  referenced : List Nat := []
  /-- Whether a group is referred to by number. -/
  numbered : Bool := false
  /-- What is known of the groups that are closed, the newest first. -/
  extents : List (Nat × Extent) := []

/-- A reader of part of a pattern. A pattern that is not well formed has no reading. -/
abbrev Reader := StateT ReadState Option

/-! ## Blanks and comments -/

/-- What is being skipped. -/
inductive Skipping where
  | blanks
  /-- A comment up to the end of the line. -/
  | line
  /-- A comment in brackets. -/
  | remark

/-- Skips comments, and blanks where they are ignored. A comment in brackets has to be closed; in
it, a backslash takes the next character with it. -/
def skip (ignoreSpace : Bool) : Skipping → List Char → Option (List Char)
  | .blanks, '(' :: '?' :: '#' :: rest => skip ignoreSpace .remark rest
  | .blanks, c :: rest =>
    if ignoreSpace && c == '#' then skip ignoreSpace .line rest
    else if ignoreSpace && (c == ' ' || c == '\r' || c == '\n' || c == '\t') then
      skip ignoreSpace .blanks rest
    else some (c :: rest)
  | .blanks, [] => some []
  | .line, c :: rest =>
    if c == '\n' then skip ignoreSpace .blanks rest else skip ignoreSpace .line rest
  | .line, [] => some []
  | .remark, ')' :: rest => skip ignoreSpace .blanks rest
  | .remark, '\\' :: _ :: rest => skip ignoreSpace .remark rest
  | .remark, _ :: rest => skip ignoreSpace .remark rest
  | .remark, [] => none

/-- What follows the blanks and comments at the front of a text. -/
def afterBlanks? (flags : Flags) (text : List Char) : Option (List Char) :=
  skip flags.ignoreSpace .blanks text

/-- Skips the blanks and comments that come next. -/
def skipBlanks : Reader Unit := do
  let state ← get
  let rest ← afterBlanks? state.flags state.rest
  set { state with rest }

/-- Moves to a later place of the text. -/
def moveTo (rest : List Char) : Reader Unit := modify fun state => { state with rest }

/-- Reads the bracket that closes a group. -/
def closeGroup : Reader Unit := do
  skipBlanks
  match (← get).rest with
  | ')' :: rest => moveTo rest
  | _ => failure

/-! ## Numbers and names -/

/-- One more than the largest number. -/
def numberBound : Nat := Nat.pow 2 64

/-- The value of decimal digits. -/
def decimalValue (digits : List Char) : Nat :=
  digits.foldl (fun n c => n * 10 + (c.toNat - '0'.toNat)) 0

/-- The number at the front of a text and what follows it. -/
def number? (text : List Char) : Option (Nat × List Char) :=
  let digits := text.takeWhile Char.isDigit
  let n := decimalValue digits
  if digits.isEmpty || numberBound ≤ n then none else some (n, text.dropWhile Char.isDigit)

/-- The number that a text consists of. -/
def wholeNumber? (text : List Char) : Option Nat :=
  match number? text with
  | some (n, []) => some n
  | _ => none

/-- Characters of group names. -/
def isNameChar (c : Char) : Bool := isAlphanumeric c || c == '_'

/-- What a text is without a given text at its front. -/
def dropFront? : List Char → List Char → Option (List Char)
  | [], text => some text
  | a :: front, b :: text => if a == b then dropFront? front text else none
  | _ :: _, [] => none

/-- A group name between two delimiters, and what follows. -/
def name? (opening closing text : List Char) : Option (List Char × List Char) := do
  let text ← dropFront? opening text
  let name := text.takeWhile isNameChar
  guard !name.isEmpty
  let rest ← dropFront? closing (text.dropWhile isNameChar)
  return (name, rest)

/-- A signed distance between two delimiters, and what follows. -/
def distance? (opening closing text : List Char) : Option (Int × List Char) := do
  let text ← dropFront? opening text
  match text with
  | '+' :: text =>
    let (n, text) ← number? text
    return (Int.ofNat n, ← dropFront? closing text)
  | '-' :: text =>
    let (n, text) ← number? text
    return (-Int.ofNat n, ← dropFront? closing text)
  | _ => none

/-! ## Characters and classes -/

/-- The value of a hexadecimal digit. -/
def hexValue? (c : Char) : Option Nat :=
  if c.isDigit then some (c.toNat - '0'.toNat)
  else if 'a' ≤ c && c ≤ 'f' then some (c.toNat - 'a'.toNat + 10)
  else if 'A' ≤ c && c ≤ 'F' then some (c.toNat - 'A'.toNat + 10)
  else none

/-- The value of hexadecimal digits. -/
def hexadecimal? (digits : List Char) : Option Nat :=
  digits.foldlM (fun n c => (hexValue? c).map (n * 16 + ·)) 0

/-- The character with a code point, unless there is none. -/
def charOf? (n : Nat) : Option Char :=
  if n.isValidChar then some (Char.ofNat n) else none

/-- A character by its code point: a set number of hexadecimal digits, or up to eight in braces. -/
def codePoint? (count : Nat) (text : List Char) : Option (Char × List Char) :=
  let digits := text.take count
  if digits.length == count && digits.all (hexValue? · |>.isSome) then do
    let n ← hexadecimal? digits
    return (← charOf? n, text.drop count)
  else
    match text with
    | '\x7b' :: text => do
      let digits := text.takeWhile (hexValue? · |>.isSome)
      guard (!digits.isEmpty && digits.length ≤ 8)
      let n ← hexadecimal? digits
      match text.dropWhile (hexValue? · |>.isSome) with
      | '\x7d' :: rest => return (← charOf? n, rest)
      | _ => none
    | _ => none

/-- A text before and after the first occurrence of a separator. -/
def splitAt? (sep : List Char) : List Char → Option (List Char × List Char)
  | [] => none
  | c :: rest =>
    match dropFront? sep (c :: rest) with
    | some after => some ([], after)
    | none => (splitAt? sep rest).map fun (before, after) => (c :: before, after)

/-- The set that a name in braces stands for, and whether its complement is meant: a name alone, or
a property that has or has not a value. -/
def propertySet? (name : List Char) : Option (Bool × Ranges) :=
  match splitAt? ['!', '='] name, splitAt? [':'] name, splitAt? ['='] name with
  | some (property, value), _, _ => (valued? property value).map (true, ·)
  | none, some (property, value), _ => (valued? property value).map (false, ·)
  | none, none, some (property, value) => (valued? property value).map (false, ·)
  | none, none, none => (named? name).map (false, ·)

/-- The set after `\p` or `\P`: one letter, or a name in braces. -/
def property? (negated ignoreCase : Bool) (text : List Char) : Option (CharClass × List Char) := do
  let (flipped, ranges, rest) ←
    match text with
    | '\x7b' :: text =>
      match text.dropWhile (· != '\x7d') with
      | _ :: rest => (propertySet? (text.takeWhile (· != '\x7d'))).map fun (s, r) => (s, r, rest)
      | [] => none
    | c :: rest => if c == '\\' then none else (named? [c]).map (false, ·, rest)
    | [] => none
  return (((CharClass.table ranges).withCase ignoreCase).withSign (negated != flipped), rest)

/-- The control characters that letters stand for after a backslash. -/
def controlOf? : Char → Option Char
  | 'a' => some '\x07'
  | 'f' => some '\x0c'
  | 'n' => some '\n'
  | 'r' => some '\r'
  | 't' => some '\t'
  | 'v' => some '\x0b'
  | 'e' => some '\x1b'
  | _ => none

/-- Hexadecimal digits. -/
def hexDigits : CharClass := .table [(0x30, 0x39), (0x41, 0x46), (0x61, 0x66)]

/-- The class of a shorthand such as `\d`. A capital letter stands for the complement. -/
def shorthand? : Char → Option CharClass
  | 'd' => some .digit
  | 'D' => some (.complement .digit)
  | 's' => some .blank
  | 'S' => some (.complement .blank)
  | 'w' => some .word
  | 'W' => some (.complement .word)
  | 'h' => some hexDigits
  | 'H' => some (.complement hexDigits)
  | _ => none

/-- What a backslash makes of the text after it, where classes and single characters are meant. -/
inductive Escaped where
  | set (a : CharClass)
  /-- A character; whether its case may be ignored. -/
  | char (c : Char) (cased : Bool)

/-- The escapes that mean the same in and out of brackets. -/
def escaped? (ignoreCase : Bool) : List Char → Option (Escaped × List Char)
  | [] => none
  | c :: rest =>
    match shorthand? c, controlOf? c with
    | some a, _ => some (.set a, rest)
    | none, some control => some (.char control false, rest)
    | none, none =>
      if c == 'x' then (codePoint? 2 rest).map fun (c, rest) => (.char c true, rest)
      else if c == 'u' then (codePoint? 4 rest).map fun (c, rest) => (.char c true, rest)
      else if c == 'U' then (codePoint? 8 rest).map fun (c, rest) => (.char c true, rest)
      else if c == 'p' || c == 'P' then
        (property? (c == 'P') ignoreCase rest).map fun (a, rest) => (.set a, rest)
      else if c.isAlphanum then none
      else some (.char c false, rest)

/-- The letters that a backslash in brackets leaves as they are. -/
def bareInBrackets (c : Char) : Bool :=
  c == 'k' || c == 'A' || c == 'z' || c == 'B' || c == 'K' || c == 'G'

/-- The signs of a bracketed class up to the bracket that closes it, and what follows. Each step
uses at least one character. -/
def signs? (ignoreCase : Bool) : Nat → Nat → List Char → Option (List Bracket.Sign × List Char)
  | 0, _, _ => none
  | _ + 1, _, [] => none
  | steps + 1, depth, ']' :: rest =>
    match depth with
    | 0 => some ([.plain ']'], rest)
    | depth + 1 => (signs? ignoreCase steps depth rest).map fun (signs, rest) =>
        (.plain ']' :: signs, rest)
  | steps + 1, depth, '[' :: rest =>
    (signs? ignoreCase steps (depth + 1) rest).map fun (signs, rest) => (.plain '[' :: signs, rest)
  | steps + 1, depth, '\\' :: rest => do
    let (sign, rest) ←
      match rest with
      | 'b' :: rest => some (Bracket.Sign.quoted '\x08', rest)
      | c :: after =>
        if bareInBrackets c then some (.quoted c, after)
        else
          match escaped? ignoreCase rest with
          | some (.set a, rest) => some (.set a, rest)
          | some (.char c _, rest) => some (.quoted c, rest)
          | none => none
      | [] => none
    let (signs, rest) ← signs? ignoreCase steps depth rest
    return (sign :: signs, rest)
  | steps + 1, depth, c :: rest =>
    (signs? ignoreCase steps depth rest).map fun (signs, rest) => (.plain c :: signs, rest)

/-- The bracketed class after an opening bracket, and what follows it. A closing bracket at the
front does not close. -/
def bracket? (ignoreCase : Bool) (text : List Char) : Option (CharClass × List Char) := do
  let (front, text) :=
    match text with
    | '^' :: ']' :: rest => ([Bracket.Sign.plain '^', .plain ']'], rest)
    | '^' :: rest => ([.plain '^'], rest)
    | ']' :: rest => ([.plain ']'], rest)
    | _ => ([], text)
  let (signs, rest) ← signs? ignoreCase (text.length + 1) 0 text
  let a ← Bracket.read? ignoreCase (front ++ signs)
  return (a, rest)

/-! ## References to groups -/

/-- A reference to a group, which is noted. -/
def referTo (index : Nat) : Reader Node := do
  let state ← get
  set { state with referenced := index :: state.referenced }
  return .backref index state.flags.ignoreCase ((state.extents.lookup index).getD ⟨0, false⟩)

/-- A reference by the number that comes next. -/
def numberedReference : Reader Node := do
  let (index, rest) ← number? (← get).rest
  modify fun state => { state with rest, numbered := true }
  referTo index

/-- A reference by name, by number, or, if allowed, by distance from the last group opened. -/
def namedReference (opening closing : String) (relative : Bool) : Reader Node := do
  let state ← get
  match name? opening.toList closing.toList state.rest with
  | some (name, rest) =>
    let index ← (state.names.lookup (String.ofList name)).or (wholeNumber? name)
    moveTo rest
    referTo index
  | none =>
    guard relative
    let (distance, rest) ← distance? opening.toList closing.toList state.rest
    let index := Int.ofNat state.groups + if distance < 0 then distance + 1 else distance
    guard (0 ≤ index)
    moveTo rest
    referTo index.toNat

/-! ## Atoms -/

/-- `\Z`: before the line breaks that end the text. -/
def finalBreaks : Node :=
  .look false false (.concat [.many (.one (.single '\n')) 0 none true, .anchor .textEnd])

/-- Reads what follows a backslash outside brackets. -/
def escape : Reader Node := do
  let state ← get
  match state.rest with
  | [] => failure
  | c :: rest =>
    let yields (node : Node) : Reader Node := do
      moveTo rest
      return node
    if c.isDigit then numberedReference
    else
      match c with
      | 'k' =>
        moveTo rest
        match rest with
        | '\'' :: _ => namedReference "'" "'" true
        | _ => namedReference "<" ">" true
      | 'A' => yields (.anchor .textStart)
      | 'z' => yields (.anchor .textEnd)
      | 'Z' => yields finalBreaks
      | 'b' => if rest.head? == some '\x7b' then failure else yields (.anchor .wordBoundary)
      | 'B' => if rest.head? == some '\x7b' then failure else yields (.anchor .noWordBoundary)
      | '<' => yields (.anchor .wordStart)
      | '>' => yields (.anchor .wordEnd)
      | 'K' => yields .keepOut
      | 'G' => yields .lastEnd
      | 'O' => yields (.one .anything)
      | _ =>
        match escaped? state.flags.ignoreCase state.rest with
        | some (.set a, rest) =>
          moveTo rest
          return .one a
        | some (.char c cased, rest) =>
          moveTo rest
          return .one ((CharClass.single c).withCase (cased && state.flags.ignoreCase))
        | none => failure

/-- The flags with one of them switched, if the letter names one. -/
def Flags.switch? (flags : Flags) (on : Bool) : Char → Option Flags
  | 'i' => some { flags with ignoreCase := on }
  | 'm' => some { flags with multiLine := on }
  | 's' => some { flags with dotAll := on }
  | 'U' => some { flags with swapGreed := on }
  | 'x' => some { flags with ignoreSpace := on }
  | 'u' => if on then some flags else none
  | _ => none

/-- Reads the flags of a group, and its body if it has one: `(?i)` switches flags until the group
around it ends, and `(?i:a)` switches them for its body only. Each step uses a character. -/
def flagGroup (inner : Reader Node) (outer : Flags) : Nat → (count : Nat) → (on : Bool) →
    Reader Node
  | 0, _, _ => failure
  | steps + 1, count, on => do
    skipBlanks
    let state ← get
    match state.rest with
    | ')' :: rest =>
      guard (!(count == 0 || (count == 1 && !on)))
      moveTo rest
      return .empty
    | ':' :: rest =>
      guard (!(count == 1 && !on))
      moveTo rest
      let body ← inner
      closeGroup
      modify fun state => { state with flags := outer }
      return body
    | '-' :: rest =>
      guard on
      moveTo rest
      flagGroup inner outer steps (count + 1) false
    | c :: rest =>
      let flags ← state.flags.switch? on c
      set { state with rest, flags }
      flagGroup inner outer steps (count + 1) on
    | [] => failure

/-- Reads what a conditional asks: whether a group took part, or whether a pattern matches. -/
def condition (inner : Reader Node) : Reader Node := do
  match (← get).rest with
  | '\'' :: _ => namedReference "'" "'" true
  | '<' :: _ => namedReference "<" ">" true
  | c :: _ => if c.isDigit then numberedReference else inner
  | [] => failure

/-- The test that a condition stands for. -/
def testOf : Node → Node
  | .backref index _ _ => .tookPart index
  | other => other

/-- What to match if a condition holds and if not. -/
def yesAndNo : Node → Node × Node
  | .choice (yes :: [no]) => (yes, no)
  | .choice (yes :: rest) => (yes, .choice rest)
  | body => (body, .empty)

/-- Reads a conditional after `(?(`: a condition, and what to match if it holds and if not. -/
def conditional (inner : Reader Node) : Reader Node := do
  let condition ← condition inner
  closeGroup
  let start := (← get).rest.length
  let branches ← inner
  let used := (← get).rest.length != start
  closeGroup
  if !used then
    match condition with
    | .backref index _ _ => return .tookPart index
    | _ => failure
  else
    let (yes, no) := yesAndNo branches
    let test := testOf condition
    if yes.isEmpty && no.isEmpty then return test else return .cond test yes no

/-- Opens the next group, under a name if it has one. -/
def openGroup (name : Option (List Char)) : Reader Nat := do
  let state ← get
  let index := state.groups + 1
  let names :=
    match name with
    | some name => (String.ofList name, index) :: state.names
    | none => state.names
  set { state with groups := index, names }
  return index

/-- Reads the body of a group that has been opened, and closes it. -/
def groupBody (inner : Reader Node) (index : Nat) : Reader Node := do
  let body ← inner
  closeGroup
  modify fun state => { state with extents := (index, body.extent) :: state.extents }
  return .group index body

/-- Reads a body up to the closing bracket and puts it into a node. -/
def enclosed (inner : Reader Node) (wrap : Node → Node) : Reader Node := do
  let body ← inner
  closeGroup
  return wrap body

/-- Reads a group after its opening bracket; `inner` reads what stands in it. -/
def group (inner : Reader Node) : Reader Node := do
  skipBlanks
  let state ← get
  match state.rest with
  | '?' :: '=' :: rest => moveTo rest; enclosed inner (.look false false)
  | '?' :: '!' :: rest => moveTo rest; enclosed inner (.look false true)
  | '?' :: '<' :: '=' :: rest => moveTo rest; enclosed inner (.look true false)
  | '?' :: '<' :: '!' :: rest => moveTo rest; enclosed inner (.look true true)
  | '?' :: '<' :: _ => do
    let (name, rest) ← name? ['<'] ['>'] (state.rest.drop 1)
    moveTo rest
    groupBody inner (← openGroup (some name))
  | '?' :: '\'' :: _ => do
    let (name, rest) ← name? ['\''] ['\''] (state.rest.drop 1)
    moveTo rest
    groupBody inner (← openGroup (some name))
  | '?' :: 'P' :: '<' :: _ => do
    let (name, rest) ← name? ['<'] ['>'] (state.rest.drop 2)
    moveTo rest
    groupBody inner (← openGroup (some name))
  | '?' :: 'P' :: '=' :: rest => moveTo rest; namedReference "" ")" false
  | '?' :: '>' :: rest => moveTo rest; enclosed inner .atomic
  | '?' :: '(' :: rest => moveTo rest; conditional inner
  | '?' :: rest =>
    moveTo rest
    flagGroup inner state.flags (rest.length + 1) 0 true
  | _ => groupBody inner (← openGroup none)

/-- Reads an atom. Where none can start, nothing is read and the atom is empty. -/
def atom (inner : Reader Node) : Reader Node := do
  skipBlanks
  let state ← get
  let flags := state.flags
  match state.rest with
  | [] => return .empty
  | c :: rest =>
    match c with
    | '.' =>
      moveTo rest
      return .one (if flags.dotAll then .anything else .complement (.single '\n'))
    | '^' =>
      moveTo rest
      return .anchor (if flags.multiLine then .lineStart else .textStart)
    | '$' =>
      moveTo rest
      return .anchor (if flags.multiLine then .lineEnd else .textEnd)
    | '(' => moveTo rest; group inner
    | '\\' => moveTo rest; escape
    | '[' =>
      let (a, rest) ← bracket? flags.ignoreCase rest
      moveTo rest
      return .one a
    | '+' | '*' | '?' | '|' | ')' => return .empty
    | c =>
      moveTo rest
      return .one ((CharClass.single c).withCase flags.ignoreCase)

/-! ## Quantifiers, sequences and alternatives -/

/-- The bounds of a quantifier in braces, after its opening brace, and what follows it. -/
def braces? (flags : Flags) (text : List Char) : Option (Nat × Option Nat × List Char) := do
  let text ← afterBlanks? flags text
  let (lo, text) ← if text.head? == some ',' then some (0, text) else number? text
  match ← afterBlanks? flags text with
  | '\x7d' :: rest => return (lo, some lo, rest)
  | ',' :: text =>
    let text ← afterBlanks? flags text
    let (hi, text) :=
      match number? text with
      | some (n, text) => (some n, text)
      | none => (none, text)
    match ← afterBlanks? flags text with
    | '\x7d' :: rest => return (lo, hi, rest)
    | _ => none
  | _ => none

/-- The bounds of the quantifier that comes next, and what follows it. -/
def quantifier? (flags : Flags) : List Char → Option (Nat × Option Nat × List Char)
  | '?' :: rest => some (0, some 1, rest)
  | '*' :: rest => some (0, none, rest)
  | '+' :: rest => some (1, none, rest)
  | '\x7b' :: rest => braces? flags rest
  | _ => none

/-- The most that a quantifier may ask for. -/
def maxRepeat : Nat := Nat.pow 2 32 - 1

/-- Whether a quantifier asks for something that can be: the bounds are in order and not too
large. -/
def boundsInOrder (lo : Nat) (hi : Option Nat) : Bool :=
  lo ≤ maxRepeat && hi.all fun hi => lo ≤ hi && hi ≤ maxRepeat

/-- Reads an atom and the quantifier after it. -/
def piece (inner : Reader Node) : Reader Node := do
  let node ← atom inner
  skipBlanks
  let state ← get
  match quantifier? state.flags state.rest with
  | none => return node
  | some (lo, hi, rest) =>
    guard (node.repeatable && boundsInOrder lo hi)
    let rest ← afterBlanks? state.flags rest
    let (lazily, rest) :=
      match rest with
      | '?' :: rest => (true, rest)
      | _ => (false, rest)
    let many := Node.many node lo hi (lazily == state.flags.swapGreed)
    match rest with
    | '+' :: rest =>
      moveTo rest
      return .atomic many
    | _ =>
      moveTo rest
      return many

/-- Reads pieces until one takes no character. Each step but the last uses one. -/
def pieces (inner : Reader Node) : Nat → Reader (List Node)
  | 0 => return []
  | steps + 1 => do
    let before := (← get).rest.length
    if before == 0 then return []
    else
      let node ← piece inner
      if (← get).rest.length == before then return []
      else
        let rest ← pieces inner steps
        return if node.isEmpty then rest else node :: rest

/-- Reads a sequence of pieces. -/
def branch (inner : Reader Node) : Reader Node := do
  let nodes ← pieces inner ((← get).rest.length + 1)
  return .ofSequence nodes

/-- Reads the alternatives after the first one. Each step uses a bar. -/
def furtherBranches (inner : Reader Node) : Nat → Reader (List Node)
  | 0 => return []
  | steps + 1 => do
    skipBlanks
    match (← get).rest with
    | '|' :: rest =>
      moveTo rest
      let node ← branch inner
      let more ← furtherBranches inner steps
      return node :: more
    | _ => return []

/-- Reads alternatives. Unless there are several, references by number and names of groups must
not have been mixed so far. -/
def alternatives (inner : Reader Node) : Reader Node := do
  let first ← branch inner
  let more ← furtherBranches inner ((← get).rest.length + 1)
  if more.isEmpty then
    let state ← get
    guard (!(state.numbered && !state.names.isEmpty))
    return first
  else return .choice (first :: more)

/-- Reads a pattern in which groups are nested less deep than a bound. -/
def nested : Nat → Reader Node
  | 0 => failure
  | depth + 1 => alternatives (nested depth)

/-- How deep groups may be nested, the pattern itself included. -/
def maxDepth : Nat := 64

/-- The tree of a pattern, and what was met on the way. -/
def read? (text : List Char) : Option (Node × ReadState) := do
  let (node, state) ← (nested maxDepth).run { rest := text }
  guard (state.rest.isEmpty && state.referenced.all fun i => 0 < i && i ≤ state.groups)
  return (node, state)

end ClassFields.Pattern
