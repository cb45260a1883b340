import ClassFields.Toml.Scalar

/-!
# TOML documents

A document is read in two steps: its text into statements, and the statements into a table. Values
may be nested 80 deep; the reader for each depth is made from the reader for the next one.
-/

namespace ClassFields.Toml

/-! ## Tables under construction -/

/-- An entry of a table under construction. A table is `implicit` while only keys below it have been
written, and `dotted` if a dotted key made it. -/
inductive Draft where
  | value (v : Value)
  | table (isImplicit dotted : Bool) (entries : List (String × Draft))
  | tables (items : List (List (String × Draft)))

/-- The entries of a table under construction, in the order written. -/
abbrev Drafts := List (String × Draft)

namespace Drafts

/-- The entries with that of a key replaced. -/
def replace (key : String) (draft : Draft) (entries : Drafts) : Drafts :=
  entries.map fun entry => if entry.1 == key then (key, draft) else entry

/-- Changes the table at a path. Tables on the way that are missing are made. A dotted key enters
no table that has been written out, and no path enters a value. The change is told whether a dotted
key made the table. -/
def change (byDots : Bool) (f : (dotted : Bool) → Drafts → Option Drafts) :
    List String → (dotted : Bool) → Drafts → Option Drafts
  | [], dotted, entries => f dotted entries
  | key :: path, _, entries =>
    match entries.lookup key with
    | none => do
      let inner ← change byDots f path byDots []
      return entries ++ [(key, .table true byDots inner)]
    | some (.value _) => none
    | some (.table isImplicit dotted inner) => do
      guard (!(byDots && !isImplicit))
      let inner ← change byDots f path dotted inner
      return replace key (.table isImplicit dotted inner) entries
    | some (.tables items) => do
      let last ← items.getLast?
      let last ← change byDots f path false last
      return replace key (.tables (items.dropLast ++ [last])) entries

/-- Puts a value at a key that is not taken yet. -/
def assign (path : List String) (key : String) (v : Value) (entries : Drafts) : Option Drafts :=
  change true
    (fun dotted inner => do
      guard (dotted != path.isEmpty)
      guard (inner.lookup key).isNone
      return inner ++ [(key, .value v)])
    path false entries

/-- The entries with several values put in. -/
def assignAll (entries : Drafts) (pairs : List (List String × String × Value)) : Option Drafts :=
  pairs.foldlM (fun entries (path, key, v) => assign path key v entries) entries

/-- Adds a table with a header. It may continue one of which only keys below it have been
written. -/
def addTable (path : List String) (key : String) (pairs : List (List String × String × Value))
    (entries : Drafts) : Option Drafts :=
  change false
    (fun _ outer =>
      match outer.lookup key with
      | none => do return outer ++ [(key, .table false false (← assignAll [] pairs))]
      | some (.table true false inner) => do
        return replace key (.table false false (← assignAll inner pairs)) outer
      | _ => none)
    path false entries

/-- Adds one more table to an array of tables. -/
def addToArray (path : List String) (key : String) (pairs : List (List String × String × Value))
    (entries : Drafts) : Option Drafts :=
  change false
    (fun _ outer =>
      match outer.lookup key with
      | none => do return outer ++ [(key, .tables [← assignAll [] pairs])]
      | some (.tables items) => do
        return replace key (.tables (items ++ [← assignAll [] pairs])) outer
      | _ => none)
    path false entries

end Drafts

mutual

/-- The value that an entry has become. -/
def Draft.finish : Draft → Value
  | .value v => v
  | .table _ _ entries => .table (sortByKey (finishEntries entries))
  | .tables items => .array (finishTables items)

/-- The values of entries. -/
def finishEntries : List (String × Draft) → List (String × Value)
  | [] => []
  | (key, draft) :: rest => (key, draft.finish) :: finishEntries rest

/-- The tables of an array of tables. -/
def finishTables : List (List (String × Draft)) → List Value
  | [] => []
  | entries :: rest => .table (sortByKey (finishEntries entries)) :: finishTables rest

end

/-- The table that entries have become. -/
def Drafts.finish (entries : Drafts) : Table := sortByKey (finishEntries entries)

/-! ## Keys and values -/

/-- Characters of keys without quotes. -/
def isKeyChar (c : Char) : Bool := c.isAlphanum || c == '_' || c == '-'

/-- One part of a key. -/
def simpleKey? : Part String := fun text => do
  let (s, rest) ←
    match text with
    | '"' :: rest => basic? (rest.length + 1) rest
    | '\'' :: rest => literal? rest
    | _ =>
      let s := text.takeWhile isKeyChar
      if s.isEmpty then none else some (s, text.dropWhile isKeyChar)
  return (String.ofList s, rest)

/-- A key: parts with dots between them. Each step uses a character. -/
def key? : Nat → Part (List String)
  | 0, _ => none
  | steps + 1, text => do
    let (first, rest) ← simpleKey? (afterSpaces text)
    match afterSpaces rest with
    | '.' :: rest => do
      let (more, rest) ← key? steps rest
      return (first :: more, rest)
    | rest => return ([first], rest)

/-- A key and the value put there: the path, the last part of the key and the value. -/
def pair? (value : Part Value) : Part (List String × String × Value) := fun text => do
  let (key, rest) ← key? (text.length + 1) text
  let rest ← after? '=' rest
  let (v, rest) ← value (afterSpaces rest)
  return ((key.dropLast, ← key.getLast?, v), rest)

/-- The items of an array after its opening bracket. Each step uses a character. -/
def items? (value : Part Value) : Nat → Part (List Value)
  | 0, _ => none
  | steps + 1, text => do
    let text ← skipLines false text
    match text with
    | ']' :: rest => return ([], rest)
    | _ =>
      let (v, rest) ← value text
      match ← skipLines false rest with
      | ',' :: rest => do
        let (more, rest) ← items? value steps rest
        return (v :: more, rest)
      | ']' :: rest => return ([v], rest)
      | _ => none

/-- The pairs of an inline table, the first of which comes next. Each step uses a character. -/
def pairs? (value : Part Value) : Nat → Part (List (List String × String × Value))
  | 0, _ => none
  | steps + 1, text => do
    let (pair, rest) ← pair? value (afterSpaces text)
    match afterSpaces rest with
    | ',' :: rest => do
      let (more, rest) ← pairs? value steps rest
      return (pair :: more, rest)
    | '\x7d' :: rest => return ([pair], rest)
    | _ => none

/-- An inline table after its opening brace. -/
def inlineTable? (value : Part Value) : Part Value := fun text =>
  match afterSpaces text with
  | '\x7d' :: rest => some (.table [], rest)
  | _ => do
    let (pairs, rest) ← pairs? value (text.length + 1) text
    let entries ← Drafts.assignAll [] pairs
    return (.table entries.finish, rest)

/-- A number, a date or a time. -/
def number? : Part Value := fun text =>
  match moment? text, float? text with
  | some (m, rest), _ => some (.moment m, rest)
  | none, some (x, rest) => some (.float x, rest)
  | none, none => (integer? text).map fun (n, rest) => (.integer n, rest)

/-- A value in which arrays and tables are nested less deep than a bound. -/
def value? : Nat → Part Value
  | 0, _ => none
  | depth + 1, text =>
    match text with
    | '[' :: rest => (items? (value? depth) (rest.length + 1) rest).map fun (vs, rest) =>
        (.array vs, rest)
    | '\x7b' :: rest => inlineTable? (value? depth) rest
    | 't' :: 'r' :: 'u' :: 'e' :: rest => some (.boolean true, rest)
    | 'f' :: 'a' :: 'l' :: 's' :: 'e' :: rest => some (.boolean false, rest)
    | '"' :: _ => (string? text).map fun (s, rest) => (.string s, rest)
    | '\'' :: _ => (string? text).map fun (s, rest) => (.string s, rest)
    | _ => number? text

/-- How deep values may be nested. -/
def maxDepth : Nat := 80

/-! ## Statements -/

/-- A statement of a document. -/
inductive Statement where
  | pair (path : List String) (key : String) (v : Value)
  | header (path : List String) (key : String)
  | arrayHeader (path : List String) (key : String)

/-- The statement that comes next. -/
def statement? : Part Statement := fun text =>
  match text with
  | '[' :: '[' :: rest => do
    let (key, rest) ← key? (rest.length + 1) rest
    let rest ← after? ']' rest
    return (.arrayHeader key.dropLast (← key.getLast?), ← after? ']' rest)
  | '[' :: rest => do
    let (key, rest) ← key? (rest.length + 1) rest
    return (.header key.dropLast (← key.getLast?), ← after? ']' rest)
  | _ => do
    let ((path, key, v), rest) ← pair? (value? maxDepth) text
    return (.pair path key v, rest)

/-- The statements of a document. Each step uses a line. -/
def statements? : Nat → List Char → Option (List Statement)
  | 0, _ => none
  | steps + 1, text =>
    match afterSpaces text with
    | [] => some []
    | c :: rest =>
      if c == '#' || c == '\n' || c == '\r' then do
        statements? steps (← afterLine? (c :: rest))
      else do
        let (first, rest) ← statement? (c :: rest)
        let more ← statements? steps (← afterLine? rest)
        return first :: more

/-- The pairs at the front of some statements, and the statements from the first header on. -/
def splitPairs : List Statement → List (List String × String × Value) × List Statement
  | .pair path key v :: rest =>
    let (pairs, rest) := splitPairs rest
    ((path, key, v) :: pairs, rest)
  | rest => ([], rest)

/-- Adds the tables of the statements from a header on. Each step uses a statement. -/
def addTables : Nat → List Statement → Drafts → Option Drafts
  | 0, _, _ => none
  | _ + 1, [], entries => some entries
  | steps + 1, .header path key :: rest, entries => do
    let (pairs, rest) := splitPairs rest
    addTables steps rest (← entries.addTable path key pairs)
  | steps + 1, .arrayHeader path key :: rest, entries => do
    let (pairs, rest) := splitPairs rest
    addTables steps rest (← entries.addToArray path key pairs)
  | _ + 1, .pair .. :: _, _ => none

/-- The table that statements make. -/
def tableOf? (statements : List Statement) : Option Table := do
  let (pairs, rest) := splitPairs statements
  let entries ← Drafts.assignAll [] pairs
  let entries ← addTables (rest.length + 1) rest entries
  return entries.finish

/-- The table of a document, unless it is malformed. A byte order mark in front does not count. -/
def parse? (text : String) : Option Table :=
  let text :=
    match text.toList with
    | '\uFEFF' :: rest => rest
    | text => text
  (statements? (text.length + 1) text).bind tableOf?

end ClassFields.Toml
