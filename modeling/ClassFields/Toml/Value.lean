import ClassFields.Decimal

/-!
# TOML values
-/

namespace ClassFields.Toml

/-- A floating-point value as written. -/
inductive Float where
  | finite (x : Decimal)
  | infinite (negative : Bool)
  | nan
  deriving DecidableEq, Repr

/-- A day of the calendar. -/
structure Date where
  year : Nat
  month : Nat
  day : Nat
  deriving DecidableEq, Repr

/-- A time of day. The fraction of a second has as many digits as written. -/
structure Time where
  hour : Nat
  minute : Nat
  second : Nat
  fraction : List Char
  deriving DecidableEq, Repr

/-- A date, a time of day or both; both may have an offset in minutes. -/
structure Moment where
  date : Option Date
  time : Option Time
  offset : Option Int
  deriving DecidableEq, Repr

/-- A value. The keys of a table are in ascending order. -/
inductive Value where
  | string (s : String)
  | integer (n : Int)
  | float (x : Float)
  | boolean (b : Bool)
  | moment (m : Moment)
  | array (items : List Value)
  | table (entries : List (String × Value))
  deriving Repr

/-- The entries of a table, in ascending order of their keys. -/
abbrev Table := List (String × Value)

namespace Table

/-- The keys of a table. -/
def keys (table : Table) : List String := table.map (·.1)

/-- The value of a key. -/
def get? (table : Table) (key : String) : Option Value := table.lookup key

end Table

/-- The value of a key of a table. Other values have no keys. -/
def Value.get? (value : Value) (key : String) : Option Value :=
  match value with
  | table entries => entries.lookup key
  | _ => none

/-- Puts an entry where its key belongs. -/
def insertSorted {α : Type} (entry : String × α) : List (String × α) → List (String × α)
  | [] => [entry]
  | other :: rest =>
    if entry.1 < other.1 then entry :: other :: rest else other :: insertSorted entry rest

/-- Entries in ascending order of their keys. -/
def sortByKey {α : Type} (entries : List (String × α)) : List (String × α) :=
  entries.foldr insertSorted []

end ClassFields.Toml
