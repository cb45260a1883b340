import ClassFields.Quoted
import ClassFields.Toml.Value

/-!
# JSON values as TOML

A section of a configuration can come as JSON. `Json.toTable` turns it into a TOML table, which has
no null and no integers above 63 bits.
-/

namespace ClassFields

/-- A JSON value. The keys of an object are in ascending order. -/
inductive Json where
  | null
  | boolean (b : Bool)
  | integer (n : Int)
  | float (x : Decimal)
  | string (s : String)
  | array (items : List Json)
  | object (entries : List (String × Json))
  deriving Repr

namespace Json

/-- An object with entries in any order. -/
def ofEntries (entries : List (String × Json)) : Json := object (Toml.sortByKey entries)

/-- The value of a key of an object. Other values have no keys. -/
def get? (json : Json) (key : String) : Option Json :=
  match json with
  | object entries => entries.lookup key
  | _ => none

/-- Why a JSON value is no TOML table. -/
inductive Mismatch where
  /-- It is not an object; the text says what it is instead. -/
  | notObject (found : String)
  | nullInside
  | tooLarge
  deriving DecidableEq, Repr

/-- The reason in words. -/
def Mismatch.message : Mismatch → String
  | notObject found => "invalid type: " ++ found ++ ", expected a map"
  | nullInside => "invalid type: null, expected any valid TOML value"
  | tooLarge => "u64 value was too large"

/-- What a value is, in words. -/
def describe : Json → String
  | null => "null"
  | boolean b => "boolean `" ++ (if b then "true" else "false") ++ "`"
  | integer n => "integer `" ++ toString n ++ "`"
  | float x => "floating point `" ++ x.text ++ "`"
  | string s => "string " ++ Quoted.ofString s
  | array _ => "sequence"
  | object _ => "map"

mutual

/-- A value as a TOML value. Of several reasons why it is none, the first counts. -/
def toValue : Json → Except Mismatch Toml.Value
  | null => .error .nullInside
  | boolean b => .ok (.boolean b)
  | integer n => if n < Int.ofNat (Nat.pow 2 63) then .ok (.integer n) else .error .tooLarge
  | float x => .ok (.float (.finite x))
  | string s => .ok (.string s)
  | array items => do return .array (← toValues items)
  | object entries => do return .table (← toEntries entries)

/-- The values of an array. -/
def toValues : List Json → Except Mismatch (List Toml.Value)
  | [] => .ok []
  | json :: rest => do
    let v ← toValue json
    return v :: (← toValues rest)

/-- The entries of an object. -/
def toEntries : List (String × Json) → Except Mismatch (List (String × Toml.Value))
  | [] => .ok []
  | (key, json) :: rest => do
    let v ← toValue json
    return (key, v) :: (← toEntries rest)

end

/-- An object as a TOML table. -/
def toTable (json : Json) : Except Mismatch Toml.Table :=
  match json with
  | object entries => toEntries entries
  | other => .error (.notObject other.describe)

end Json

end ClassFields
