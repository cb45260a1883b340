import ClassFields.Unicode.Identifier
import ClassFields.Unicode.Property
import ClassFields.Unicode.Script

/-!
# Sets of characters by name

A set is named by a property, a general category or a script, or by one of `gc`, `sc` and `scx`
with a value. Names are compared without regard to case, blanks, hyphens, low lines and a leading
`is`.
-/

namespace ClassFields.Unicode

/-- The letters of a name that count when names are compared. -/
def significant : List Char → List Char
  | [] => []
  | c :: rest =>
    if c == ' ' || c == '_' || c == '-' || 0x80 ≤ c.toNat then significant rest
    else c.toLower :: significant rest

/-- The form of a name in which names are compared. A leading `is` does not count, except in `isc`,
which is a name of its own. -/
def comparable (name : List Char) : String :=
  match name with
  | a :: b :: rest =>
    if a.toLower == 'i' && b.toLower == 's' then
      let short := String.ofList (significant rest)
      if short == "c" then "isc" else short
    else String.ofList (significant name)
  | _ => String.ofList (significant name)

/-- The characters of a general category or of a group of them. -/
def categoryNamed? (name : String) : Option Ranges :=
  if name == "any" then some [(0, 0x10FFFF)]
  else if name == "assigned" then
    some (Category.ranges fun k => !(k.major == 'C' && k.minor == 'n'))
  else if name == "ascii" then some [(0, 0x7F)]
  else (Category.groups.find? (·.names.contains name)).map (·.ranges)

/-- A script by one of its names. -/
def scriptNamed? (name : String) : Option Script :=
  Script.all.find? (·.names.contains name)

/-- The tables that start and continue an identifier, with ASCII. -/
def identifierTables : List (List String × Ranges) :=
  let start : Ranges := [(0x41, 0x5A), (0x61, 0x7A)] ++ xidStartRanges
  let continuing : Ranges :=
    [(0x30, 0x39), (0x41, 0x5A), (0x5F, 0x5F), (0x61, 0x7A)] ++ xidContinueRanges
  [(["xids", "xidstart"], start), (["ids", "idstart"], start),
   (["xidc", "xidcontinue"], continuing), (["idc", "idcontinue"], continuing)]

/-- The properties that patterns and identifiers use, with ASCII. -/
def commonTables : List (List String × Ranges) :=
  [(["alpha", "alphabetic"], [(0x41, 0x5A), (0x61, 0x7A)] ++ alphabeticRanges),
   (["wspace", "whitespace", "space"],
    [(0x09, 0x0D), (0x20, 0x20), (0x85, 0x85), (0xA0, 0xA0), (0x1680, 0x1680), (0x2000, 0x200A),
     (0x2028, 0x2029), (0x202F, 0x202F), (0x205F, 0x205F), (0x3000, 0x3000)]),
   (["joinc", "joincontrol"], [(0x200C, 0x200D)])]

/-- The characters with a property. -/
def propertyNamed? (name : String) : Option Ranges :=
  ((identifierTables ++ commonTables ++ properties).find? (·.1.contains name)).map (·.2)

/-- The set with a name: a property, a category or a script, in this order. -/
def named? (name : List Char) : Option Ranges :=
  let name := comparable name
  (propertyNamed? name).or ((categoryNamed? name).or ((scriptNamed? name).map (·.own)))

/-- The set of the characters for which a property has a value. -/
def valued? (property value : List Char) : Option Ranges :=
  let property := comparable property
  let value := comparable value
  if property == "gc" || property == "generalcategory" then categoryNamed? value
  else if property == "sc" || property == "script" then (scriptNamed? value).map (·.own)
  else if property == "scx" || property == "scriptextensions" then
    (scriptNamed? value).map (·.extended)
  else none

end ClassFields.Unicode
