/-!
# Reserved words

The words that cannot be used as the name of a field.
-/

namespace ClassFields

/-- Keywords, those in use first, then those kept for the future. -/
def reservedWords : List String :=
  ["as", "async", "await", "break", "const", "continue", "crate", "dyn", "else", "enum",
   "extern", "false", "fn", "for", "if", "impl", "in", "let", "loop", "match", "mod", "move",
   "mut", "pub", "ref", "return", "Self", "self", "static", "struct", "super", "trait", "true",
   "type", "unsafe", "use", "where", "while",
   "abstract", "become", "box", "do", "final", "macro", "override", "priv", "try", "typeof",
   "unsized", "virtual", "yield"]

/-- Whether a word is reserved. -/
def isReserved (word : String) : Bool := reservedWords.contains word

/-- What is appended to a reserved word. -/
def reservedSuffix : String := "_"

/-- A name that is not reserved: reserved words get a suffix. -/
def avoidReserved (name : String) : String :=
  if isReserved name then name ++ reservedSuffix else name

end ClassFields
