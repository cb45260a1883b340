import ClassFields.Unicode.Named

/-!
# Quoted text

How a text is quoted in a message: between double quotes, with a backslash before what would be
misread, and the code point of what would not be seen.
-/

namespace ClassFields.Quoted

open Unicode

/-- The characters that extend the one before them. -/
def extenders : Ranges := (propertyNamed? "grext").getD []

/-- A character by its code point. -/
def byCode (c : Char) : List Char :=
  ['\\', 'u', '\x7b'] ++ Nat.toDigits 16 c.toNat ++ ['\x7d']

/-- A character as it is written between quotes. -/
def ofChar (c : Char) : List Char :=
  match c with
  | '\x00' => ['\\', '0']
  | '\t' => ['\\', 't']
  | '\r' => ['\\', 'r']
  | '\n' => ['\\', 'n']
  | '\\' => ['\\', '\\']
  | '"' => ['\\', '"']
  | ' ' => [' ']
  | _ => if extenders.contains c || unprintable.contains c then byCode c else [c]

/-- A text between quotes. -/
def ofString (s : String) : String := String.ofList ('"' :: s.toList.flatMap ofChar ++ ['"'])

end ClassFields.Quoted
