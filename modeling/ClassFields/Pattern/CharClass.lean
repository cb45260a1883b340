import ClassFields.Unicode.Folding
import ClassFields.Unicode.Property

/-!
# Character classes

A class is a description of a set of characters, built from ranges and named sets by the usual
operations. `contains` gives its meaning.
-/

namespace ClassFields

open Unicode

/-- A set of characters, described. -/
inductive CharClass where
  | range (first last : Char)
  | table (ranges : Ranges)
  | digit
  | blank
  | word
  | nothing
  | union (a b : CharClass)
  | intersection (a b : CharClass)
  | difference (a b : CharClass)
  | symmetricDifference (a b : CharClass)
  | complement (a : CharClass)
  /-- All characters that differ only in case from one of the set. -/
  | folded (a : CharClass)
  deriving Repr, DecidableEq

namespace CharClass

/-- Whether a class contains a character. -/
def contains : CharClass → Char → Bool
  | range first last, c => first ≤ c && c ≤ last
  | table ranges, c => ranges.contains c
  | digit, c => isDecimalDigit c
  | blank, c => isBlank c
  | word, c => isWord c
  | nothing, _ => false
  | union a b, c => a.contains c || b.contains c
  | intersection a b, c => a.contains c && b.contains c
  | difference a b, c => a.contains c && !b.contains c
  | symmetricDifference a b, c => a.contains c != b.contains c
  | complement a, c => !a.contains c
  | folded a, c => a.contains c || (caseVariants c.toNat).any fun n => a.contains (Char.ofNat n)

/-- The class of one character. -/
def single (c : Char) : CharClass := range c c

/-- Every character. -/
def anything : CharClass := complement nothing

/-- A class, made insensitive to case on request. -/
def withCase (ignoreCase : Bool) (a : CharClass) : CharClass :=
  if ignoreCase then folded a else a

/-- A class, turned into its complement on request. -/
def withSign (negated : Bool) (a : CharClass) : CharClass :=
  if negated then complement a else a

end CharClass

end ClassFields
