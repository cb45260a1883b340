/-!
# Sets of characters as ranges

A set of code points is a list of disjoint ranges in ascending order. Tables are written as run
lengths: how many characters are outside the set, then how many are inside, and so on from U+0000.
-/

namespace ClassFields.Unicode

/-- Disjoint ranges of code points, ends included, in ascending order. -/
abbrev Ranges := List (Nat × Nat)

namespace Ranges

/-- Whether a code point lies in one of the ranges. The search stops at the first range above it. -/
def holds : Ranges → Nat → Bool
  | [], _ => false
  | (lo, hi) :: rest, n => if n < lo then false else n ≤ hi || holds rest n

/-- Whether a character lies in one of the ranges. -/
def contains (ranges : Ranges) (c : Char) : Bool := ranges.holds c.toNat

/-- The ranges of alternate run lengths, outside first, that start at a code point. -/
def ofRuns : List Nat → Nat → Ranges
  | gap :: run :: rest, start => (start + gap, start + gap + run - 1) :: ofRuns rest (start + gap + run)
  | _, _ => []

end Ranges

/-- The decimal numbers of a text; whatever is not a digit separates them. -/
def numbersOf : List Char → Option Nat → List Nat
  | [], pending => pending.toList
  | c :: rest, pending =>
    if c.isDigit then numbersOf rest (some (pending.getD 0 * 10 + (c.toNat - '0'.toNat)))
    else pending.toList ++ numbersOf rest none

/-- The ranges that lines of run lengths describe. -/
def Ranges.ofLines (lines : List String) : Ranges :=
  ofRuns (lines.flatMap fun line => numbersOf line.toList none) 0

end ClassFields.Unicode
