import ClassFields.Pattern.CharClass

/-!
# Character classes as ranges

A class as the list of the ranges that it contains. Whether a class contains a code point changes
only at its cuts, where one of the ranges it is built from starts or has just ended. So one code
point of each stretch between two cuts tells what the class contains there.
-/

namespace ClassFields

open Unicode

/-- The cuts of some ranges: their first code points, and the first ones after them. -/
def Unicode.Ranges.cuts (ranges : Ranges) : List Nat :=
  ranges.flatMap fun (lo, hi) => [lo, hi + 1]

namespace CharClass

/-- The cuts of the decimal digits. -/
def digitCuts : List Nat := decimalZeros.flatMap fun first => [first, first + 10]

/-- The cuts of the blanks. -/
def blankCuts : List Nat :=
  [0x09, 0x0E, 0x20, 0x21, 0x85, 0x86, 0xA0, 0xA1, 0x1680, 0x1681, 0x2000, 0x200B, 0x2028, 0x202A,
    0x202F, 0x2030, 0x205F, 0x2060, 0x3000, 0x3001]

/-- The cuts of the word characters. -/
def wordCuts : List Nat :=
  [0x30, 0x3A, 0x41, 0x5B, 0x5F, 0x60, 0x61, 0x7B, 0x80, 0x200C, 0x200E] ++ digitCuts ++
    connectors.cuts ++ marks.cuts ++ alphabeticRanges.cuts

/-- The code points that case folding moves, or moves something to. -/
def foldPoints : List Nat :=
  foldRuns.flatMap fun run =>
    (List.range ((run.last - run.first) / run.step + 1)).flatMap fun i =>
      let n := run.first + i * run.step
      [n, (Int.ofNat n + run.offset).toNat]

/-- The code points that case folding moves, or moves something to, each with its case variants. -/
def foldOrbits : List (Nat × List Nat) := foldPoints.map fun n => (n, caseVariants n)

/-- Whether a class contains the character with a code point. -/
def holds (a : CharClass) (n : Nat) : Bool := n.isValidChar && a.contains (Char.ofNat n)

/-- The cuts around the single code points that folding adds to a class. -/
def foldCuts (a : CharClass) : List Nat :=
  foldOrbits.flatMap fun (n, variants) =>
    if !a.holds n && variants.any (a.contains <| .ofNat ·) then [n, n + 1] else []

/-- The cuts of a class. -/
def cuts : CharClass → List Nat
  | range first last => [first.toNat, last.toNat + 1]
  | table ranges => ranges.cuts
  | digit => digitCuts
  | blank => blankCuts
  | word => wordCuts
  | nothing => []
  | union a b | intersection a b | difference a b | symmetricDifference a b => a.cuts ++ b.cuts
  | complement a => a.cuts
  | folded a => a.cuts ++ a.foldCuts

/-- A cut, put in its place among cuts in ascending order. -/
def insertCut (n : Nat) : List Nat → List Nat
  | [] => [n]
  | m :: rest => if n < m then n :: m :: rest else if n = m then m :: rest else m :: insertCut n rest

/-- The cuts of the code points that are characters. -/
def charCuts : List Nat := [0, 0xD800, 0xE000, 0x110000]

/-- The ranges that a predicate holds on, by its cuts. A range that has started before them is open. -/
def rangesFrom (p : Nat → Bool) : Option Nat → List Nat → Ranges
  | _, [] => []
  | none, cut :: rest => rangesFrom p (if p cut then some cut else none) rest
  | some first, cut :: rest =>
    if p cut then rangesFrom p (some first) rest
    else (first, cut - 1) :: rangesFrom p none rest

/-- The ranges of the characters that a class contains. -/
def ranges (a : CharClass) : Ranges :=
  rangesFrom a.holds none (a.cuts.foldr insertCut charCuts)

end CharClass

end ClassFields
