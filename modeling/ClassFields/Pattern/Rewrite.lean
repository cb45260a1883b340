import ClassFields.Pattern.Program

/-!
# Replacing all matches

`Program.rewrite` replaces the matches of a pattern, from left to right and without overlap. An
empty match directly after the match before it does not count. If a search has no answer, nothing
is replaced.
-/

namespace ClassFields

/-- A match: the text it was found in and what the groups took. -/
structure Match where
  text : List Char
  slots : Slots

namespace Match

/-- The text that a group took, if it took part. -/
def group? (found : Match) (i : Nat) : Option (List Char) :=
  (found.slots.span? i).map fun (lo, hi) => (found.text.drop lo).take (hi - lo)

end Match

namespace Program

/-- Replaces matches from a place on. `spot` is where the last match ended, `from?` where the next
search starts, if it can, and `last` the end of the last match, if there was one. `stepping` tells
whether a pattern can see that an empty match has been stepped over. -/
def rewriteFrom (program : Program) (stepping : Bool) (text : List Char)
    (replacement : Match → List Char) :
    Nat → Spot → Option Spot → Option Nat → Except SearchFault (List Char)
  | 0, spot, _, _ => .ok spot.after
  | _ + 1, spot, none, _ => .ok spot.after
  | steps + 1, spot, some origin, last =>
    let steppedOver := stepping && last.any (· < origin.index)
    match program.search origin steppedOver with
    | .failed fault => .error fault
    | .unmatched => .ok spot.after
    | .matched slots =>
      let (lo, hi) := (slots.span? 0).getD (0, 0)
      let stop := origin.forward (hi - origin.index)
      if lo == hi && last == some hi then
        rewriteFrom program stepping text replacement steps spot stop.next? last
      else do
        let next := if lo == hi then stop.next? else some stop
        let rest ← rewriteFrom program stepping text replacement steps stop next (some hi)
        return spot.after.take (lo - spot.index) ++ replacement ⟨text, slots⟩ ++ rest

/-- Replaces all matches in a text, unless a search has no answer. From a place there is one search,
or a second one that differs in whether an empty match has been stepped over, so twice as many steps
as there are places are enough. -/
def rewrite (program : Program) (stepping : Bool) (replacement : Match → List Char)
    (text : List Char) : Except SearchFault (List Char) :=
  rewriteFrom program stepping text replacement (2 * (text.length + 1)) (.start text)
    (some (.start text)) none

end Program

end ClassFields
