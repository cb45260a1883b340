import ClassFields.Pattern.Node

/-!
# Places in a text

A `Spot` is a place between the characters of a text. A `Thread` is a spot on the way of a match,
with the places at which groups have started and ended so far.
-/

namespace ClassFields

/-- A place in a text: the characters before it, the nearest first, and those after it. -/
structure Spot where
  /-- How many characters are before. -/
  index : Nat
  before : List Char
  after : List Char
  deriving DecidableEq, Repr

namespace Spot

/-- The start of a text. -/
def start (text : List Char) : Spot := ⟨0, [], text⟩

/-- The whole text. -/
def text (spot : Spot) : List Char := spot.before.reverse ++ spot.after

/-- The next place, unless the text ends here. -/
def next? (spot : Spot) : Option Spot :=
  match spot.after with
  | [] => none
  | c :: rest => some ⟨spot.index + 1, c :: spot.before, rest⟩

/-- The place a number of characters further on, or the end of the text. -/
def forward : Nat → Spot → Spot
  | 0, spot => spot
  | n + 1, ⟨index, before, c :: rest⟩ => forward n ⟨index + 1, c :: before, rest⟩
  | _ + 1, ⟨index, before, []⟩ => ⟨index, before, []⟩

/-- The place a number of characters back, unless the text starts after it. -/
def back? : Nat → Spot → Option Spot
  | 0, spot => some spot
  | n + 1, ⟨index, c :: before, rest⟩ => back? n ⟨index - 1, before, c :: rest⟩
  | _ + 1, ⟨_, [], _⟩ => none

/-- The characters between two indices. -/
def slice (spot : Spot) (lo hi : Nat) : List Char := (spot.text.drop lo).take (hi - lo)

/-- Whether the character before is one of a word. -/
def afterWord (spot : Spot) : Bool := spot.before.head?.any Unicode.isWord

/-- Whether the character after is one of a word. -/
def beforeWord (spot : Spot) : Bool := spot.after.head?.any Unicode.isWord

end Spot

/-- Whether an anchor holds at a place. -/
def Anchor.holds : Anchor → Spot → Bool
  | textStart, spot => spot.before.isEmpty
  | textEnd, spot => spot.after.isEmpty
  | lineStart, spot => spot.before.head?.all (· == '\n')
  | lineEnd, spot => spot.after.head?.all (· == '\n')
  | wordBoundary, spot => spot.afterWord != spot.beforeWord
  | noWordBoundary, spot => spot.afterWord == spot.beforeWord
  | wordStart, spot => !spot.afterWord && spot.beforeWord
  | wordEnd, spot => spot.afterWord && !spot.beforeWord

/-- The indices at which groups start and end. Those of group `i` are at `2 * i` and `2 * i + 1`. -/
abbrev Slots := List (Option Nat)

namespace Slots

/-- No group has taken part. The pattern as a whole is group zero. -/
def unset (groups : Nat) : Slots := List.replicate (2 * groups + 2) none

/-- What a slot holds. -/
def at? (slots : Slots) (i : Nat) : Option Nat := slots.getD i none

/-- The span of a group that has started and ended. -/
def span? (slots : Slots) (group : Nat) : Option (Nat × Nat) :=
  match slots.at? (2 * group), slots.at? (2 * group + 1) with
  | some lo, some hi => some (lo, hi)
  | _, _ => none

/-- The slots with some groups forgotten. -/
def forget (slots : Slots) (groups : List Nat) : Slots :=
  groups.foldl (fun slots i => (slots.set (2 * i) none).set (2 * i + 1) none) slots

end Slots

/-- A match on its way: where it is and what the groups have taken. -/
structure Thread where
  spot : Spot
  slots : Slots
  deriving DecidableEq, Repr

namespace Thread

/-- Notes the place in a slot. -/
def save (thread : Thread) (slot : Nat) : Thread :=
  { thread with slots := thread.slots.set slot (some thread.spot.index) }

/-- Takes one character, if it is in a class. -/
def take? (thread : Thread) (a : CharClass) : Option Thread :=
  match thread.spot.after with
  | [] => none
  | c :: rest =>
    if a.contains c then
      some { thread with spot := ⟨thread.spot.index + 1, c :: thread.spot.before, rest⟩ }
    else none

end Thread

end ClassFields
