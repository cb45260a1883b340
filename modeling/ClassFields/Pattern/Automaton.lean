import ClassFields.Pattern.ClassRanges
import ClassFields.Pattern.Regular

/-!
# The sizes of automata

Before a regular pattern is matched, it is compiled to two automata on the bytes of UTF-8, one that
reads forward and one that reads backward. It is rejected if one of them is too large
(`Regular.fits`). Sizes are in bytes: a state takes 32, and one with several ways to go on takes more
for each of them. A repetition takes the states of what is repeated as often as its bounds say. A
class takes as many states as its characters need in UTF-8, where what is followed by the same is
shared.

Classes are counted as if everything were shared that can be. The compiler only remembers some of
the states it could share, so its automata can be a little larger.
-/

namespace ClassFields

/-- The sizes of a state, of a transition on a range of bytes, and of a branch without a byte. -/
def stateSize : Nat := 32

@[inherit_doc stateSize]
def transitionSize : Nat := 8

@[inherit_doc stateSize]
def branchSize : Nat := 4

/-! ## Characters as bytes -/

namespace Utf8

/-- A sequence of ranges of bytes. It stands for all sequences of bytes in these ranges. -/
abbrev Sequence := List (Nat × Nat)

/-- The numbers from one to another, with digits to base 64 of which some come after the first one, as
sequences of ranges of digits. Numbers with any digits from some place on are in one sequence. -/
def digits : Nat → Nat → Nat → List Sequence
  | 0, lo, hi => [[(lo, hi)]]
  | later + 1, lo, hi =>
    let unit := 64 ^ (later + 1)
    let head (n : Nat) (tails : List Sequence) := tails.map ((n, n) :: ·)
    if lo / unit = hi / unit then head (lo / unit) (digits later (lo % unit) (hi % unit))
    else
      let start := (lo + unit - 1) / unit
      let stop := (hi + 1) / unit
      (if lo % unit = 0 then [] else head (lo / unit) (digits later (lo % unit) (unit - 1))) ++
        (if start < stop then [(start, stop - 1) :: List.replicate (later + 1) (0, 63)] else []) ++
        (if (hi + 1) % unit = 0 then [] else head (hi / unit) (digits later 0 (hi % unit)))

/-- How the characters of a range are encoded: a first byte from `lead` on, and some later bytes. -/
structure Width where
  first : Nat
  last : Nat
  lead : Nat
  later : Nat

/-- The encodings by one byte up to four. -/
def widths : List Width :=
  [⟨0, 0x7F, 0, 0⟩, ⟨0x80, 0x7FF, 0xC0, 1⟩, ⟨0x800, 0xFFFF, 0xE0, 2⟩, ⟨0x10000, 0x10FFFF, 0xF0, 3⟩]

/-- The bytes of a sequence of digits. -/
def Width.mark (width : Width) : Sequence → Sequence
  | [] => []
  | (lo, hi) :: later =>
    (width.lead + lo, width.lead + hi) :: later.map fun (lo, hi) => (0x80 + lo, 0x80 + hi)

/-- The sequences that encode a range of characters, in ascending order. -/
def sequences (lo hi : Nat) : List Sequence :=
  widths.flatMap fun width =>
    let lo := max lo width.first
    let hi := min hi width.last
    if lo ≤ hi then (digits width.later lo hi).map width.mark else []

/-- Sequences by what they begin with. A tree is the list of the ways to go on from a place: a range
of bytes and what follows it. -/
inductive Trie where
  | done
  | branch (lo hi : Nat) (next others : Trie)
  deriving DecidableEq

namespace Trie

/-- A tree with one more sequence, before those it has. -/
def add : Sequence → Trie → Trie
  | [], trie => trie
  | (lo, hi) :: later, done => branch lo hi (add later done) done
  | (lo, hi) :: later, branch lo' hi' next others =>
    if lo = lo' && hi = hi' then branch lo' hi' (add later next) others
    else branch lo hi (add later done) (branch lo' hi' next others)

/-- The tree of some sequences in ascending order. -/
def ofSequences (sequences : List Sequence) : Trie := sequences.foldr add done

/-- How many ways there are to go on. -/
def width : Trie → Nat
  | done => 0
  | branch _ _ _ others => others.width + 1

/-- What follows each beginning that is not empty. -/
def continuations : Trie → List Trie
  | done => []
  | branch _ _ next others => next :: next.continuations ++ others.continuations

/-- The size of the automaton that reads forward. What is followed by the same is one state. -/
def forwardSize (trie : Trie) : Nat :=
  let states := (trie :: trie.continuations.filter (· != done)).eraseDups
  states.foldl (fun size state => size + stateSize + transitionSize * state.width) stateSize

end Trie

end Utf8

/-- The size of the automaton of a class. A single character is one state for each byte. Backward,
each sequence has a branch of its own, and those that begin the same share what they begin with. -/
def CharClass.size (backward : Bool) (a : CharClass) : Nat :=
  let sequences := a.ranges.flatMap fun (lo, hi) => Utf8.sequences lo hi
  let trie := Utf8.Trie.ofSequences sequences
  let isSingle := sequences.length = 1 && sequences.flatten.all fun (lo, hi) => lo = hi
  if isSingle then stateSize * sequences.flatten.length
  else if backward && sequences.any (·.length ≠ 1) then
    2 * stateSize + branchSize * sequences.length + stateSize * trie.continuations.length
  else trie.forwardSize

namespace Regular

/-- Whether nothing is left of a pattern when it is compiled. -/
def isEmpty : Regular → Bool
  | empty => true
  | seq a b => a.isEmpty && b.isEmpty
  | many _ _ hi _ => hi == some 0
  | one _ | anchor _ | alt .. | group .. => false

/-- Whether a pattern can match the empty text. -/
def nullable : Regular → Bool
  | empty | anchor _ => true
  | one _ => false
  | seq a b => a.nullable && b.nullable
  | alt a b => a.nullable || b.nullable
  | group _ a => a.nullable
  | many a lo _ _ => lo == 0 || a.nullable

/-- Whether a pattern can match nothing but the empty text. -/
def silent : Regular → Bool
  | empty | anchor _ => true
  | one _ => false
  | seq a b | alt a b => a.silent && b.silent
  | group _ a => a.silent
  | many a _ hi _ => hi == some 0 || a.silent

/-- The alternatives as one class, if each of them is one. -/
def class? : Regular → Option CharClass
  | one a => some a
  | alt a b => do return .union (← a.class?) (← b.class?)
  | _ => none

/-- The size of a repetition of something with a given size. -/
def repeatedSize (size : Nat) (nullable : Bool) : Nat → Option Nat → Nat
  | 0, none =>
    size + stateSize + 2 * branchSize + if nullable then 2 * stateSize + 2 * branchSize else 0
  | lo, none => lo * size + stateSize + 2 * branchSize
  | 0, some 0 => stateSize
  | 0, some 1 => size + 2 * stateSize + 2 * branchSize
  | lo, some hi =>
    let whole := if lo = 0 then stateSize else lo * size
    if hi ≤ lo then whole
    else whole + stateSize + (hi - lo) * (size + stateSize + 2 * branchSize)

/-- The sizes of the automaton of a pattern: where it stands alone, and where it is one of several
branches. Branches that consist of branches are branches of the whole. -/
structure Size where
  alone : Nat
  branched : Nat

/-- What stands alone as one branch. -/
def Size.ofAlone (size : Nat) : Size := ⟨size, branchSize + size⟩

/-- The sizes of the automaton of a pattern. Groups are marked in the one that reads forward. -/
def sizes (backward : Bool) : Regular → Size
  | empty | anchor _ => .ofAlone stateSize
  | one a => .ofAlone (a.size backward)
  | seq a b =>
    .ofAlone <|
      if a.isEmpty then (b.sizes backward).alone
      else if b.isEmpty then (a.sizes backward).alone
      else (a.sizes backward).alone + (b.sizes backward).alone
  | alt a b =>
    let branches := (a.sizes backward).branched + (b.sizes backward).branched
    match (alt a b).class? with
    | some c => ⟨c.size backward, branches⟩
    | none => ⟨2 * stateSize + branches, branches⟩
  | group _ a => .ofAlone ((a.sizes backward).alone + if backward then 0 else 2 * stateSize)
  | many a lo hi _ =>
    let size := (a.sizes backward).alone
    .ofAlone <|
      if a.silent then repeatedSize size true (min lo 1) (some (min (hi.getD 1) 1))
      else repeatedSize size a.nullable lo hi

/-- How large an automaton may be: 10 MiB. -/
def maxSize : Nat := 10 * 1024 * 1024

/-- Whether the automata of a pattern are small enough. Both have a state for the match, and three
for the places it may start from. -/
def fits (a : Regular) : Bool :=
  [false, true].all fun backward =>
    (a.sizes backward).alone + 4 * stateSize + transitionSize + 2 * branchSize ≤ maxSize

end Regular

end ClassFields
