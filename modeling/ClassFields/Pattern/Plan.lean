import ClassFields.Pattern.Regular

/-!
# Matching with backtracking

A pattern that is not regular is matched by trying one way after another. A `Plan` is such a
pattern with its regular parts gathered, which are matched at once and not tried again. While a way
is tried, the others are left pending, and there is a limit to how many can be pending at once. Each
time a way is given up for another counts against a budget. A search that goes over the limit or uses
up the budget has no answer.
-/

namespace ClassFields

/-- A pattern to be matched with backtracking. -/
inductive Plan where
  | empty
  /-- A part matched at once, in the preferred way. -/
  | regular (a : Regular)
  | one (a : CharClass)
  | anchor (a : Anchor)
  | seq (a b : Plan)
  | alt (a b : Plan)
  | group (index : Nat) (a : Plan)
  /-- A repetition. If `checked`, a round that takes nothing is not counted as one. -/
  | many (a : Plan) (lo : Nat) (hi : Option Nat) (greedy checked : Bool)
  | ahead (negated : Bool) (a : Plan)
  | behind (size : Nat) (negated : Bool) (a : Plan)
  | backref (index : Nat) (ignoreCase : Bool)
  | atomic (a : Plan)
  | keepOut
  | lastEnd
  | tookPart (index : Nat)
  | cond (condition yes no : Plan)
  deriving DecidableEq

/-! ## From nodes to plans -/

namespace Plan

/-- A node of a sequence: as a regular pattern if it is one, its extent, and its plan. -/
structure Part where
  regular : Option Regular
  extent : Extent
  plan : Option Plan

namespace Part

/-- The part, if it is regular and always takes the same number of characters. -/
def steady? (part : Part) : Option Regular :=
  if part.extent.fixed then part.regular else none

/-- The regular patterns at the front of some parts, and the parts after them. -/
def gather (pick : Part → Option Regular) : List Part → List Regular × List Part
  | [] => ([], [])
  | part :: rest =>
    match pick part with
    | some a =>
      let (front, rest) := gather pick rest
      (a :: front, rest)
    | none => ([], part :: rest)

end Part

/-- Regular patterns one after another, matched at once. -/
def regularAll : List Regular → Plan
  | [] => .empty
  | first :: rest => .regular (rest.foldl .seq first)

/-- The plan for a sequence. What is steady at the front is matched at once, and so is what is
regular at the end; if the sequence may have to be tried again, only what is steady there. -/
def ofParts (retried : Bool) (parts : List Part) : Option Plan := do
  let (front, rest) := Part.gather Part.steady? parts
  let pick := if retried then Part.steady? else Part.regular
  let (back, middle) := Part.gather pick rest.reverse
  let plans ← middle.reverse.mapM Part.plan
  return .seq (regularAll front) (plans.foldr .seq (regularAll back.reverse))

/-- Plans tried one after another. -/
def ofChoices : List Plan → Plan
  | [] => .empty
  | [plan] => plan
  | plan :: rest => .alt plan (ofChoices rest)

/-- A look behind from one place: at one of several, or, negated, at none of them. -/
def ofBehind (negated : Bool) : List (Extent × Plan) → Option Plan
  | [] => some .empty
  | [(extent, plan)] =>
    if extent.fixed then some (.behind extent.least negated plan) else none
  | (extent, plan) :: rest => do
    guard extent.fixed
    let first := Plan.behind extent.least negated plan
    let others ← ofBehind negated rest
    return if negated then .seq first others else .alt first others

mutual

/-- The plan for a node, unless it looks behind by an unknown distance. `retried` tells whether
other ways to match the node may be asked for. -/
def ofNode (referenced : List Nat) (retried : Bool) (node : Node) : Option Plan :=
  match (if retried then none else node.regular? referenced), node with
  | some a, _ => some (.regular a)
  | none, .empty => some .empty
  | none, .one a => some (.one a)
  | none, .anchor a => some (.anchor a)
  | none, .concat nodes => ofParts retried (partsOf referenced nodes)
  | none, .choice nodes => (plansOf referenced retried nodes).map ofChoices
  | none, .group i body => (ofNode referenced retried body).map (.group i)
  | none, .many body lo hi greedy => do
    let retried := retried ||
      (!(lo == 0 && hi == some 1) && (body.regular? referenced).isNone)
    let plan ← ofNode referenced retried body
    return .many plan lo hi greedy (hi.isNone && body.extent.least == 0)
  | none, .look false negated body => (ofNode referenced false body).map (.ahead negated)
  | none, .look true negated (.choice nodes) => do
    let plans ← plansOf referenced false nodes
    ofBehind negated ((nodes.map Node.extent).zip plans)
  | none, .look true negated body => do
    let plan ← ofNode referenced false body
    ofBehind negated [(body.extent, plan)]
  | none, .backref i ignoreCase _ => some (.backref i ignoreCase)
  | none, .atomic body => (ofNode referenced false body).map .atomic
  | none, .keepOut => some .keepOut
  | none, .lastEnd => some .lastEnd
  | none, .tookPart i => some (.tookPart i)
  | none, .cond condition yes no => do
    return .cond (← ofNode referenced retried condition) (← ofNode referenced retried yes)
      (← ofNode referenced retried no)

/-- The parts of a sequence. -/
def partsOf (referenced : List Nat) : List Node → List Part
  | [] => []
  | node :: rest =>
    ⟨node.regular? referenced, node.extent, ofNode referenced true node⟩ ::
      partsOf referenced rest

/-- The plans for several nodes. -/
def plansOf (referenced : List Nat) (retried : Bool) : List Node → Option (List Plan)
  | [] => some []
  | node :: rest => do
    return (← ofNode referenced retried node) :: (← plansOf referenced retried rest)

end

/-- The regular parts of a plan. -/
def regulars : Plan → List Regular
  | regular a => [a]
  | seq a b | alt a b => a.regulars ++ b.regulars
  | group _ a | many a _ _ _ _ | ahead _ a | behind _ _ a | atomic a => a.regulars
  | cond c t f => c.regulars ++ t.regulars ++ f.regulars
  | empty | one _ | anchor _ | backref .. | keepOut | lastEnd | tookPart _ => []

end Plan

/-! ## Running a plan -/

/-- Why a search has no answer. -/
inductive SearchFault where
  /-- More ways would be pending than can be kept. -/
  | tooManyPending
  /-- More ways have been given up than is allowed. -/
  | tooManyGivenUp
  deriving DecidableEq, Repr

namespace SearchFault

/-- The reason in words. -/
def message : SearchFault → String
  | tooManyPending => "Error executing regex: Max stack size exceeded for backtracking"
  | tooManyGivenUp => "Error executing regex: Max limit for backtracking count exceeded"

/-- All reasons. -/
def all : List SearchFault := [tooManyPending, tooManyGivenUp]

end SearchFault

/-- What comes of a search: a match or none, with the budget that is left, or no answer. -/
inductive Verdict where
  | found (thread : Thread) (budget : Nat)
  | lost (budget : Nat)
  | failed (fault : SearchFault)

/-- A search that is still to be made, with a number of ways pending and a budget. -/
abbrev Search := Nat → Nat → Verdict

/-- What is to be matched after a part, from a thread. -/
abbrev Rest := Thread → Search

/-- Nothing is. -/
def Rest.done : Rest := fun thread _ budget => .found thread budget

/-- How many ways may be pending at once. -/
def maxPending : Nat := 1000000

namespace Verdict

/-- Goes on if nothing was found, which takes one from the budget. -/
def orElse (verdict : Verdict) (other : Nat → Verdict) : Verdict :=
  match verdict with
  | lost 0 => failed .tooManyGivenUp
  | lost (budget + 1) => other budget
  | found thread budget => found thread budget
  | failed fault => failed fault

end Verdict

namespace Search

/-- A search with one more way pending. -/
def withPending (search : Search) : Search := fun pending budget =>
  if pending < maxPending then search (pending + 1) budget else .failed .tooManyPending

/-- One search, with another pending for when it finds nothing. -/
def orElse (first second : Search) : Search := fun pending budget =>
  (first.withPending pending budget).orElse (second pending)

/-- One search, and what comes after it. When it has found something, nothing of it is pending any
more. -/
def commit (first : Search) (next : Thread → Search) : Search := fun pending budget =>
  match first pending budget with
  | .found thread budget => next thread pending budget
  | verdict => verdict

/-- One search, and what comes after it, with `no` pending for when it finds nothing. When it has found
something, nothing of it is pending any more. -/
def choose (condition : Search) (yes : Thread → Search) (no : Search) : Search :=
  fun pending budget =>
    match condition.withPending pending budget with
    | .found thread budget => yes thread pending budget
    | verdict => verdict.orElse (no pending)

/-- Nothing is found. -/
def fail : Search := fun _ budget => .lost budget

end Search

/-- Where a search began, and whether the match before it was empty and has been stepped over. -/
structure SearchStart where
  index : Nat
  steppedOver : Bool

/-- Whether two texts are the same up to case and take the same space. -/
def sameButCase (a b : List Char) : Bool :=
  a.length == b.length && (a.zip b).all (fun (x, y) =>
    Unicode.foldCode x.toNat == Unicode.foldCode y.toNat) &&
    (String.ofList a).utf8ByteSize == (String.ofList b).utf8ByteSize

namespace Plan

/-- Runs a repetition: `round` matches once, `rest` what comes after. `mark` is where the last
counted round began, `count` how many there were. -/
def rounds (round : Rest → Rest) (greedy checked : Bool) (lo : Nat) (hi : Option Nat) (rest : Rest) :
    Nat → Nat → Option Nat → Rest
  | 0, _, _, _ => .fail
  | fuel + 1, count, mark, thread =>
    if hi == some count then rest thread
    else if checked && 0 < count && mark == some thread.spot.index then .fail
    else
      let mark := if lo ≤ count then some thread.spot.index else mark
      let more := round (rounds round greedy checked lo hi rest fuel (count + 1) mark) thread
      if count < lo then more
      else if greedy then .orElse more (rest thread)
      else .orElse (rest thread) more

/-- How many rounds a repetition can have from a thread: each takes a character, apart from those
it has to have and the last. -/
def roundLimit (lo : Nat) (hi : Option Nat) (thread : Thread) : Nat :=
  hi.getD (lo + thread.spot.after.length + 1) + 1

/-- Runs a plan from a thread, and what comes after it. -/
def run (start : SearchStart) : Plan → Rest → Rest
  | empty, rest, thread => rest thread
  | regular a, rest, thread =>
    match a.threads { thread with slots := thread.slots.forget a.groups } with
    | thread :: _ => rest thread
    | [] => .fail
  | one a, rest, thread =>
    match thread.take? a with
    | some thread => rest thread
    | none => .fail
  | anchor a, rest, thread => if a.holds thread.spot then rest thread else .fail
  | seq a b, rest, thread => a.run start (b.run start rest) thread
  | alt a b, rest, thread => .orElse (a.run start rest thread) (b.run start rest thread)
  | group i a, rest, thread =>
    a.run start (fun thread => rest (thread.save (2 * i + 1))) (thread.save (2 * i))
  | many a lo hi greedy checked, rest, thread =>
    rounds (a.run start) greedy checked lo hi rest (roundLimit lo hi thread) 0 none thread
  | ahead false a, rest, thread =>
    a.run start (fun inner => rest { inner with spot := thread.spot }) thread
  | ahead true a, rest, thread =>
    .choose (a.run start .done thread) (fun _ => .fail) (rest thread)
  | behind size false a, rest, thread =>
    match thread.spot.back? size with
    | none => .fail
    | some spot =>
      a.run start (fun inner => rest { inner with spot := thread.spot }) { thread with spot }
  | behind size true a, rest, thread =>
    match thread.spot.back? size with
    | none => .choose .fail (fun _ => .fail) (rest thread)
    | some spot => .choose (a.run start .done { thread with spot }) (fun _ => .fail) (rest thread)
  | backref i ignoreCase, rest, thread =>
    match thread.slots.span? i with
    | none => .fail
    | some (lo, hi) =>
      let taken := thread.spot.slice lo hi
      let next := thread.spot.after.take taken.length
      if if ignoreCase then sameButCase taken next else taken == next then
        rest { thread with spot := thread.spot.forward taken.length }
      else .fail
  | atomic a, rest, thread => .commit (a.run start .done thread) rest
  | keepOut, rest, thread => rest (thread.save 0)
  | lastEnd, rest, thread =>
    if start.index < thread.spot.index || start.steppedOver then .fail else rest thread
  | tookPart i, rest, thread =>
    if (thread.slots.at? (2 * i)).isSome then rest thread else .fail
  | cond condition yes no, rest, thread =>
    .choose (condition.run start .done thread) (yes.run start rest) (no.run start rest thread)

end Plan

end ClassFields
