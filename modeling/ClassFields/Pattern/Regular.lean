import ClassFields.Pattern.Spot

/-!
# Regular patterns

A pattern without look-around, references and the like is regular. `Regular.threads` gives all the
ways to match it from a place, the preferred one first, with one way for each place a match can end
at: what follows cannot tell two of them apart, so the preferred one is enough. This bounds the work
where trying all ways would not.
-/

namespace ClassFields

/-- A regular pattern. -/
inductive Regular where
  | empty
  | one (a : CharClass)
  | anchor (a : Anchor)
  | seq (a b : Regular)
  | alt (a b : Regular)
  | group (index : Nat) (a : Regular)
  | many (a : Regular) (lo : Nat) (hi : Option Nat) (greedy : Bool)
  deriving Repr, DecidableEq

namespace Regular

/-- The threads at places not seen before, each place once. -/
def distinct : List Nat → List Thread → List Thread
  | _, [] => []
  | seen, thread :: rest =>
    if seen.contains thread.spot.index then distinct seen rest
    else thread :: distinct (thread.spot.index :: seen) rest

/-- One way of matching after another. -/
def andThen (first second : Thread → List Thread) (thread : Thread) : List Thread :=
  distinct [] ((first thread).flatMap second)

/-- A way of matching, a number of times. -/
def times (step : Thread → List Thread) : Nat → Thread → List Thread
  | 0, thread => [thread]
  | n + 1, thread => andThen step (times step n) thread

/-- One way of matching in preference to another. -/
def orElse (greedy : Bool) (more stop : List Thread) : List Thread :=
  distinct [] (if greedy then more ++ stop else stop ++ more)

/-- A way of matching, at most a number of times. -/
def upTo (step : Thread → List Thread) (greedy : Bool) : Nat → Thread → List Thread
  | 0, thread => [thread]
  | n + 1, thread => orElse greedy (andThen step (upTo step greedy n) thread) [thread]

/-- Goes on from threads that have each matched once, again and again. A place is left out if the
repetition has been there. The depth bounds how often in a row one thread can go on. -/
def again (step : Thread → List Thread) (greedy : Bool) (origin : Nat) :
    Nat → List Nat × List Thread → List Thread → List Nat × List Thread
  | 0, found, _ => found
  | depth + 1, found, threads =>
    threads.foldl
      (fun (seen, out) thread =>
        let i := thread.spot.index
        if seen.contains i then (seen, out)
        else if i == origin then (i :: seen, thread :: out)
        else if greedy then
          let (seen, out) := again step greedy origin depth (i :: seen, out) (step thread)
          (seen, thread :: out)
        else again step greedy origin depth (i :: seen, thread :: out) (step thread))
      found

/-- A way of matching, once or more often. -/
def oneOrMore (step : Thread → List Thread) (greedy : Bool) (thread : Thread) : List Thread :=
  (again step greedy thread.spot.index (thread.spot.after.length + 1) ([], [])
    (step thread)).2.reverse

/-- A way of matching, any number of times. -/
def zeroOrMore (step : Thread → List Thread) (greedy : Bool) (thread : Thread) : List Thread :=
  orElse greedy (oneOrMore step greedy thread) [thread]

/-- A way of matching, as often as two bounds allow. -/
def between (step : Thread → List Thread) (greedy : Bool) (lo : Nat) (hi : Option Nat) :
    Thread → List Thread :=
  match hi, lo with
  | some hi, lo => andThen (times step lo) (upTo step greedy (hi - lo))
  | none, 0 => zeroOrMore step greedy
  | none, lo + 1 => andThen (times step lo) (oneOrMore step greedy)

/-- The threads that match a pattern from a given one, the preferred one first. -/
def threads : Regular → Thread → List Thread
  | empty, thread => [thread]
  | one a, thread => (thread.take? a).toList
  | anchor a, thread => if a.holds thread.spot then [thread] else []
  | seq a b, thread => andThen a.threads b.threads thread
  | alt a b, thread => orElse true (a.threads thread) (b.threads thread)
  | group i a, thread => (a.threads (thread.save (2 * i))).map (·.save (2 * i + 1))
  | many a lo hi greedy, thread => between a.threads greedy lo hi thread

/-- The groups of a pattern. -/
def groups : Regular → List Nat
  | empty | one _ | anchor _ => []
  | seq a b => a.groups ++ b.groups
  | alt a b => a.groups ++ b.groups
  | group i a => i :: a.groups
  | many a _ _ _ => a.groups

/-- The groups that can take part. Those of a part that is repeated no times cannot. -/
def liveGroups : Regular → List Nat
  | empty | one _ | anchor _ => []
  | seq a b => a.liveGroups ++ b.liveGroups
  | alt a b => a.liveGroups ++ b.liveGroups
  | group i a => i :: a.liveGroups
  | many a _ hi _ => if hi == some 0 then [] else a.liveGroups

end Regular

namespace Node

mutual

/-- A node as a regular pattern, if it is one. A group that is referred to is not, because what it
takes matters for what follows. -/
def regular? (referenced : List Nat) : Node → Option Regular
  | empty => some .empty
  | one a => some (.one a)
  | anchor a => if a.ofWords then none else some (.anchor a)
  | concat nodes => regularSequence? referenced nodes
  | choice nodes => regularChoice? referenced nodes
  | group i body =>
    if referenced.contains i then none else (body.regular? referenced).map (.group i)
  | many body lo hi greedy => (body.regular? referenced).map (.many · lo hi greedy)
  | look .. | backref .. | atomic _ | keepOut | lastEnd | tookPart _ | cond .. => none

/-- Nodes one after another as a regular pattern. -/
def regularSequence? (referenced : List Nat) : List Node → Option Regular
  | [] => some .empty
  | node :: rest => do
    let a ← node.regular? referenced
    let b ← regularSequence? referenced rest
    return .seq a b

/-- One of several nodes as a regular pattern. -/
def regularChoice? (referenced : List Nat) : List Node → Option Regular
  | [] => none
  | [node] => node.regular? referenced
  | node :: rest => do
    let a ← node.regular? referenced
    let b ← regularChoice? referenced rest
    return .alt a b

end

end Node

end ClassFields
