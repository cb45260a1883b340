import ClassFields.Pattern.Automaton
import ClassFields.Pattern.Plan
import ClassFields.Pattern.Reader

/-!
# Compiled patterns

A `Program` is what a pattern text compiles to, and a `Pattern` is a text together with its
program. That the program is the compiled text is part of the type.
-/

namespace ClassFields

/-- How a pattern is matched. -/
inductive Engine where
  | regular (a : Regular)
  /-- With backtracking. If `anchored`, a search is made at the place it starts from only. -/
  | backtracking (plan : Plan) (anchored : Bool)
  deriving DecidableEq

/-- A pattern that is ready to be matched. -/
structure Program where
  engine : Engine
  /-- How many groups there are to refer to, the whole match included. -/
  groupCount : Nat
  /-- How many groups the pattern text opens. -/
  opened : Nat
  /-- The names of groups, the newest first. -/
  names : List (String × Nat)
  deriving DecidableEq

namespace Program

/-- The node that is matched for a pattern: the whole is group zero. A look ahead at the end is
matched after group zero instead. -/
def wholeOf (node : Node) : Node :=
  match node with
  | .concat nodes =>
    match nodes.getLast? with
    | some (.look false false body) => .concat [.group 0 (.concat nodes.dropLast), body]
    | _ => .group 0 node
  | _ => .group 0 node

/-- Whether a pattern starts with the start of the text, as group zero. -/
def isAnchored : Node → Bool
  | .group 0 (.anchor .textStart) | .group 0 (.concat (.anchor .textStart :: _)) => true
  | _ => false

/-- Compiles the text of a pattern. Each part that is matched at once has automata of its own, and is
group zero for them. -/
def compile? (text : List Char) : Option Program := do
  let (node, state) ← Pattern.read? text
  let whole := wholeOf node
  match whole.regular? state.referenced with
  | some a =>
    guard a.fits
    return ⟨.regular a, a.liveGroups.length, state.groups, state.names⟩
  | none =>
    let plan ← Plan.ofNode state.referenced false whole
    guard (plan.regulars.all fun a => (Regular.group 0 a).fits)
    return ⟨.backtracking plan (isAnchored whole), state.groups + 1, state.groups, state.names⟩

/-- The last group that a match has slots for: the last one that can take part, or, with backtracking,
the last one that the pattern text opens. -/
def lastGroup (program : Program) : Nat :=
  match program.engine with
  | .regular a => a.liveGroups.foldr max 0
  | .backtracking .. => program.opened

/-- Whether all groups that have names are counted. -/
def namesCounted (program : Program) : Bool := program.names.all (·.2 < program.groupCount)

/-- How many times a search may give up a way for another. -/
def budget : Nat := 1000000

/-- What a search comes to. -/
inductive Finding where
  | matched (slots : Slots)
  | unmatched
  | failed (fault : SearchFault)

/-- The first of the places from a given one at which a regular pattern matches. -/
def seekRegular (a : Regular) (slots : Slots) : Nat → List Char → List Char → Option Thread
  | index, before, after =>
    match a.threads ⟨⟨index, before, after⟩, slots⟩, after with
    | thread :: _, _ => some thread
    | [], c :: rest => seekRegular a slots (index + 1) (c :: before) rest
    | [], [] => none

/-- The same with backtracking. While a place is tried, to go on to the next one is pending. -/
def seekPlan (plan : Plan) (start : SearchStart) (slots : Slots) :
    Nat → List Char → List Char → Search
  | index, before, [] => .orElse (plan.run start .done ⟨⟨index, before, []⟩, slots⟩) .fail
  | index, before, c :: rest =>
    .orElse (plan.run start .done ⟨⟨index, before, c :: rest⟩, slots⟩)
      (seekPlan plan start slots (index + 1) (c :: before) rest)

/-- Looks for the first match from a place on. -/
def search (program : Program) (spot : Spot) (steppedOver : Bool) : Finding :=
  let slots := Slots.unset program.lastGroup
  match program.engine with
  | .regular a =>
    match seekRegular a slots spot.index spot.before spot.after with
    | some thread => .matched thread.slots
    | none => .unmatched
  | .backtracking plan anchored =>
    let start : SearchStart := ⟨spot.index, steppedOver⟩
    let seek : Search :=
      if anchored then plan.run start .done ⟨spot, slots⟩
      else seekPlan plan start slots spot.index spot.before spot.after
    match seek 0 budget with
    | .found thread _ => .matched thread.slots
    | .lost _ => .unmatched
    | .failed fault => .failed fault

end Program

/-- A pattern: a text and the program it compiles to. -/
structure Pattern where
  text : String
  program : Program
  compiled : Program.compile? text.toList = some program

namespace Pattern

/-- The pattern with a text, if the text compiles. -/
def ofText? (text : String) : Option Pattern :=
  match h : Program.compile? text.toList with
  | some program => some ⟨text, program, h⟩
  | none => none

/-- A pattern is determined by its text. -/
theorem ext_text {a b : Pattern} (h : a.text = b.text) : a = b := by
  obtain ⟨s, p, hp⟩ := a
  obtain ⟨t, q, hq⟩ := b
  subst h
  rw [hp] at hq
  cases hq
  rfl

theorem ofText?_text (a : Pattern) : ofText? a.text = some a := by
  unfold ofText?
  split
  · rename_i program h
    exact congrArg some (ext_text rfl)
  · rename_i h
    rw [a.compiled] at h
    cases h

theorem text_of_ofText? {text : String} {a : Pattern} (h : ofText? text = some a) :
    a.text = text := by
  unfold ofText? at h
  split at h
  · cases h
    rfl
  · cases h

end Pattern

end ClassFields
