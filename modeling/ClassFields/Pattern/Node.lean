import ClassFields.Pattern.CharClass

/-!
# Patterns as trees

`Node` is what a pattern text says, before it is known how to match it. `Node.extent` bounds how
many characters a match takes.
-/

namespace ClassFields

/-- A condition on a place in the text that takes no character. -/
inductive Anchor where
  | textStart
  | textEnd
  | lineStart
  | lineEnd
  | wordBoundary
  | noWordBoundary
  | wordStart
  | wordEnd
  deriving DecidableEq, Repr

/-- Whether an anchor asks about words. -/
def Anchor.ofWords : Anchor → Bool
  | textStart | textEnd | lineStart | lineEnd => false
  | wordBoundary | noWordBoundary | wordStart | wordEnd => true

/-- How many characters a match takes: at least `least`, and exactly that many if `fixed`. -/
structure Extent where
  least : Nat
  fixed : Bool
  deriving DecidableEq, Repr

namespace Extent

/-- Nothing is taken. -/
def zero : Extent := ⟨0, true⟩

/-- One character is taken. -/
def one : Extent := ⟨1, true⟩

/-- One match after another. -/
def seq (a b : Extent) : Extent := ⟨a.least + b.least, a.fixed && b.fixed⟩

/-- One match or another. -/
def alt (a b : Extent) : Extent :=
  ⟨min a.least b.least, a.fixed && b.fixed && a.least == b.least⟩

/-- A match repeated. -/
def many (a : Extent) (lo : Nat) (hi : Option Nat) : Extent :=
  ⟨a.least * lo, a.fixed && hi == some lo⟩

/-- A condition, then one of two branches; without the condition, the other. -/
def cond (c t f : Extent) : Extent :=
  ⟨c.least + min t.least f.least,
    c.fixed && t.fixed && f.fixed && c.least + t.least == f.least⟩

end Extent

/-- A pattern as a tree. Groups are numbered from one by their opening brackets. -/
inductive Node where
  | empty
  | one (a : CharClass)
  | anchor (a : Anchor)
  | concat (nodes : List Node)
  | choice (nodes : List Node)
  | group (index : Nat) (body : Node)
  | many (body : Node) (lo : Nat) (hi : Option Nat) (greedy : Bool)
  | look (behind negated : Bool) (body : Node)
  /-- The text that a group took; its extent is what was known of the group when it was read. -/
  | backref (index : Nat) (ignoreCase : Bool) (extent : Extent)
  | atomic (body : Node)
  /-- The match counts from here. -/
  | keepOut
  /-- The place where the last match ended. -/
  | lastEnd
  /-- Whether a group took part so far. -/
  | tookPart (index : Nat)
  | cond (condition yes no : Node)

namespace Node

/-- Whether a node is the empty pattern. -/
def isEmpty : Node → Bool
  | empty => true
  | _ => false

/-- Whether a quantifier may follow: not after nothing, an anchor or a look-around. -/
def repeatable : Node → Bool
  | empty | anchor _ | look .. => false
  | _ => true

mutual

/-- How many characters a match of a node takes. -/
def extent : Node → Extent
  | empty => .zero
  | one _ => .one
  | anchor _ => .zero
  | concat nodes => extentOfAll nodes
  | choice nodes => extentOfAny nodes
  | group _ body => body.extent
  | many body lo hi _ => body.extent.many lo hi
  | look .. => .zero
  | backref _ _ extent => extent
  | atomic body => body.extent
  | keepOut => .zero
  | lastEnd => .zero
  | tookPart _ => .zero
  | cond condition yes no => .cond condition.extent yes.extent no.extent

/-- The extent of nodes one after another. -/
def extentOfAll : List Node → Extent
  | [] => .zero
  | node :: rest => node.extent.seq (extentOfAll rest)

/-- The extent of one of several nodes. -/
def extentOfAny : List Node → Extent
  | [] => .zero
  | [node] => node.extent
  | node :: rest => node.extent.alt (extentOfAny rest)

end

/-- Nodes one after another. -/
def ofSequence : List Node → Node
  | [] => .empty
  | [node] => node
  | nodes => .concat nodes

end Node

end ClassFields
