import Mathlib.Data.List.Forall2
import ClassFields.Proofs.Acceptance

/-!
# Duplicates

`duplicates` splits classes in two. Those whose escaped name occurs before them are reported, in
order, each with the first class of that name; the others have every escaped name once
(`duplicates_partition`). While the loop goes on, the owner of a field is the first class so far with
that escaped name (`Owners.First`), however many classes have come after it.
-/

namespace ClassFields

/-! ## Places -/

/-- The escaped name of the class at a position is taken if a class before that position has it. -/
def Taken (classes : List EscapedClass) (place : EscapedClass × Nat) : Prop :=
  ∃ other ∈ classes.take place.2, other.escaped = place.1.escaped

instance (classes : List EscapedClass) (place : EscapedClass × Nat) :
    Decidable (Taken classes place) :=
  inferInstanceAs (Decidable (∃ other ∈ _, _))

/-- The class at the least position with an escaped name. -/
structure FirstAt (classes : List EscapedClass) (escaped : String) (i : Nat)
    (owner : EscapedClass) : Prop where
  place : classes[i]? = some owner
  named : owner.escaped = escaped
  least : ∀ other ∈ classes.take i, other.escaped ≠ escaped

/-- A duplicate reports a class: it has both its names, and the name of the class at the least
position with that escaped name. -/
structure Reports (classes : List EscapedClass) (place : EscapedClass × Nat)
    (duplicate : Duplicate) : Prop where
  escaped : duplicate.escaped = place.1.escaped
  second : duplicate.second = place.1.name
  first : ∃ i owner, FirstAt classes place.1.escaped i owner ∧ duplicate.first = owner.name

variable {before classes rest : List EscapedClass} {cls owner : EscapedClass}
  {escaped first : String} {i : Nat}

theorem exists_firstAt (h : classes.find? (·.escaped == escaped) = some owner) :
    ∃ i, FirstAt classes escaped i owner := by
  obtain ⟨hn, u, v, rfl, hu⟩ := List.find?_eq_some_iff_append.mp h
  refine ⟨u.length, by simp, beq_iff_eq.mp hn, fun other hm => ?_⟩
  rw [List.take_left] at hm
  simpa using hu other hm

theorem taken_iff : Taken (before ++ cls :: rest) (cls, before.length) ↔
    ∃ other ∈ before, other.escaped = cls.escaped := by
  rw [Taken, List.take_left]

/-! ## The loop -/

/-- The owner of a field is the first class with that escaped name. -/
def Owners.First (owners : Owners) (before : List EscapedClass) : Prop :=
  ∀ escaped, owners.lookup escaped = (before.find? (·.escaped == escaped)).map (·.name)

namespace Owners.First

variable {owners : Owners}

theorem exists_find? (h : owners.First before) (ho : owners.lookup escaped = some first) :
    ∃ owner, before.find? (·.escaped == escaped) = some owner ∧ owner.name = first :=
  Option.map_eq_some_iff.mp ((h escaped).symm.trans ho)

theorem find?_eq_none (h : owners.First before) (ho : owners.lookup escaped = none) :
    before.find? (·.escaped == escaped) = none :=
  Option.map_eq_none_iff.mp ((h escaped).symm.trans ho)

/-- An escaped name is taken if its field has an owner. -/
theorem lookup_eq_none_iff (h : owners.First before) :
    owners.lookup cls.escaped = none ↔ ¬ Taken (before ++ cls :: rest) (cls, before.length) := by
  rw [h, Option.map_eq_none_iff, List.find?_eq_none, taken_iff]
  simp only [beq_iff_eq, not_exists, not_and]

/-- The class that takes a free field is its owner from then on. -/
theorem concat_free (h : owners.First before) (ho : owners.lookup cls.escaped = none) :
    Owners.First ((cls.escaped, cls.name) :: owners) (before ++ [cls]) := by
  intro escaped
  rw [List.lookup_cons, List.find?_append, List.find?_singleton]
  by_cases he : cls.escaped = escaped
  · subst he
    rw [h.find?_eq_none ho]
    simp
  · rw [beq_false_of_ne (Ne.symm he), beq_false_of_ne he, h escaped]
    simp

/-- A class whose field is taken leaves the owner as it is. -/
theorem concat_taken (h : owners.First before) (ho : owners.lookup cls.escaped = some first) :
    Owners.First owners (before ++ [cls]) := by
  intro escaped
  rw [List.find?_append, List.find?_singleton, h escaped]
  by_cases he : cls.escaped = escaped
  · subst he
    obtain ⟨owner, hf, -⟩ := h.exists_find? ho
    rw [hf, Option.some_or]
  · rw [beq_false_of_ne he]
    simp

/-- The owner of a taken field is reported. -/
theorem reports (h : owners.First before) (ho : owners.lookup cls.escaped = some first) :
    Reports (before ++ cls :: rest) (cls, before.length) ⟨cls.escaped, first, cls.name⟩ := by
  obtain ⟨owner, hf, rfl⟩ := h.exists_find? ho
  have ha : (before ++ cls :: rest).find? (·.escaped == cls.escaped) = some owner := by
    rw [List.find?_append, hf, Option.some_or]
  obtain ⟨i, hi⟩ := exists_firstAt ha
  exact ⟨rfl, rfl, i, owner, hi, rfl⟩

end Owners.First

/-- From some class on, those whose escaped name is taken are reported in order. -/
theorem duplicatesFrom_reports {owners : Owners} (h : owners.First before) :
    List.Forall₂ (Reports (before ++ rest))
      ((rest.zipIdx before.length).filter (Taken (before ++ rest))) (duplicatesFrom owners rest) := by
  induction rest generalizing owners before with
  | nil => exact .nil
  | cons cls rest ih =>
    have hc : before ++ cls :: rest = (before ++ [cls]) ++ rest := by simp
    have hl : before.length + 1 = (before ++ [cls]).length := by simp
    rw [List.zipIdx_cons, List.filter_cons]
    rcases ho : owners.lookup cls.escaped with _ | first
    · rw [if_neg (mt of_decide_eq_true (h.lookup_eq_none_iff.mp ho)), duplicatesFrom_of_free ho, hc,
        hl]
      exact ih (h.concat_free ho)
    · have hr : Taken (before ++ cls :: rest) (cls, before.length) := by
        by_contra hn
        rw [h.lookup_eq_none_iff.mpr hn] at ho
        cases ho
      rw [if_pos (decide_eq_true hr), duplicatesFrom_of_taken ho]
      refine .cons (h.reports ho) ?_
      rw [hc, hl]
      exact ih (h.concat_taken ho)

/-! ## Classes that are not reported -/

/-- The classes whose escaped name is not taken. -/
def unreported (classes : List EscapedClass) : List EscapedClass :=
  (classes.zipIdx.filter (¬ Taken classes ·)).map (·.1)

/-- The first class with an escaped name is not reported. -/
theorem mem_unreported (h : FirstAt classes escaped i owner) : owner ∈ unreported classes := by
  refine List.mem_map.mpr ⟨(owner, i), List.mem_filter.mpr ⟨?_, decide_eq_true ?_⟩, rfl⟩
  · exact List.mk_mem_zipIdx_iff_getElem?.mpr h.place
  · rintro ⟨other, hm, he⟩
    exact h.least other hm (he.trans h.named)

/-- Every escaped name is that of a class that is not reported. -/
theorem exists_unreported (h : cls ∈ classes) :
    ∃ other ∈ unreported classes, other.escaped = cls.escaped := by
  have hs : (classes.find? (·.escaped == cls.escaped)).isSome :=
    List.find?_isSome.mpr ⟨cls, h, beq_self_eq_true _⟩
  obtain ⟨owner, ho⟩ := Option.isSome_iff_exists.mp hs
  obtain ⟨i, hi⟩ := exists_firstAt ho
  exact ⟨owner, mem_unreported hi, hi.named⟩

/-- Of two classes that are not reported, the later one has another escaped name. -/
theorem unreported_pairwise (classes : List EscapedClass) :
    (unreported classes).Pairwise fun a b => a.escaped ≠ b.escaped := by
  have hp : (classes.zipIdx.filter (¬ Taken classes ·)).Pairwise fun x y => x.2 < y.2 := by
    refine List.Pairwise.filter _ (List.pairwise_map.mp ?_)
    rw [List.zipIdx_map_snd]
    exact List.pairwise_lt_range'
  rw [unreported, List.pairwise_map]
  refine (List.Pairwise.and_mem.mp hp).imp ?_
  rintro x y ⟨hx, hy, hl⟩ he
  obtain ⟨hi, hx⟩ := List.getElem?_eq_some_iff.mp
    (List.mem_zipIdx_iff_getElem?.mp (List.mem_of_mem_filter hx))
  have hm : x.1 ∈ classes.take y.2 :=
    List.mem_take_iff_getElem.mpr ⟨x.2, Nat.lt_min.mpr ⟨hl, hi⟩, hx⟩
  exact of_decide_eq_true (List.mem_filter.mp hy).2 ⟨x.1, hm, he⟩

theorem length_unreported (classes : List EscapedClass) :
    (unreported classes).length + (classes.zipIdx.filter (Taken classes)).length =
      classes.length := by
  have := List.length_eq_length_filter_add (l := classes.zipIdx) (fun p => decide (Taken classes p))
  rw [List.length_zipIdx] at this
  simp only [unreported, List.length_map, decide_not]
  omega

/-- Each class whose escaped name occurs before it is reported, in order, with the class at the
least position with that escaped name, and nothing else is. The other classes have different escaped
names and every escaped name, and with the reports there are as many as there are classes. -/
theorem duplicates_partition (classes : List EscapedClass) :
    List.Forall₂ (Reports classes) (classes.zipIdx.filter (Taken classes)) (duplicates classes) ∧
      ((unreported classes).Pairwise fun a b => a.escaped ≠ b.escaped) ∧
      (∀ cls ∈ classes, ∃ other ∈ unreported classes, other.escaped = cls.escaped) ∧
      (unreported classes).length + (duplicates classes).length = classes.length := by
  have h₀ : Owners.First [] [] := fun _ => rfl
  have hr : List.Forall₂ (Reports classes) (classes.zipIdx.filter (Taken classes))
      (duplicates classes) := duplicatesFrom_reports h₀
  refine ⟨hr, unreported_pairwise classes, fun cls => exists_unreported, ?_⟩
  rw [← hr.length_eq, length_unreported]

/-- A third class names the first owner of a field, and not the second. -/
example : duplicates [⟨⟨"a-b", []⟩, "a_b"⟩, ⟨⟨"c", []⟩, "c"⟩, ⟨⟨"a_b", []⟩, "a_b"⟩,
    ⟨⟨"a-b", []⟩, "a_b"⟩] = [⟨"a_b", "a-b", "a_b"⟩, ⟨"a_b", "a-b", "a-b"⟩] := by
  decide

end ClassFields
