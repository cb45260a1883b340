import ClassFields.Pattern.Program

/-!
# What a search takes

A search that finds nothing takes a certain number from the budget (`Costs`), and one that would take
more has no answer. The ways to repeat a choice between two ways of taking the same character double
with each character (`Plan.costs_rounds`), so there are short texts for which the budget is too small.
Nor has a search an answer that leaves more ways pending than there is room for (`Overflows`), as a
repetition does whose rounds are always found (`Plan.overflows_rounds`).
-/

namespace ClassFields

/-- Where there is room for `depth` more pending ways, a search finds nothing and takes a certain number
from the budget, which has to be as large. -/
def Costs (search : Search) (depth cost : Nat) : Prop :=
  ∀ pending budget, pending + depth ≤ maxPending →
    search pending budget =
      if cost ≤ budget then .lost (budget - cost) else .failed .tooManyGivenUp

namespace Costs

variable {first second : Search} {depth more m n pending budget : Nat}

theorem mono (h : Costs first depth m) (hd : depth ≤ more) : Costs first more m :=
  fun pending budget hp => h pending budget (by omega)

theorem fail : Costs .fail depth 0 := fun pending budget _ => by
  rw [if_pos (Nat.zero_le budget), Nat.sub_zero, Search.fail]

/-- To go on from one search to another takes one more, and until then one more is pending. -/
theorem orElse (hf : Costs first depth m) (hs : Costs second depth n) :
    Costs (first.orElse second) (depth + 1) (m + 1 + n) := by
  intro pending budget hp
  rw [Search.orElse, Search.withPending, if_pos (by omega), hf _ budget (by omega)]
  by_cases hm : m + 1 ≤ budget
  · obtain ⟨left, rfl⟩ := Nat.exists_eq_add_of_le hm
    have hl : m + 1 + left - m = left + 1 := by omega
    rw [if_pos (by omega), hl, Verdict.orElse, hs pending left (by omega), Nat.add_sub_add_left]
    simp only [Nat.add_le_add_iff_left]
  · rw [if_neg (show ¬ m + 1 + n ≤ budget by omega)]
    split
    · rw [show budget - m = 0 by omega]
      rfl
    · rfl

theorem eq_failed (h : Costs first depth m) (hp : pending + depth ≤ maxPending) (hb : budget < m) :
    first pending budget = .failed .tooManyGivenUp := by
  rw [h pending budget hp, if_neg (Nat.not_le.mpr hb)]

end Costs

/-- Where there is not room for more than `room` more pending ways, a search has no answer. -/
def Overflows (search : Search) (room : Nat) : Prop :=
  ∀ pending budget, maxPending ≤ pending + room → search pending budget = .failed .tooManyPending

namespace Overflows

variable {first : Search} {room : Nat}

theorem orElse_zero (first second : Search) : Overflows (first.orElse second) 0 := by
  intro pending budget hp
  rw [Search.orElse, Search.withPending, if_neg (by omega), Verdict.orElse]

/-- While a search is made, one more is pending. -/
theorem orElse (h : Overflows first room) (second : Search) :
    Overflows (first.orElse second) (room + 1) := by
  intro pending budget hp
  rw [Search.orElse, Search.withPending]
  split
  · rw [h _ budget (by omega), Verdict.orElse]
  · rw [Verdict.orElse]

end Overflows

namespace Plan

variable {c : Char} {a : CharClass} {start : SearchStart} {rest : Rest} {thread : Thread}
  {depth m n fuel : Nat}

/-! ## Plans that find nothing -/

theorem take?_eq_none (h : ∀ d ∈ thread.spot.after, a.contains d = false) :
    thread.take? a = none := by
  unfold Thread.take?
  split
  · rfl
  · rename_i d after heq
    exact if_neg (ne_true_of_eq_false (h d (heq ▸ List.mem_cons_self)))

theorem run_one_eq_fail (h : ∀ d ∈ thread.spot.after, a.contains d = false) :
    (Plan.one a).run start rest thread = .fail := by
  rw [run, take?_eq_none h]

theorem run_regular_one_eq_fail (h : ∀ d ∈ thread.spot.after, a.contains d = false) :
    (Plan.regular (.one a)).run start rest thread = .fail := by
  rw [run, Regular.threads, take?_eq_none (by exact h)]
  rfl

/-! ## Two ways -/

/-- A choice between two ways to take a character of a class. -/
def twoWays (a : CharClass) : Plan := .alt (.one a) (.one a)

theorem costs_twoWays_nil (h : thread.spot.after = []) :
    Costs ((twoWays a).run start rest thread) 1 1 := by
  have ho : (Plan.one a).run start rest thread = .fail := run_one_eq_fail (h ▸ List.forall_mem_nil _)
  rw [twoWays, run, ho]
  exact .orElse .fail .fail

theorem costs_twoWays_cons {cost : Nat} {after : List Char} (ha : a.contains c)
    (h : thread.spot.after = c :: after)
    (hr : Costs (rest ⟨⟨thread.spot.index + 1, c :: thread.spot.before, after⟩, thread.slots⟩) depth
      cost) :
    Costs ((twoWays a).run start rest thread) (depth + 1) (cost + 1 + cost) := by
  have ho : (Plan.one a).run start rest thread =
      rest ⟨⟨thread.spot.index + 1, c :: thread.spot.before, after⟩, thread.slots⟩ := by
    rw [run, Thread.take?, h]
    dsimp only
    rw [if_pos ha]
  rw [twoWays, run, ho]
  exact .orElse hr hr

/-- Each character doubles the cost of a repetition that nothing can come after. -/
theorem costs_rounds (ha : a.contains c) (hf : n < fuel) (count : Nat) (mark : Option Nat)
    (hr : ∀ (thread : Thread) m, thread.spot.after = List.replicate m c → Costs (rest thread) 0 0)
    (h : thread.spot.after = List.replicate n c) :
    Costs (rounds ((twoWays a).run start) true false 0 none rest fuel count mark thread) (2 * n + 2)
      (4 * Nat.pow 2 n - 2) := by
  induction n generalizing fuel count mark thread with
  | zero =>
    obtain ⟨fuel, rfl⟩ := Nat.exists_eq_succ_of_ne_zero (Nat.ne_zero_of_lt hf)
    exact (costs_twoWays_nil h).orElse ((hr thread 0 h).mono (Nat.zero_le 1))
  | succ n ih =>
    obtain ⟨fuel, rfl⟩ := Nat.exists_eq_succ_of_ne_zero (Nat.ne_zero_of_lt hf)
    have hp : 0 < Nat.pow 2 n := Nat.two_pow_pos n
    have hs : Nat.pow 2 (n + 1) = Nat.pow 2 n * 2 := Nat.pow_succ 2 n
    have hc : 4 * Nat.pow 2 (n + 1) - 2 =
        4 * Nat.pow 2 n - 2 + 1 + (4 * Nat.pow 2 n - 2) + 1 + 0 := by
      omega
    rw [hc]
    exact (costs_twoWays_cons ha h (ih (Nat.lt_of_succ_lt_succ hf) _ _ rfl)).orElse
      ((hr thread _ h).mono (Nat.zero_le _))

theorem costs_many_twoWays (ha : a.contains c)
    (hr : ∀ (thread : Thread) m, thread.spot.after = List.replicate m c → Costs (rest thread) 0 0)
    (h : thread.spot.after = List.replicate n c) :
    Costs ((Plan.many (.twoWays a) 0 none true false).run start rest thread) (2 * n + 2)
      (4 * Nat.pow 2 n - 2) := by
  refine costs_rounds ha ?_ 0 none hr h
  rw [roundLimit, Option.getD_none, h, List.length_replicate]
  omega

/-! ## Rounds that are always found -/

theorem threads_zeroOrMore_ne_nil (b : Regular) (greedy : Bool) (thread : Thread) :
    (Regular.many b 0 none greedy).threads thread ≠ [] := by
  have hd (threads : List Thread) (h : threads ≠ []) : Regular.distinct [] threads ≠ [] := by
    obtain ⟨first, others, rfl⟩ := List.exists_cons_of_ne_nil h
    exact List.cons_ne_nil first _
  refine hd _ ?_
  cases greedy
  · exact List.cons_ne_nil thread _
  · exact List.append_ne_nil_of_right_ne_nil _ (List.cons_ne_nil thread [])

/-- A plan is found from every thread, in one way, with nothing of it pending. -/
def GoesOn (plan : Plan) : Prop :=
  ∀ start rest thread, ∃ next, plan.run start rest thread = rest next

theorem goesOn_regular {b : Regular} (h : ∀ thread, b.threads thread ≠ []) :
    (Plan.regular b).GoesOn := by
  intro start rest thread
  obtain ⟨next, others, hn⟩ :=
    List.exists_cons_of_ne_nil (h { thread with slots := thread.slots.forget b.groups })
  refine ⟨next, ?_⟩
  rw [run, hn]

theorem GoesOn.group {plan : Plan} (h : plan.GoesOn) (index : Nat) : (group index plan).GoesOn := by
  intro start rest thread
  obtain ⟨next, hn⟩ := h start (fun thread => rest (thread.save (2 * index + 1)))
    (thread.save (2 * index))
  exact ⟨_, hn⟩

theorem GoesOn.ahead {plan : Plan} (h : plan.GoesOn) : (ahead false plan).GoesOn := by
  intro start rest thread
  obtain ⟨next, hn⟩ := h start (fun inner => rest { inner with spot := thread.spot }) thread
  exact ⟨_, hn⟩

/-- A greedy repetition between its bounds: one more round, or none. -/
theorem rounds_of_between {round : Rest → Rest} {count lo hi : Nat} (hl : lo ≤ count)
    (hh : count < hi) (mark : Option Nat) :
    rounds round true false lo (some hi) rest (fuel + 1) count mark thread =
      .orElse (round (rounds round true false lo (some hi) rest fuel (count + 1)
        (some thread.spot.index)) thread) (rest thread) := by
  have hc : (some hi == some count) = false := by
    simp only [beq_eq_false_iff_ne, ne_eq, Option.some.injEq]
    omega
  rw [rounds, hc]
  simp only [Bool.false_and, Bool.false_eq_true, if_false, Nat.not_lt.mpr hl, if_pos hl, if_true]

/-- Each round leaves one more way pending: to have no more rounds. -/
theorem overflows_rounds {plan : Plan} {room count lo hi : Nat} (h : plan.GoesOn) (hf : room < fuel)
    (hl : lo ≤ count) (hh : count + room < hi) (mark : Option Nat) :
    Overflows (rounds (plan.run start) true false lo (some hi) rest fuel count mark thread) room := by
  induction room generalizing fuel count mark thread with
  | zero =>
    obtain ⟨fuel, rfl⟩ := Nat.exists_eq_succ_of_ne_zero (Nat.ne_zero_of_lt hf)
    rw [rounds_of_between hl hh]
    exact .orElse_zero _ _
  | succ room ih =>
    obtain ⟨fuel, rfl⟩ := Nat.exists_eq_succ_of_ne_zero (Nat.ne_zero_of_lt hf)
    obtain ⟨next, hn⟩ := h start (rounds (plan.run start) true false lo (some hi) rest fuel (count + 1)
      (some thread.spot.index)) thread
    rw [rounds_of_between hl (by omega), hn]
    exact (ih (Nat.lt_of_succ_lt_succ hf) (Nat.le_succ_of_le hl) (by omega) _).orElse _

end Plan

namespace Program

variable {program : Program} {plan : Plan} {spot : Spot} {steppedOver : Bool} {fault : SearchFault}

/-- A search has no answer if the plan has none at its first place. -/
theorem search_of_failed (hp : program.engine = .backtracking plan false)
    (h : plan.run ⟨spot.index, steppedOver⟩ .done ⟨spot, Slots.unset program.lastGroup⟩ 1 budget =
      .failed fault) : program.search spot steppedOver = .failed fault := by
  have hs : seekPlan plan ⟨spot.index, steppedOver⟩ (Slots.unset program.lastGroup) spot.index
      spot.before spot.after 0 budget = .failed fault := by
    obtain ⟨index, before, _ | ⟨c, after⟩⟩ := spot <;>
      rw [seekPlan, Search.orElse, Search.withPending, if_pos (by decide), h, Verdict.orElse]
  rw [search, hp]
  dsimp only
  rw [if_neg Bool.false_ne_true, hs]

/-- A search has no answer if the plan takes more than the budget at its first place. -/
theorem search_of_costs {depth cost : Nat} (hp : program.engine = .backtracking plan false)
    (h : Costs (plan.run ⟨spot.index, steppedOver⟩ .done ⟨spot, Slots.unset program.lastGroup⟩)
      depth cost)
    (hd : 1 + depth ≤ maxPending) (hb : budget < cost) :
    program.search spot steppedOver = .failed .tooManyGivenUp :=
  search_of_failed hp (h.eq_failed hd hb)

/-- A search has no answer if the plan leaves more ways pending at its first place than there is room
for. -/
theorem search_of_overflows {room : Nat} (hp : program.engine = .backtracking plan false)
    (h : Overflows (plan.run ⟨spot.index, steppedOver⟩ .done ⟨spot, Slots.unset program.lastGroup⟩)
      room)
    (hr : maxPending ≤ 1 + room) : program.search spot steppedOver = .failed .tooManyPending :=
  search_of_failed hp (h 1 budget hr)

end Program

end ClassFields
