import ClassFields.Pattern.Rewrite

/-!
# Replacing what a pattern matches

What `rewrite` makes of a text for two kinds of patterns: for a single character, each occurrence is
replaced (`rewrite_only`), and for a class of characters looked ahead at from the start, text is put
in front of one (`rewrite_leading`). Both are regular, so a search always has an answer.
-/

namespace ClassFields

/-- Going forward over the text in front. -/
theorem Spot.forward_append (u v before : List Char) (index : Nat) :
    Spot.forward u.length ⟨index, before, u ++ v⟩ =
      ⟨index + u.length, u.reverse ++ before, v⟩ := by
  induction u generalizing index before with
  | nil => rfl
  | cons c u ih =>
    rw [List.length_cons, List.cons_append, Spot.forward, ih]
    simp [Nat.add_comm, Nat.add_left_comm]

namespace Program

/-- The program of a regular pattern without groups. -/
def groupless (a : Regular) : Program := ⟨.regular a, 1, 0, []⟩

/-- Whether a program is that of a regular pattern without groups. -/
def isGroupless (a : Regular) : Program → Bool
  | ⟨.regular b, 1, 0, []⟩ => b == a
  | _ => false

theorem eq_groupless {a : Regular} {program : Program} (h : program.isGroupless a) :
    program = groupless a := by
  unfold isGroupless at h
  split at h
  · rw [beq_iff_eq.mp h, groupless]
  · cases h

/-! ## Steps -/

section

variable {a : Regular} {stepping : Bool} {text : List Char} {replacement : Match → List Char}
  {steps index lo hi : Nat} {before after v : List Char} {slots : Slots} {spot origin : Spot}
  {last : Option Nat} {thread : Thread} {d : Char}

theorem seekRegular_of_threads (h : a.threads ⟨⟨index, before, after⟩, slots⟩ = [thread]) :
    seekRegular a slots index before after = some thread := by
  rw [seekRegular.eq_def]
  simp only [h]

theorem seekRegular_cons (h : a.threads ⟨⟨index, before, d :: v⟩, slots⟩ = []) :
    seekRegular a slots index before (d :: v) =
      seekRegular a slots (index + 1) (d :: before) v := by
  rw [seekRegular.eq_def]
  simp only [h]

theorem seekRegular_nil (h : a.threads ⟨⟨index, before, []⟩, slots⟩ = []) :
    seekRegular a slots index before [] = none := by
  rw [seekRegular.eq_def]
  simp only [h]

theorem search_groupless (steppedOver : Bool) : (groupless a).search spot steppedOver =
    match seekRegular a (.unset (groupless a).lastGroup) spot.index spot.before spot.after with
    | some thread => .matched thread.slots
    | none => .unmatched := rfl

/-- Without a match, what is left stays as it is. -/
theorem rewriteFrom_of_none
    (h : seekRegular a (.unset (groupless a).lastGroup) origin.index origin.before origin.after =
      none) :
    rewriteFrom (groupless a) stepping text replacement steps spot (some origin) last =
      .ok spot.after := by
  rcases steps with _ | steps
  · rfl
  · rw [rewriteFrom, search_groupless, h]

/-- A match is replaced, what is before it stays, and the search goes on behind it; behind an empty
match, a character further on. -/
theorem rewriteFrom_of_some {found next : Spot} {onward : Option Spot} {front : List Char}
    (h : seekRegular a (.unset (groupless a).lastGroup) spot.index spot.before spot.after =
      some ⟨found, [some lo, some hi]⟩)
    (hf : spot.after.take (lo - spot.index) = front)
    (hn : spot.forward (hi - spot.index) = next)
    (ho : (if lo == hi then next.next? else some next) = onward) (hl : lo = hi → last = none) :
    rewriteFrom (groupless a) stepping text replacement (steps + 1) spot (some spot) last =
      (rewriteFrom (groupless a) stepping text replacement steps next onward (some hi)).map
        (front ++ replacement ⟨text, [some lo, some hi]⟩ ++ ·) := by
  have hc : (lo == hi && last == some hi) = false := by
    rw [Bool.and_eq_false_imp, beq_iff_eq]
    intro he
    rw [hl he]
    rfl
  have hp : Slots.span? [some lo, some hi] 0 = some (lo, hi) := rfl
  rw [rewriteFrom, search_groupless, h]
  simp only [hp, Option.getD_some, hc, hn, ho, hf, Bool.false_eq_true, if_false]
  cases rewriteFrom (groupless a) stepping text replacement steps next onward (some hi) <;> rfl

end

/-! ## A single character -/

section

/-- The pattern of one character, as the whole match. -/
def only (c : Char) : Regular := .group 0 (.one (.single c))

/-- What a character becomes where another one is replaced by a text. -/
def swap (c : Char) (t : List Char) (d : Char) : List Char := if d == c then t else [d]

variable {c : Char} {index : Nat} {before u v : List Char} {slots : Slots}

theorem contains_single (c d : Char) : (CharClass.single c).contains d = (d == c) := by
  rw [Bool.eq_iff_iff]
  simp only [CharClass.single, CharClass.contains, Bool.and_eq_true, decide_eq_true_eq, beq_iff_eq]
  exact ⟨fun h => Char.le_antisymm h.2 h.1, fun h => h ▸ ⟨Char.le_refl d, Char.le_refl d⟩⟩

theorem threads_only_nil : (only c).threads ⟨⟨index, before, []⟩, slots⟩ = [] := rfl

theorem threads_only_cons (d : Char) : (only c).threads ⟨⟨index, before, d :: v⟩, slots⟩ =
    if d == c then [⟨⟨index + 1, d :: before, v⟩,
      (slots.set 0 (some index)).set 1 (some (index + 1))⟩] else [] := by
  simp only [only, Regular.threads, Thread.save, Thread.take?, contains_single]
  split <;> rfl

/-- The first occurrence of the character is found. -/
theorem seekRegular_only (h : c ∉ u) :
    seekRegular (only c) slots index before (u ++ c :: v) =
      some ⟨⟨index + u.length + 1, c :: (u.reverse ++ before), v⟩,
        (slots.set 0 (some (index + u.length))).set 1 (some (index + u.length + 1))⟩ := by
  induction u generalizing index before with
  | nil =>
    refine seekRegular_of_threads ((threads_only_cons c).trans ?_)
    rw [if_pos (beq_self_eq_true c)]
    rfl
  | cons d u ih =>
    obtain ⟨hd, hu⟩ := not_or.mp (mt List.mem_cons.mpr h)
    rw [List.cons_append, seekRegular_cons (by simp [threads_only_cons, Ne.symm hd]), ih hu]
    simp [Nat.add_comm, Nat.add_left_comm]

theorem seekRegular_only_eq_none (h : c ∉ v) : seekRegular (only c) slots index before v = none := by
  induction v generalizing index before with
  | nil => exact seekRegular_nil threads_only_nil
  | cons d v ih =>
    obtain ⟨hd, hv⟩ := not_or.mp (mt List.mem_cons.mpr h)
    rw [seekRegular_cons (by simp [threads_only_cons, Ne.symm hd]), ih hv]

theorem swap_self (t : List Char) : swap c t c = t := if_pos (beq_self_eq_true c)

theorem swap_of_ne {t : List Char} {d : Char} (h : d ≠ c) : swap c t d = [d] :=
  if_neg (mt beq_iff_eq.mp h)

theorem flatMap_swap_of_notMem {t : List Char} (h : c ∉ u) : u.flatMap (swap c t) = u := by
  induction u with
  | nil => rfl
  | cons d u ih =>
    obtain ⟨hd, hu⟩ := not_or.mp (mt List.mem_cons.mpr h)
    rw [List.flatMap_cons, ih hu, swap_of_ne (Ne.symm hd)]
    rfl

/-- From one occurrence to the next, what is between them stays. -/
theorem rewriteFrom_only {stepping : Bool} {text t : List Char} {steps : Nat} {spot : Spot}
    {last : Option Nat} (h : spot.after.length < steps) :
    rewriteFrom (groupless (only c)) stepping text (fun _ => t) steps spot (some spot) last =
      .ok (spot.after.flatMap (swap c t)) := by
  induction steps generalizing spot last with
  | zero => exact absurd h (Nat.not_lt_zero _)
  | succ steps ih =>
    obtain ⟨index, before, after⟩ := spot
    by_cases hc : c ∈ after
    · obtain ⟨u, v, rfl, hu⟩ := List.eq_append_cons_of_mem hc
      have hv : v.length < steps := by
        simp only [List.length_append, List.length_cons] at h
        omega
      have hf : (u ++ c :: v).take (index + u.length - index) = u := by
        rw [Nat.add_sub_cancel_left, List.take_left']
        rfl
      have hn : Spot.forward (index + u.length + 1 - index) ⟨index, before, u ++ c :: v⟩ =
          ⟨index + u.length + 1, c :: (u.reverse ++ before), v⟩ := by
        have := Spot.forward_append (u ++ [c]) v before index
        simpa [Nat.add_assoc] using this
      rw [rewriteFrom_of_some (seekRegular_only hu) hf hn (if_neg (by simp)) (by omega), ih hv]
      simp [Except.map, flatMap_swap_of_notMem hu, swap_self]
    · rw [rewriteFrom_of_none (seekRegular_only_eq_none hc), flatMap_swap_of_notMem hc]

/-- Each occurrence of the character is replaced. -/
theorem rewrite_only (c : Char) (stepping : Bool) (t text : List Char) :
    (groupless (only c)).rewrite stepping (fun _ => t) text = .ok (text.flatMap (swap c t)) :=
  rewriteFrom_only (show text.length < 2 * (text.length + 1) by omega)

end

/-! ## A character at the start -/

section

/-- The pattern of the start of a text before a character of a class. -/
def leading (a : CharClass) : Regular :=
  .seq (.group 0 (.seq (.anchor .textStart) .empty)) (.seq (.one a) .empty)

/-- A text with another in front if it starts with a character of a class. -/
def inFront (a : CharClass) (t : List Char) : List Char → List Char
  | [] => []
  | d :: v => if a.contains d then t ++ d :: v else d :: v

variable {a : CharClass} {index : Nat} {before v : List Char} {slots : Slots}

theorem inFront_cons (t : List Char) (d : Char) :
    inFront a t (d :: v) = if a.contains d then t ++ d :: v else d :: v := rfl

theorem threads_leading_nil : (leading a).threads ⟨⟨0, [], []⟩, slots⟩ = [] := rfl

theorem threads_leading_cons (d : Char) : (leading a).threads ⟨⟨0, [], d :: v⟩, slots⟩ =
    if a.contains d then [⟨⟨1, [d], v⟩, (slots.set 0 (some 0)).set 1 (some 0)⟩] else [] := by
  by_cases h : a.contains d <;>
    simp [leading, Regular.threads, Regular.andThen, Regular.distinct, Thread.save, Thread.take?,
      Anchor.holds, h]

/-- Behind the start there is no match. -/
theorem seekRegular_leading_eq_none {e : Char} :
    seekRegular (leading a) slots index (e :: before) v = none := by
  induction v generalizing index before e with
  | nil => exact seekRegular_nil rfl
  | cons d v ih => rw [seekRegular_cons rfl, ih]

/-- A character of the class at the start gets the text in front. -/
theorem rewrite_leading (a : CharClass) (stepping : Bool) (t text : List Char) :
    (groupless (leading a)).rewrite stepping (fun _ => t) text = .ok (inFront a t text) := by
  rcases text with _ | ⟨d, v⟩
  · exact rewriteFrom_of_none (seekRegular_nil threads_leading_nil)
  by_cases hd : a.contains d
  · have hs : seekRegular (leading a) [none, none] 0 [] (d :: v) =
        some ⟨⟨1, [d], v⟩, [some 0, some 0]⟩ :=
      seekRegular_of_threads (by rw [threads_leading_cons, if_pos hd]; rfl)
    have hr : rewriteFrom (groupless (leading a)) stepping (d :: v) (fun _ => t)
        (2 * (v.length + 1) + 1) (.start (d :: v)) (Spot.start (d :: v)).next? (some 0) =
          .ok (d :: v) :=
      rewriteFrom_of_none seekRegular_leading_eq_none
    rw [inFront_cons, if_pos hd]
    exact (rewriteFrom_of_some hs rfl rfl rfl fun _ => rfl).trans (congrArg _ hr)
  · have hs : seekRegular (leading a) [none, none] 0 [] (d :: v) = none := by
      rw [seekRegular_cons (by rw [threads_leading_cons, if_neg hd]), seekRegular_leading_eq_none]
    rw [inFront_cons, if_neg hd]
    exact rewriteFrom_of_none hs

end

end Program

end ClassFields
