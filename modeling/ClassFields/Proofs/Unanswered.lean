import ClassFields.Pattern.Rewrite

/-!
# Searches without an answer

`rewrite` makes one search after another, and has no result exactly if one of them has no answer,
be it the first one or one after any number of matches, and then for the same reason
(`rewrite_eq_error_iff`). Each search starts at
a later place than the one before it, but for a match that ends where its search started: then the
same place is searched again. What that search finds depends on no more than whether an empty match
has been stepped over, so a third search from there would find again what one of the first two has
found (`Unanswered.first_or_second`), and the steps that `rewrite` may take reach every search.
-/

namespace ClassFields

namespace Spot

/-- Going forward over anything leaves less ahead. -/
theorem forward_eq_or_lt (n : Nat) (spot : Spot) :
    spot.forward n = spot ∨ (spot.forward n).after.length < spot.after.length := by
  fun_induction forward n spot with
  | case1 => exact .inl rfl
  | case2 n index before c rest ih =>
    refine .inr ?_
    rw [List.length_cons]
    rcases ih with ih | ih
    · rw [ih]
      exact Nat.lt_succ_self _
    · exact Nat.lt_succ_of_lt ih
  | case3 => exact .inl rfl

theorem length_after_of_next? {spot next : Spot} (h : spot.next? = some next) :
    next.after.length < spot.after.length := by
  unfold next? at h
  split at h
  · cases h
  · rename_i heq
    cases h
    rw [heq]
    exact Nat.lt_succ_self _

end Spot

namespace Program

/-- Where a match ends. -/
def matchEnd (slots : Slots) : Nat := ((slots.span? 0).getD (0, 0)).2

/-- Where the search after a match starts, if it can: at the end of the match, or a character further
on if the match is empty. -/
def onward (origin : Spot) (slots : Slots) : Option Spot :=
  let (lo, hi) := (slots.span? 0).getD (0, 0)
  let stop := origin.forward (hi - origin.index)
  if lo == hi then stop.next? else some stop

/-- The search after a match starts later, or at the same place again. -/
theorem onward_eq_or_lt {origin next : Spot} {slots : Slots} (h : onward origin slots = some next) :
    next = origin ∨ next.after.length < origin.after.length := by
  unfold onward at h
  have hf := origin.forward_eq_or_lt (((slots.span? 0).getD (0, 0)).2 - origin.index)
  dsimp only at h
  split at h
  · have hn := Spot.length_after_of_next? h
    rcases hf with hf | hf
    · exact .inr (hf ▸ hn)
    · exact .inr (Nat.lt_trans hn hf)
  · cases h
    exact hf

/-- One of the next searches of a loop that replaces matches has no answer, for a reason: the one from
a place, or one that comes after it has found a match. -/
inductive Unanswered (program : Program) (stepping : Bool) (fault : SearchFault) :
    Nat → Spot → Bool → Prop
  | now {n : Nat} {origin : Spot} {steppedOver : Bool}
      (h : program.search origin steppedOver = .failed fault) :
      Unanswered program stepping fault (n + 1) origin steppedOver
  | later {n : Nat} {origin next : Spot} {steppedOver : Bool} {slots : Slots}
      (h : program.search origin steppedOver = .matched slots)
      (ho : onward origin slots = some next)
      (hn : Unanswered program stepping fault n next (stepping && matchEnd slots < next.index)) :
      Unanswered program stepping fault (n + 1) origin steppedOver

variable {program : Program} {stepping steppedOver : Bool} {fault : SearchFault} {n m : Nat}
  {origin : Spot}

/-! ## The number of searches -/

theorem Unanswered.mono (h : program.Unanswered stepping fault n origin steppedOver) (hm : n ≤ m) :
    program.Unanswered stepping fault m origin steppedOver := by
  induction h generalizing m with
  | now h =>
    obtain ⟨m, rfl⟩ := Nat.exists_eq_succ_of_ne_zero (Nat.ne_zero_of_lt hm)
    exact .now h
  | later h ho _ ih =>
    obtain ⟨m, rfl⟩ := Nat.exists_eq_succ_of_ne_zero (Nat.ne_zero_of_lt hm)
    exact .later h ho (ih (Nat.le_of_succ_le_succ hm))

/-- A search from a place that is searched again, and the search after it. -/
def Unanswered.Again (program : Program) (stepping : Bool) (fault : SearchFault) (n : Nat)
    (origin : Spot) (steppedOver : Bool) : Prop :=
  ∃ slots, program.search origin steppedOver = .matched slots ∧ onward origin slots = some origin ∧
    program.Unanswered stepping fault n origin (stepping && matchEnd slots < origin.index)

theorem Unanswered.of_again
    (h : program.Unanswered stepping fault n origin steppedOver ∨
      Unanswered.Again program stepping fault n origin steppedOver) :
    program.Unanswered stepping fault (n + 1) origin steppedOver := by
  rcases h with h | ⟨slots, h, ho, hn⟩
  · exact h.mono (Nat.le_succ n)
  · exact .later h ho hn

/-- Counting two searches from each later place, one from the place itself is enough, unless the
first one leads back there. -/
theorem Unanswered.first_or_second (h : program.Unanswered stepping fault n origin steppedOver) :
    program.Unanswered stepping fault (2 * origin.after.length + 1) origin steppedOver ∨
      Unanswered.Again program stepping fault (2 * origin.after.length + 1) origin steppedOver := by
  induction h with
  | now h => exact .inl (.now h)
  | @later n origin next steppedOver slots h ho hn ih =>
    rcases onward_eq_or_lt ho with rfl | hl
    · rcases ih with ih | ⟨slots', h', -, ih⟩
      · exact .inr ⟨slots, h, ho, ih⟩
      -- of three searches from one place two are the same
      generalize hb : (stepping && decide (matchEnd slots < next.index)) = second at h' hn
      generalize hc : (stepping && decide (matchEnd slots' < next.index)) = third at ih
      by_cases h₁ : third = steppedOver
      · exact .inl (h₁ ▸ ih)
      by_cases h₂ : third = second
      · exact .inr ⟨slots, h, ho, hb ▸ h₂ ▸ ih⟩
      · have he : steppedOver = second := by
          cases steppedOver <;> cases second <;> cases third <;> simp_all
        rw [he, h'] at h
        cases h
        exact absurd (hc.symm.trans hb) h₂
    · exact .inl (.later h ho ((of_again ih).mono (by omega)))

/-- Two searches from each place are enough. -/
theorem Unanswered.bounded (h : program.Unanswered stepping fault n origin steppedOver) :
    program.Unanswered stepping fault (2 * (origin.after.length + 1)) origin steppedOver :=
  of_again h.first_or_second

/-! ## Replacing -/

section

variable {text : List Char} {replacement : Match → List Char} {spot : Spot} {from? : Option Spot}
  {last : Option Nat}

theorem unanswered_succ : program.Unanswered stepping fault (n + 1) origin steppedOver ↔
    program.search origin steppedOver = .failed fault ∨
      ∃ slots, program.search origin steppedOver = .matched slots ∧
        ∃ next, onward origin slots = some next ∧
          program.Unanswered stepping fault n next (stepping && matchEnd slots < next.index) := by
  constructor
  · rintro (h | ⟨h, ho, hn⟩)
    · exact .inl h
    · exact .inr ⟨_, h, _, ho, hn⟩
  · rintro (h | ⟨slots, h, next, ho, hn⟩)
    · exact .now h
    · exact .later h ho hn

/-- After a match, the loop goes on from the end of the match, whether it counts or not. -/
theorem rewriteFrom_of_matched {slots : Slots}
    (h : program.search origin (stepping && last.any (· < origin.index)) = .matched slots) :
    ∃ stop, rewriteFrom program stepping text replacement (n + 1) spot (some origin) last =
        .error fault ↔
      rewriteFrom program stepping text replacement n stop (onward origin slots)
        (some (matchEnd slots)) = .error fault := by
  rw [rewriteFrom, h]
  dsimp only
  unfold onward matchEnd
  generalize (slots.span? 0).getD (0, 0) = place
  obtain ⟨lo, hi⟩ := place
  dsimp only
  split
  · rename_i hc
    obtain ⟨he, hl⟩ := Bool.and_eq_true_iff.mp hc
    rw [if_pos he, beq_iff_eq.mp hl]
    exact ⟨spot, Iff.rfl⟩
  · have hb (rest : Except SearchFault (List Char)) (f : List Char → List Char) :
        (do return f (← rest)) = .error fault ↔ rest = .error fault := by
      cases rest <;> simp [bind, Except.bind, pure, Except.pure]
    exact ⟨origin.forward (hi - origin.index), hb _ _⟩

theorem rewriteFrom_eq_error_iff :
    rewriteFrom program stepping text replacement n spot from? last = .error fault ↔
      ∃ origin, from? = some origin ∧
        program.Unanswered stepping fault n origin (stepping && last.any (· < origin.index)) := by
  induction n generalizing spot from? last with
  | zero =>
    rw [rewriteFrom]
    refine ⟨nofun, ?_⟩
    rintro ⟨origin, -, ⟨⟩⟩
  | succ n ih =>
    rcases from? with _ | origin
    · rw [rewriteFrom]
      simp
    simp only [Option.some.injEq, exists_eq_left', unanswered_succ]
    rcases hs : program.search origin (stepping && last.any (· < origin.index)) with slots | _ | other
    · obtain ⟨stop, hm⟩ := rewriteFrom_of_matched (n := n) hs
      rw [hm, ih]
      simp
    · rw [rewriteFrom, hs]
      simp
    · rw [rewriteFrom, hs]
      simp

end

theorem rewrite_eq_error_iff {replacement : Match → List Char} {text : List Char} :
    program.rewrite stepping replacement text = .error fault ↔
      ∃ n, program.Unanswered stepping fault n (.start text) false := by
  have hb : (stepping && (none : Option Nat).any (· < (Spot.start text).index)) = false :=
    Bool.and_false stepping
  rw [rewrite, rewriteFrom_eq_error_iff]
  simp only [Option.some.injEq, exists_eq_left', hb]
  exact ⟨fun h => ⟨_, h⟩, fun ⟨n, h⟩ => h.bounded⟩

end Program

end ClassFields
