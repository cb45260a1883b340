import ClassFields.Pattern.Rewrite

/-!
# The slots of a match

Matching changes slots one at a time, so what one change keeps holds of the slots of any match that
a search finds (`Program.slots_of_search`). In particular a match has two slots for each group up to
the last one and two for itself (`Program.length_of_search`).
-/

namespace ClassFields

/-- A property of slots that changing one slot keeps. -/
def Slots.Settable (P : Slots → Prop) : Prop :=
  ∀ slots i place, P slots → P (slots.set i place)

theorem Slots.settable_length (n : Nat) : Settable (fun slots => slots.length = n) := by
  rintro slots i place rfl
  exact List.length_set

theorem Slots.Settable.forget {P : Slots → Prop} (hP : Settable P) {slots : Slots} (h : P slots)
    (groups : List Nat) : P (slots.forget groups) := by
  induction groups generalizing slots with
  | nil => exact h
  | cons i groups ih => exact ih (hP _ _ _ (hP _ _ _ h))

theorem Thread.slots_of_take? {thread next : Thread} {a : CharClass}
    (h : thread.take? a = some next) : next.slots = thread.slots := by
  unfold take? at h
  split at h
  · cases h
  · split at h
    · cases h
      rfl
    · cases h

section

variable {P : Slots → Prop} {step first second : Thread → List Thread}

/-! ## Regular patterns -/

namespace Regular

/-- A way of matching that keeps a property of the slots. -/
def Keeps (P : Slots → Prop) (step : Thread → List Thread) : Prop :=
  ∀ thread, P thread.slots → ∀ next ∈ step thread, P next.slots

theorem mem_of_mem_distinct {thread : Thread} {seen : List Nat} {threads : List Thread}
    (h : thread ∈ distinct seen threads) : thread ∈ threads := by
  induction threads generalizing seen with
  | nil => exact h
  | cons other threads ih =>
    rw [distinct] at h
    split at h
    · exact List.mem_cons_of_mem other (ih h)
    · rcases List.mem_cons.mp h with rfl | h
      · exact List.mem_cons_self
      · exact List.mem_cons_of_mem other (ih h)

theorem Keeps.andThen (h₁ : Keeps P first) (h₂ : Keeps P second) :
    Keeps P (andThen first second) := by
  intro thread h next hm
  obtain ⟨middle, hf, hs⟩ := List.mem_flatMap.mp (mem_of_mem_distinct hm)
  exact h₂ middle (h₁ thread h middle hf) next hs

theorem Keeps.orElse (greedy : Bool) (h₁ : Keeps P first) (h₂ : Keeps P second) :
    Keeps P (fun thread => orElse greedy (first thread) (second thread)) := by
  intro thread h next hm
  have hm : next ∈ first thread ∨ next ∈ second thread := by
    have hd := mem_of_mem_distinct hm
    cases greedy
    · exact (List.mem_append.mp hd).symm
    · exact List.mem_append.mp hd
  rcases hm with hm | hm
  · exact h₁ thread h next hm
  · exact h₂ thread h next hm

theorem keeps_stay : Keeps P fun thread => [thread] := by
  intro thread h next hm
  rwa [List.mem_singleton.mp hm]

theorem Keeps.times (hs : Keeps P step) : ∀ n, Keeps P (times step n)
  | 0 => keeps_stay
  | n + 1 => hs.andThen (hs.times n)

theorem Keeps.upTo (hs : Keeps P step) (greedy : Bool) : ∀ n, Keeps P (upTo step greedy n)
  | 0 => keeps_stay
  | n + 1 => .orElse greedy (hs.andThen (hs.upTo greedy n)) keeps_stay

theorem again_keeps (hs : Keeps P step) (greedy : Bool) (origin depth : Nat)
    {found : List Nat × List Thread} {threads : List Thread} (hf : ∀ t ∈ found.2, P t.slots)
    (ht : ∀ t ∈ threads, P t.slots) :
    ∀ t ∈ (again step greedy origin depth found threads).2, P t.slots := by
  induction depth generalizing found threads with
  | zero => exact hf
  | succ depth ih =>
    rw [again]
    induction threads generalizing found with
    | nil => exact hf
    | cons thread threads ihf =>
      obtain ⟨seen, out⟩ := found
      obtain ⟨h, ht⟩ := List.forall_mem_cons.mp ht
      refine ihf ?_ ht
      dsimp only
      split
      · exact hf
      split
      · exact List.forall_mem_cons.mpr ⟨h, hf⟩
      split
      · exact List.forall_mem_cons.mpr ⟨h, ih hf (hs thread h)⟩
      · exact ih (List.forall_mem_cons.mpr ⟨h, hf⟩) (hs thread h)

theorem Keeps.oneOrMore (hs : Keeps P step) (greedy : Bool) : Keeps P (oneOrMore step greedy) := by
  intro thread h next hm
  exact again_keeps hs greedy _ _ (by simp) (hs thread h) next (List.mem_reverse.mp hm)

theorem Keeps.between (hs : Keeps P step) (greedy : Bool) (lo : Nat) (hi : Option Nat) :
    Keeps P (between step greedy lo hi) := by
  unfold Regular.between
  split
  · exact (hs.times lo).andThen (hs.upTo greedy _)
  · exact .orElse greedy (hs.oneOrMore greedy) keeps_stay
  · exact (hs.times _).andThen (hs.oneOrMore greedy)

theorem keeps_threads (hP : Slots.Settable P) (a : Regular) : Keeps P a.threads := by
  induction a with
  | empty => exact keeps_stay
  | one a =>
    intro thread h next hm
    rwa [Thread.slots_of_take? (Option.mem_toList.mp hm)]
  | anchor a =>
    intro thread h next hm
    rw [threads] at hm
    split at hm
    · rwa [List.mem_singleton.mp hm]
    · cases hm
  | seq a b iha ihb => exact iha.andThen ihb
  | alt a b iha ihb => exact .orElse true iha ihb
  | group i a ih =>
    intro thread h next hm
    obtain ⟨inner, hi, rfl⟩ := List.mem_map.mp hm
    exact hP _ _ _ (ih _ (hP _ _ _ h) inner hi)
  | many a lo hi greedy ih => exact ih.between greedy lo hi

end Regular

/-! ## Plans -/

/-- What a search has found, if it has found something, has slots with a property. -/
def Verdict.Holds (P : Slots → Prop) : Verdict → Prop
  | found thread _ => P thread.slots
  | lost _ | failed _ => True

theorem Verdict.Holds.orElse {verdict : Verdict} {other : Nat → Verdict} (h : verdict.Holds P)
    (ho : ∀ budget, (other budget).Holds P) : (verdict.orElse other).Holds P := by
  match verdict with
  | found _ _ => exact h
  | lost 0 | failed _ => trivial
  | lost (budget + 1) => exact ho budget

/-- What a search finds has slots with a property. -/
def Search.Keeps (P : Slots → Prop) (search : Search) : Prop :=
  ∀ pending budget, (search pending budget).Holds P

namespace Search

variable {first second : Search}

theorem keeps_fail : Search.fail.Keeps P := fun _ _ => trivial

theorem Keeps.withPending (h : first.Keeps P) : first.withPending.Keeps P := by
  intro pending budget
  unfold Search.withPending
  split
  · exact h _ budget
  · trivial

theorem Keeps.orElse (hf : first.Keeps P) (hs : second.Keeps P) : (first.orElse second).Keeps P :=
  fun pending budget => (hf.withPending pending budget).orElse (hs pending)

theorem Keeps.guard (h : first.Keeps P) (c : Prop) [Decidable c] :
    (if c then first else fail).Keeps P := by
  split
  · exact h
  · exact keeps_fail

theorem Keeps.commit {next : Thread → Search} (hf : first.Keeps P)
    (hn : ∀ thread, P thread.slots → (next thread).Keeps P) : (first.commit next).Keeps P := by
  intro pending budget
  have h : (first pending budget).Holds P := hf pending budget
  unfold Search.commit
  split
  · rename_i thread budget heq
    rw [heq] at h
    exact hn thread h pending budget
  · exact h

theorem Keeps.choose {yes : Thread → Search} (hf : first.Keeps P)
    (hy : ∀ thread, P thread.slots → (yes thread).Keeps P) (hn : second.Keeps P) :
    (first.choose yes second).Keeps P := by
  intro pending budget
  have h : (first.withPending pending budget).Holds P := hf.withPending pending budget
  unfold Search.choose
  split
  · rename_i thread budget heq
    rw [heq] at h
    exact hy thread h pending budget
  · exact h.orElse (hn pending)

end Search

/-- What comes next in a match finds slots with a property if it is given such slots. -/
def Rest.Keeps (P : Slots → Prop) (rest : Rest) : Prop :=
  ∀ thread, P thread.slots → (rest thread).Keeps P

namespace Plan

theorem keeps_done : Rest.done.Keeps P := fun _ h _ _ => h

theorem keeps_rounds {round : Rest → Rest} (hr : ∀ {rest}, Rest.Keeps P rest → (round rest).Keeps P)
    {greedy checked : Bool} {lo : Nat} {hi : Option Nat} {rest : Rest} (h : rest.Keeps P)
    (fuel count : Nat) (mark : Option Nat) :
    Rest.Keeps P (rounds round greedy checked lo hi rest fuel count mark) := by
  induction fuel generalizing count mark with
  | zero => exact fun _ _ => Search.keeps_fail
  | succ fuel ih =>
    intro thread hs
    rw [rounds]
    split
    · exact h thread hs
    split
    · exact Search.keeps_fail
    dsimp only
    split
    · exact hr (ih _ _) thread hs
    split
    · exact .orElse (hr (ih _ _) thread hs) (h thread hs)
    · exact .orElse (h thread hs) (hr (ih _ _) thread hs)

theorem keeps_run (hP : Slots.Settable P) (start : SearchStart) (plan : Plan) {rest : Rest}
    (h : rest.Keeps P) : Rest.Keeps P (plan.run start rest) := by
  -- what is found after a part is what the rest is given, or is thrown away
  induction plan generalizing rest with
  | empty => exact h
  | regular a =>
    intro thread hs
    rw [run]
    split
    · rename_i next _ ht
      exact h next (a.keeps_threads hP _ (hP.forget hs a.groups) next (ht ▸ List.mem_cons_self))
    · exact Search.keeps_fail
  | one a =>
    intro thread hs
    rw [run]
    split
    · rename_i next ht
      exact h next (by rwa [Thread.slots_of_take? ht])
    · exact Search.keeps_fail
  | anchor a => exact fun thread hs => .guard (h thread hs) _
  | seq a b iha ihb => exact iha (ihb h)
  | alt a b iha ihb => exact fun thread hs => .orElse (iha h thread hs) (ihb h thread hs)
  | group i a ih =>
    intro thread hs
    exact ih (fun inner hs => h _ (hP _ _ _ hs)) _ (hP _ _ _ hs)
  | many a lo hi greedy checked ih => exact fun thread hs => keeps_rounds ih h _ _ _ thread hs
  | ahead negated a ih =>
    intro thread hs
    cases negated
    · exact ih (fun inner hs => h ⟨thread.spot, inner.slots⟩ hs) thread hs
    · exact .choose (ih keeps_done thread hs) (fun _ _ => Search.keeps_fail) (h thread hs)
  | behind size negated a ih =>
    intro thread hs
    cases negated
    · rw [run]
      split
      · exact Search.keeps_fail
      · rename_i spot _
        exact ih (fun inner hs => h ⟨thread.spot, inner.slots⟩ hs) ⟨spot, thread.slots⟩ hs
    · rw [run]
      split
      · exact .choose Search.keeps_fail (fun _ _ => Search.keeps_fail) (h thread hs)
      · rename_i spot _
        exact .choose (ih keeps_done ⟨spot, thread.slots⟩ hs) (fun _ _ => Search.keeps_fail)
          (h thread hs)
  | backref i ignoreCase =>
    intro thread hs
    rw [run]
    split
    · exact Search.keeps_fail
    · rename_i lo hi _
      exact .guard (h ⟨thread.spot.forward (thread.spot.slice lo hi).length, thread.slots⟩ hs) _
  | atomic a ih => exact fun thread hs => .commit (ih keeps_done thread hs) h
  | keepOut => exact fun thread hs => h _ (hP _ _ _ hs)
  | lastEnd =>
    intro thread hs
    rw [run]
    split
    · exact Search.keeps_fail
    · exact h thread hs
  | tookPart i => exact fun thread hs => .guard (h thread hs) _
  | cond condition yes no ihc ihy ihn =>
    exact fun thread hs => .choose (ihc keeps_done thread hs) (ihy h) (ihn h thread hs)

end Plan

/-! ## Searches -/

namespace Program

theorem keeps_seekRegular (hP : Slots.Settable P) {a : Regular} {slots : Slots} (hs : P slots)
    {index : Nat} {before after : List Char} {thread : Thread}
    (h : seekRegular a slots index before after = some thread) : P thread.slots := by
  induction after generalizing index before with
  | nil =>
    unfold seekRegular at h
    split at h
    · rename_i heq
      cases h
      exact a.keeps_threads hP _ hs thread (heq ▸ List.mem_cons_self)
    · rename_i heq
      cases heq
    · cases h
  | cons c rest ih =>
    unfold seekRegular at h
    split at h
    · rename_i heq
      cases h
      exact a.keeps_threads hP _ hs thread (heq ▸ List.mem_cons_self)
    · rename_i heq
      cases heq
      exact ih h
    · cases h

theorem keeps_seekPlan (hP : Slots.Settable P) {plan : Plan} {start : SearchStart} {slots : Slots}
    (hs : P slots) (index : Nat) (before after : List Char) :
    (seekPlan plan start slots index before after).Keeps P := by
  induction after generalizing index before with
  | nil => exact .orElse (plan.keeps_run hP start Plan.keeps_done _ hs) Search.keeps_fail
  | cons c rest ih => exact .orElse (plan.keeps_run hP start Plan.keeps_done _ hs) (ih _ _)

variable {program : Program} {spot : Spot} {steppedOver : Bool} {slots : Slots}

/-- What changing one slot keeps holds of the slots of a match if it holds of unset slots. -/
theorem slots_of_search (hP : Slots.Settable P) (hu : P (.unset program.lastGroup))
    (h : program.search spot steppedOver = .matched slots) : P slots := by
  unfold search at h
  split at h
  · dsimp only at h
    split at h
    · rename_i hs
      cases h
      exact keeps_seekRegular hP hu hs
    · cases h
  · rename_i plan anchored _
    dsimp only at h
    have hf : Search.Keeps P (if anchored then
        plan.run ⟨spot.index, steppedOver⟩ .done ⟨spot, .unset program.lastGroup⟩
        else seekPlan plan ⟨spot.index, steppedOver⟩ (.unset program.lastGroup) spot.index spot.before
          spot.after) := by
      split
      · exact plan.keeps_run hP _ Plan.keeps_done _ hu
      · exact keeps_seekPlan hP hu _ _ _
    replace hf := hf 0 budget
    split at h
    · rename_i heq
      cases h
      rwa [heq] at hf
    · cases h
    · cases h

theorem length_of_search (h : program.search spot steppedOver = .matched slots) :
    slots.length = 2 * program.lastGroup + 2 :=
  slots_of_search (Slots.settable_length _) List.length_replicate h

end Program

end

end ClassFields
