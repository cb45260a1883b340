import Mathlib.Data.List.Perm.Subperm
import Mathlib.Data.Option.Basic
import ClassFields.Pattern.Program

/-!
# Groups that a pattern opens

The reader numbers the groups it opens. The groups of a node have different numbers, from among those
that were given while it was read, and the names that the reader has met are names of opened groups
(`Pattern.Grows`, a lemma for each of its functions). So the groups that a compiled program counts are
not more than those a match has slots for (`Program.groupCount_le`), and its names stand for opened
groups (`Program.index_le`).
-/

namespace ClassFields

namespace Node

mutual

/-- The groups of a node, in order. -/
def groups : Node → List Nat
  | empty | one _ | anchor _ | backref .. | keepOut | lastEnd | tookPart _ => []
  | concat nodes | choice nodes => groupsOfAll nodes
  | group i body => i :: body.groups
  | many body _ _ _ | look _ _ body | atomic body => body.groups
  | cond condition yes no => condition.groups ++ (yes.groups ++ no.groups)

/-- The groups of several nodes, in order. -/
def groupsOfAll : List Node → List Nat
  | [] => []
  | node :: rest => node.groups ++ groupsOfAll rest

end

theorem groups_ofSequence (nodes : List Node) : (ofSequence nodes).groups = groupsOfAll nodes := by
  match nodes with
  | [] | _ :: _ :: _ => rfl
  | [node] => simp [ofSequence, groupsOfAll]

theorem groupsOfAll_append (nodes more : List Node) :
    groupsOfAll (nodes ++ more) = groupsOfAll nodes ++ groupsOfAll more := by
  induction nodes with
  | nil => rfl
  | cons node nodes ih => simp [groupsOfAll, ih]

mutual

theorem liveGroups_sublist {referenced : List Nat} : ∀ {node : Node} {a : Regular},
    node.regular? referenced = some a → a.liveGroups.Sublist node.groups
  | empty, _, h | one _, _, h => by
    cases h
    exact .slnil
  | anchor a, _, h => by
    rw [regular?] at h
    split at h
    · cases h
    · cases h
      exact .slnil
  | concat nodes, _, h => liveGroups_sequence_sublist h
  | choice nodes, _, h => liveGroups_choice_sublist h
  | group i body, _, h => by
    rw [regular?] at h
    split at h
    · cases h
    · obtain ⟨b, hb, rfl⟩ := Option.map_eq_some_iff.mp h
      exact (liveGroups_sublist hb).cons_cons i
  | many body lo hi greedy, _, h => by
    obtain ⟨b, hb, rfl⟩ := Option.map_eq_some_iff.mp h
    rw [Regular.liveGroups]
    split
    · exact List.nil_sublist _
    · have hl : b.liveGroups.Sublist body.groups := liveGroups_sublist hb
      exact hl

theorem liveGroups_sequence_sublist {referenced : List Nat} : ∀ {nodes : List Node} {a : Regular},
    regularSequence? referenced nodes = some a → a.liveGroups.Sublist (groupsOfAll nodes)
  | [], _, h => by
    cases h
    exact .slnil
  | node :: rest, _, h => by
    simp only [regularSequence?, Option.bind_eq_bind, Option.bind_eq_some_iff] at h
    obtain ⟨a, ha, b, hb, ⟨⟩⟩ := h
    exact (liveGroups_sublist ha).append (liveGroups_sequence_sublist hb)

theorem liveGroups_choice_sublist {referenced : List Nat} : ∀ {nodes : List Node} {a : Regular},
    regularChoice? referenced nodes = some a → a.liveGroups.Sublist (groupsOfAll nodes)
  | [], _, h => by cases h
  | [node], _, h => (liveGroups_sublist h).trans (List.sublist_append_left _ _)
  | node :: other :: rest, _, h => by
    simp only [regularChoice?, Option.bind_eq_bind, Option.bind_eq_some_iff] at h
    obtain ⟨a, ha, b, hb, ⟨⟩⟩ := h
    exact (liveGroups_sublist ha).append (liveGroups_choice_sublist hb)

end

end Node

namespace Pattern

/-! ## Readers and what they leave -/

section

variable {α β : Type} {s : ReadState}

/-- Whatever a reader makes of a state satisfies `Q`. -/
def Always (reader : Reader α) (Q : α → ReadState → Prop) (s : ReadState) : Prop :=
  ∀ a s', reader.run s = some (a, s') → Q a s'

theorem Always.mono {reader : Reader α} {P Q : α → ReadState → Prop} (h : Always reader P s)
    (hq : ∀ a s', P a s' → Q a s') : Always reader Q s :=
  fun a s' hr => hq a s' (h a s' hr)

theorem always_bind {reader : Reader α} {f : α → Reader β} {Q : β → ReadState → Prop} :
    Always (reader >>= f) Q s ↔ Always reader (fun a s' => Always (f a) Q s') s := by
  simp only [Always, StateT.run_bind, Option.bind_eq_bind, Option.bind_eq_some_iff]
  constructor
  · intro h a s₁ hx b s₂ hf
    exact h b s₂ ⟨(a, s₁), hx, hf⟩
  · rintro h b s₂ ⟨⟨a, s₁⟩, hx, hf⟩
    exact h a s₁ hx b s₂ hf

theorem always_iff_of_run {reader : Reader α} {a : α} {s' : ReadState} {Q : α → ReadState → Prop}
    (h : reader.run s = some (a, s')) : Always reader Q s ↔ Q a s' := by
  rw [Always, h]
  constructor
  · exact fun hq => hq a s' rfl
  · rintro hq _ _ ⟨⟩
    exact hq

theorem always_pure {a : α} {Q : α → ReadState → Prop} : Always (pure a) Q s ↔ Q a s :=
  always_iff_of_run rfl

theorem always_get {Q : ReadState → ReadState → Prop} : Always get Q s ↔ Q s s :=
  always_iff_of_run rfl

theorem always_set {s' : ReadState} {Q : PUnit → ReadState → Prop} : Always (set s') Q s ↔ Q ⟨⟩ s' :=
  always_iff_of_run rfl

theorem always_modify {f : ReadState → ReadState} {Q : PUnit → ReadState → Prop} :
    Always (modify f) Q s ↔ Q ⟨⟩ (f s) :=
  always_iff_of_run rfl

theorem always_moveTo {rest : List Char} {Q : Unit → ReadState → Prop} :
    Always (moveTo rest) Q s ↔ Q () { s with rest } :=
  always_modify

theorem always_failure {Q : α → ReadState → Prop} : Always failure Q s := nofun

theorem always_guard {c : Prop} [Decidable c] {Q : Unit → ReadState → Prop} :
    Always (guard c) Q s ↔ (c → Q () s) := by
  by_cases h : c
  · have hg : (guard c : Reader Unit) = pure () := if_pos h
    rw [hg, always_pure]
    exact ⟨fun hq _ => hq, fun hq => hq h⟩
  · have hg : (guard c : Reader Unit) = failure := if_neg h
    rw [hg]
    exact ⟨fun _ hc => absurd hc h, fun _ => always_failure⟩

theorem Always.guarded {c : Prop} [Decidable c] {reader : Reader α} {Q : α → ReadState → Prop}
    (h : c → Always reader Q s) : Always (do guard c; reader) Q s :=
  always_bind.mpr (always_guard.mpr h)

theorem always_lift {x : Option α} {Q : α → ReadState → Prop} :
    Always (liftM x) Q s ↔ ∀ a, x = some a → Q a s := by
  cases x with
  | none => exact ⟨fun _ => nofun, fun _ => nofun⟩
  | some a =>
    refine (always_iff_of_run rfl).trans ⟨?_, fun h => h a rfl⟩
    rintro hq _ ⟨⟩
    exact hq

end

/-! ## Groups that are opened on the way -/

/-- The names met so far are names of groups that have been opened. -/
def ReadState.NamesOpened (s : ReadState) : Prop := ∀ name ∈ s.names, name.2 ≤ s.groups

/-- Between two states the given groups have been opened, each once, and perhaps others. Names were
given to opened groups only. -/
def Grown (opened : List Nat) (s s' : ReadState) : Prop :=
  s.groups ≤ s'.groups ∧ (∀ i ∈ opened, s.groups < i ∧ i ≤ s'.groups) ∧ opened.Nodup ∧
    (s.NamesOpened → s'.NamesOpened)

theorem Grown.refl (s : ReadState) : Grown [] s s := ⟨Nat.le_refl _, nofun, .nil, id⟩

theorem Grown.trans {opened more : List Nat} {s s₁ s₂ : ReadState} (h₁ : Grown opened s s₁)
    (h₂ : Grown more s₁ s₂) : Grown (opened ++ more) s s₂ := by
  obtain ⟨hl₁, hb₁, hd₁, hs₁⟩ := h₁
  obtain ⟨hl₂, hb₂, hd₂, hs₂⟩ := h₂
  refine ⟨Nat.le_trans hl₁ hl₂, List.forall_mem_append.mpr ⟨fun i hi => ?_, fun i hi => ?_⟩, ?_,
    hs₂ ∘ hs₁⟩
  · exact ⟨(hb₁ i hi).1, Nat.le_trans (hb₁ i hi).2 hl₂⟩
  · exact ⟨Nat.lt_of_le_of_lt hl₁ (hb₂ i hi).1, (hb₂ i hi).2⟩
  · -- what was opened later has a greater number
    refine List.nodup_append.mpr ⟨hd₁, hd₂, fun i hi j hj => ?_⟩
    exact Nat.ne_of_lt (Nat.lt_of_le_of_lt (hb₁ i hi).2 (hb₂ j hj).1)

theorem Grown.mono {opened some : List Nat} {s s' : ReadState} (h : Grown opened s s')
    (hs : some.Sublist opened) : Grown some s s' :=
  ⟨h.1, fun i hi => h.2.1 i (hs.subset hi), h.2.2.1.sublist hs, h.2.2.2⟩

/-- A reader that opens the groups of its result. -/
def Grows {α : Type} (groups : α → List Nat) (reader : Reader α) : Prop :=
  ∀ s, Always reader (fun a s' => Grown (groups a) s s') s

/-- A reader whose result has no groups. -/
abbrev Passes {α : Type} (reader : Reader α) : Prop := Grows (fun _ => []) reader

section

variable {α β : Type} {groups : α → List Nat} {opened : List Nat} {s₀ s : ReadState}
  {reader : Reader α}

/-- What a reader has opened is added to what was opened before it. -/
theorem Grows.next (h : Grows groups reader) (hs : Grown opened s₀ s) {Q : α → ReadState → Prop}
    (hq : ∀ a s', Grown (opened ++ groups a) s₀ s' → Q a s') : Always reader Q s :=
  fun a s' hr => hq a s' (hs.trans (h s a s' hr))

theorem Grows.after (h : Grows groups reader) (hs : Grown opened s₀ s) {f : α → Reader β}
    {Q : β → ReadState → Prop}
    (hf : ∀ a s', Grown (opened ++ groups a) s₀ s' → Always (f a) Q s') :
    Always (reader >>= f) Q s :=
  always_bind.mpr (h.next hs hf)

theorem Passes.next (h : Passes reader) (hs : Grown opened s₀ s) {Q : α → ReadState → Prop}
    (hq : ∀ a s', Grown opened s₀ s' → Q a s') : Always reader Q s :=
  Grows.next h hs fun a s' hg => hq a s' (by simpa using hg)

theorem Passes.after (h : Passes reader) (hs : Grown opened s₀ s) {f : α → Reader β}
    {Q : β → ReadState → Prop} (hf : ∀ a s', Grown opened s₀ s' → Always (f a) Q s') :
    Always (reader >>= f) Q s :=
  always_bind.mpr (h.next hs hf)

/-- The reader that comes last, whose result is that of the whole. -/
theorem Grows.last (h : Grows groups reader) (hs : Grown [] s₀ s) :
    Always reader (fun a s' => Grown (groups a) s₀ s') s :=
  h.next hs fun _ _ hg => hg

end

/-! ## The reader, function by function -/

theorem passes_skipBlanks : Passes skipBlanks := by
  intro s
  simp only [skipBlanks, always_bind, always_get, always_lift, always_set]
  exact fun _ _ => .refl s

theorem passes_closeGroup : Passes closeGroup := by
  intro s
  refine passes_skipBlanks.after (.refl s) fun _ s₁ hg => ?_
  simp only [always_bind, always_get]
  split
  · exact always_moveTo.mpr hg
  · exact always_failure

theorem grows_referTo (index : Nat) : Grows Node.groups (referTo index) := by
  intro s
  simp only [referTo, always_bind, always_get, always_set, always_pure]
  exact .refl s

theorem grows_numberedReference : Grows Node.groups numberedReference := by
  intro s
  simp only [numberedReference, always_bind, always_get, always_lift, always_modify]
  exact fun _ _ => grows_referTo _ _

theorem grows_namedReference (opening closing : String) (relative : Bool) :
    Grows Node.groups (namedReference opening closing relative) := by
  intro s
  simp only [namedReference, always_bind, always_get]
  split
  · simp only [always_bind, always_lift, always_moveTo]
    exact fun _ _ => grows_referTo _ _
  · refine .guarded fun _ => ?_
    refine always_bind.mpr (always_lift.mpr fun found _ => .guarded fun _ => ?_)
    simp only [always_bind, always_moveTo]
    exact grows_referTo _ _

theorem grows_escape : Grows Node.groups escape := by
  intro s
  simp only [escape, always_bind, always_get]
  split
  · exact always_failure
  · rename_i c rest hr
    split
    · exact grows_numberedReference s
    · -- most letters stand for one node without groups
      split
      all_goals try exact always_pure.mpr (.refl s)
      · simp only [always_bind, always_moveTo]
        split <;> exact grows_namedReference _ _ _ _
      · split
        · exact always_failure
        · exact always_pure.mpr (.refl s)
      · split
        · exact always_failure
        · exact always_pure.mpr (.refl s)
      · split
        · exact always_pure.mpr (.refl s)
        · exact always_pure.mpr (.refl s)
        · exact always_failure

variable {inner : Reader Node}

theorem grows_flagGroup (hi : Grows Node.groups inner) (outer : Flags) (steps count : Nat)
    (on : Bool) : Grows Node.groups (flagGroup inner outer steps count on) := by
  induction steps generalizing count on with
  | zero => exact fun _ => always_failure
  | succ steps ih =>
    intro s
    refine passes_skipBlanks.after (.refl s) fun _ s₁ hg => ?_
    simp only [always_bind, always_get]
    split
    · refine .guarded fun _ => ?_
      simp only [always_bind, always_moveTo, always_pure]
      exact hg
    · rename_i rest _
      refine .guarded fun _ => ?_
      simp only [always_bind, always_moveTo]
      have hr : Grown [] s { s₁ with rest } := hg
      refine hi.next hr fun body s₂ hb => ?_
      refine passes_closeGroup.next hb fun _ s₃ hc => ?_
      simp only [always_modify, always_pure]
      exact hc
    · refine .guarded fun _ => ?_
      simp only [always_bind, always_moveTo]
      exact (ih _ _).last hg
    · simp only [always_bind, always_lift, always_set]
      intro flags _
      exact (ih _ _).last hg
    · exact always_failure

theorem grows_condition (hi : Grows Node.groups inner) :
    Grows Node.groups (condition inner) := by
  intro s
  simp only [condition, always_bind, always_get]
  split
  · exact grows_namedReference _ _ _ s
  · exact grows_namedReference _ _ _ s
  · split
    · exact grows_numberedReference s
    · exact hi s
  · exact always_failure

theorem groups_testOf (node : Node) : (testOf node).groups = node.groups := by
  cases node <;> rfl

theorem groups_yesAndNo (node : Node) :
    (yesAndNo node).1.groups ++ (yesAndNo node).2.groups = node.groups := by
  unfold yesAndNo
  split
  · simp [Node.groups, Node.groupsOfAll]
  · simp [Node.groups, Node.groupsOfAll]
  · simp [Node.groups]

theorem grows_conditional (hi : Grows Node.groups inner) :
    Grows Node.groups (conditional inner) := by
  intro s
  refine (grows_condition hi).after (.refl s) fun test s₁ h₁ => ?_
  refine passes_closeGroup.after h₁ fun _ s₂ h₂ => ?_
  simp only [always_bind, always_get]
  refine hi.next h₂ fun branches s₃ h₃ => ?_
  refine passes_closeGroup.next h₃ fun _ s₄ hg => ?_
  split
  · split
    · exact always_pure.mpr (hg.mono (List.nil_sublist _))
    · exact always_failure
  · split
    · refine always_pure.mpr (hg.mono ?_)
      rw [groups_testOf]
      exact List.sublist_append_left _ _
    · refine always_pure.mpr (hg.mono ?_)
      rw [Node.groups, groups_testOf, groups_yesAndNo]
      exact .refl _

theorem grown_openGroup (name : Option (List Char)) (s : ReadState) :
    Always (openGroup name) (fun index s' => Grown [index] s s') s := by
  simp only [openGroup, always_bind, always_get, always_set, always_pure]
  refine ⟨Nat.le_succ _, ?_, List.pairwise_singleton _ _, fun h => ?_⟩
  · exact List.forall_mem_singleton.mpr ⟨Nat.lt_succ_self _, Nat.le_refl _⟩
  cases name with
  | none => exact fun name hm => Nat.le_succ_of_le (h name hm)
  | some text =>
    exact List.forall_mem_cons.mpr ⟨Nat.le_refl _, fun name hm => Nat.le_succ_of_le (h name hm)⟩

/-- A group is opened before its body. -/
theorem grows_opened (hi : Grows Node.groups inner) (name : Option (List Char)) :
    Grows Node.groups (do groupBody inner (← openGroup name)) := by
  intro s
  rw [always_bind]
  refine (grown_openGroup name s).mono fun index s₁ h₁ => ?_
  refine hi.after h₁ fun body s₂ h₂ => ?_
  refine passes_closeGroup.after h₂ fun _ s₃ h₃ => ?_
  simp only [always_bind, always_modify, always_pure]
  exact h₃

theorem grows_enclosed (hi : Grows Node.groups inner) {wrap : Node → Node}
    (hw : ∀ node, (wrap node).groups = node.groups) :
    Grows Node.groups (enclosed inner wrap) := by
  intro s
  refine hi.after (.refl s) fun body s₁ h₁ => ?_
  refine passes_closeGroup.after h₁ fun _ s₂ h₂ => ?_
  exact always_pure.mpr (hw body ▸ h₂)

theorem grows_group (hi : Grows Node.groups inner) : Grows Node.groups (group inner) := by
  intro s
  refine passes_skipBlanks.after (.refl s) fun _ s₁ h₁ => ?_
  have next (reader : Reader Node) (rest : List Char) (hr : Grows Node.groups reader) :
      Always (do moveTo rest; reader) (fun node s' => Grown node.groups s s') s₁ := by
    simp only [always_bind, always_moveTo]
    exact hr.last h₁
  have named (opening closing text : List Char) :
      Always (do
        let found ← name? opening closing text
        moveTo found.2
        groupBody inner (← openGroup (some found.1)))
        (fun node s' => Grown node.groups s s') s₁ := by
    rw [always_bind, always_lift]
    exact fun found _ => next _ found.2 (grows_opened hi (some found.1))
  simp only [always_bind, always_get]
  split
  · exact next _ _ (grows_enclosed hi fun _ => rfl)
  · exact next _ _ (grows_enclosed hi fun _ => rfl)
  · exact next _ _ (grows_enclosed hi fun _ => rfl)
  · exact next _ _ (grows_enclosed hi fun _ => rfl)
  · exact named _ _ _
  · exact named _ _ _
  · exact named _ _ _
  · exact next _ _ (grows_namedReference _ _ _)
  · exact next _ _ (grows_enclosed hi fun _ => rfl)
  · exact next _ _ (grows_conditional hi)
  · exact next _ _ (grows_flagGroup hi _ _ _ _)
  · exact (grows_opened hi none).last h₁

theorem grows_atom (hi : Grows Node.groups inner) : Grows Node.groups (atom inner) := by
  intro s
  refine passes_skipBlanks.after (.refl s) fun _ s₁ h₁ => ?_
  simp only [always_bind, always_get]
  split
  · exact always_pure.mpr h₁
  · rename_i c rest _
    split
    -- but for brackets and escapes a character stands for a node without groups
    all_goals try exact always_pure.mpr h₁
    · simp only [always_bind, always_moveTo]
      exact (grows_group hi).last h₁
    · simp only [always_bind, always_moveTo]
      exact grows_escape.last h₁
    · simp only [always_bind, always_lift, always_moveTo, always_pure]
      exact fun _ _ => h₁

theorem grows_piece (hi : Grows Node.groups inner) : Grows Node.groups (piece inner) := by
  intro s
  refine (grows_atom hi).after (.refl s) fun node s₁ h₁ => ?_
  refine passes_skipBlanks.after h₁ fun _ s₂ hg => ?_
  simp only [always_bind, always_get]
  split
  · exact always_pure.mpr hg
  · refine .guarded fun _ => ?_
    simp only [always_bind, always_lift]
    intro rest _
    split <;>
    · simp only [always_bind, always_moveTo, always_pure]
      exact hg

theorem grows_pieces (hi : Grows Node.groups inner) (steps : Nat) :
    Grows Node.groupsOfAll (pieces inner steps) := by
  induction steps with
  | zero => exact fun s => always_pure.mpr (.refl s)
  | succ steps ih =>
    intro s
    simp only [pieces, always_bind, always_get]
    split
    · exact always_pure.mpr (.refl s)
    refine (grows_piece hi).after (.refl s) fun node s₁ h₁ => ?_
    simp only [always_bind, always_get]
    split
    · exact always_pure.mpr (h₁.mono (List.nil_sublist _))
    · refine ih.after h₁ fun nodes s₂ h₂ => always_pure.mpr (h₂.mono ?_)
      split
      · exact List.sublist_append_right _ _
      · exact .refl _

theorem grows_branch (hi : Grows Node.groups inner) : Grows Node.groups (branch inner) := by
  intro s
  simp only [branch, always_bind, always_get, always_pure, Node.groups_ofSequence]
  exact grows_pieces hi _ s

theorem grows_furtherBranches (hi : Grows Node.groups inner) (steps : Nat) :
    Grows Node.groupsOfAll (furtherBranches inner steps) := by
  induction steps with
  | zero => exact fun s => always_pure.mpr (.refl s)
  | succ steps ih =>
    intro s
    refine passes_skipBlanks.after (.refl s) fun _ s₁ h₁ => ?_
    simp only [always_bind, always_get]
    split
    · simp only [always_bind, always_moveTo, always_pure]
      rename_i rest _
      have hr : Grown [] s { s₁ with rest } := h₁
      refine (grows_branch hi).next hr fun node s₂ h₂ => ?_
      exact ih.next h₂ fun nodes s₃ h₃ => h₃
    · exact always_pure.mpr h₁

theorem grows_alternatives (hi : Grows Node.groups inner) :
    Grows Node.groups (alternatives inner) := by
  intro s
  refine (grows_branch hi).after (.refl s) fun first s₁ h₁ => ?_
  simp only [always_bind, always_get]
  refine (grows_furtherBranches hi _).next h₁ fun more s₂ hg => ?_
  split
  · simp only [always_bind, always_get, always_guard, always_pure]
    exact fun _ => hg.mono (List.sublist_append_left _ _)
  · exact always_pure.mpr hg

theorem grows_nested (depth : Nat) : Grows Node.groups (nested depth) := by
  induction depth with
  | zero => exact fun _ => always_failure
  | succ depth ih => exact grows_alternatives ih

theorem grown_of_read? {text : List Char} {node : Node} {state : ReadState}
    (h : read? text = some (node, state)) : Grown node.groups { rest := text } state := by
  simp only [read?, Option.bind_eq_bind, Option.bind_eq_some_iff] at h
  obtain ⟨found, hr, _, _, ⟨⟩⟩ := h
  exact grows_nested maxDepth _ _ _ hr

end Pattern

/-! ## Compiled programs -/

namespace Program

variable {text : List Char} {program : Program}

theorem groups_wholeOf (node : Node) : (wholeOf node).groups = 0 :: node.groups := by
  unfold wholeOf
  split
  · rename_i nodes
    split
    · rename_i body hl
      obtain ⟨front, rfl⟩ := List.getLast?_eq_some_iff.mp hl
      simp [Node.groups, Node.groupsOfAll, Node.groupsOfAll_append]
    · rfl
  · rfl

/-- What compiling makes of the groups that reading has met. -/
theorem groups_of_compile? (h : compile? text = some program) :
    ∃ node state, Pattern.read? text = some (node, state) ∧ program.names = state.names ∧
      program.opened = state.groups ∧
      ((∃ a, program.engine = .regular a ∧ program.groupCount = a.liveGroups.length ∧
          a.liveGroups.Sublist (0 :: node.groups)) ∨
        ∃ plan anchored, program.engine = .backtracking plan anchored ∧
          program.groupCount = program.opened + 1) := by
  simp only [compile?, Option.bind_eq_bind, Option.bind_eq_some_iff] at h
  obtain ⟨⟨node, state⟩, hr, h⟩ := h
  refine ⟨node, state, hr, ?_⟩
  dsimp only at h
  split at h
  · rename_i a ha
    simp only [Option.bind_eq_some_iff] at h
    obtain ⟨_, _, ⟨⟩⟩ := h
    have hl := Node.liveGroups_sublist ha
    rw [groups_wholeOf] at hl
    exact ⟨rfl, rfl, .inl ⟨a, rfl, rfl, hl⟩⟩
  · simp only [Option.bind_eq_some_iff] at h
    obtain ⟨plan, _, _, _, ⟨⟩⟩ := h
    exact ⟨rfl, rfl, .inr ⟨plan, _, rfl, rfl⟩⟩

theorem length_le_of_nodup {groups : List Nat} (h : groups.Nodup) :
    groups.length ≤ groups.foldr max 0 + 1 := by
  have hm : ∀ i ∈ groups, i ≤ groups.foldr max 0 := by
    clear h
    induction groups with
    | nil => nofun
    | cons j groups ih =>
      refine List.forall_mem_cons.mpr ⟨Nat.le_max_left _ _, fun i hi => ?_⟩
      exact Nat.le_trans (ih i hi) (Nat.le_max_right _ _)
  have hs : groups ⊆ List.range (groups.foldr max 0 + 1) :=
    fun i hi => List.mem_range.mpr (Nat.lt_succ_of_le (hm i hi))
  simpa using (h.subperm hs).length_le

/-- A program counts no more groups than a match has slots for, and the whole match. -/
theorem groupCount_le (h : compile? text = some program) :
    program.groupCount ≤ program.lastGroup + 1 := by
  obtain ⟨node, state, hr, -, -, ⟨a, he, hc, hs⟩ | ⟨plan, anchored, he, hc⟩⟩ := groups_of_compile? h
  · obtain ⟨-, hb, hd, -⟩ := Pattern.grown_of_read? hr
    have hz : (0 :: node.groups).Nodup := by
      refine List.nodup_cons.mpr ⟨fun hm => ?_, hd⟩
      exact absurd (hb 0 hm).1 (Nat.not_lt_zero _)
    have hl := length_le_of_nodup (hz.sublist hs)
    rw [hc]
    simpa only [lastGroup, he] using hl
  · rw [hc]
    simp only [lastGroup, he]
    exact Nat.le_refl _

/-- Names are names of groups that the pattern opens. -/
theorem index_le (h : compile? text = some program) {name : String × Nat}
    (hn : name ∈ program.names) : name.2 ≤ program.opened := by
  obtain ⟨node, state, hr, hs, ho, -⟩ := groups_of_compile? h
  obtain ⟨-, -, -, hnames⟩ := Pattern.grown_of_read? hr
  rw [ho]
  exact hnames nofun name (hs ▸ hn)

/-- With backtracking, all groups are counted. -/
theorem namesCounted_of_backtracking {plan : Plan} {anchored : Bool}
    (h : compile? text = some program) (he : program.engine = .backtracking plan anchored) :
    program.namesCounted := by
  obtain ⟨node, state, -, -, -, ⟨a, ha, -⟩ | ⟨_, _, -, hc⟩⟩ := groups_of_compile? h
  · rw [he] at ha
    cases ha
  · refine List.all_eq_true.mpr fun name hn => decide_eq_true ?_
    rw [hc]
    exact Nat.lt_succ_of_le (index_le h hn)

end Program

end ClassFields
