import ClassFields.Fault

/-!
# Running a report

The outcome and the log of a report from those of its steps. A step that cannot fail passes its
entries on, and one that has failed ends the report. Of several steps the first one that fails is
the fault of all (`FirstFault`).
-/

namespace Except

variable {ε α β : Type} {x : Except ε α} {f : α → Except ε β} {g : α → β} {b : β} {e : ε}

theorem bind_eq_ok_iff : x.bind f = .ok b ↔ ∃ a, x = .ok a ∧ f a = .ok b := by
  cases x with
  | error other => simp [Except.bind]
  | ok a => simp [Except.bind]

theorem bind_eq_error_iff : x.bind f = .error e ↔
    x = .error e ∨ ∃ a, x = .ok a ∧ f a = .error e := by
  cases x with
  | error other => simp [Except.bind]
  | ok a => simp [Except.bind]

theorem map_eq_ok_iff : x.map g = .ok b ↔ ∃ a, x = .ok a ∧ g a = b := by
  cases x with
  | error other => simp [Except.map]
  | ok a => simp [Except.map]

theorem map_eq_error_iff : x.map g = .error e ↔ x = .error e := by
  cases x with
  | error other => simp [Except.map]
  | ok a => simp [Except.map]

theorem exists_map_eq_ok_iff : (∃ b, x.map g = .ok b) ↔ ∃ a, x = .ok a := by
  cases x with
  | error other => simp [Except.map]
  | ok a => simp [Except.map]

end Except

namespace ClassFields

namespace Report

variable {α β : Type}

@[simp]
theorem entries_logged (x : Logged α) : (liftM x : Report α).entries = x.entries :=
  List.append_nil _

@[simp]
theorem result_bind_logged (x : Logged α) (f : α → Report β) :
    ((liftM x : Report α) >>= f).result = (f x.value).result := rfl

@[simp]
theorem entries_bind_logged (x : Logged α) (f : α → Report β) :
    ((liftM x : Report α) >>= f).entries = x.entries ++ (f x.value).entries := by
  show (x.entries ++ []) ++ (f x.value).entries = _
  rw [List.append_nil]

@[simp]
theorem bind_ok (a : α) (f : α → Report β) :
    ((liftM (.ok a : Except Fault α) : Report α) >>= f) = f a := rfl

@[simp]
theorem bind_error (fault : Fault) (f : α → Report β) :
    ((liftM (.error fault : Except Fault α) : Report α) >>= f) = throw fault := rfl

@[simp]
theorem result_map (f : α → β) (report : Report α) :
    (f <$> report).result = report.result.map f := by
  rw [result, ExceptT.run_map]
  rfl

@[simp]
theorem entries_map (f : α → β) (report : Report α) : (f <$> report).entries = report.entries := by
  rw [entries, ExceptT.run_map]
  exact List.append_nil _

theorem result_lift (x : Except Fault α) : (liftM x : Report α).result = x := rfl

theorem result_bind (report : Report α) (f : α → Report β) :
    (report >>= f).result = report.result.bind fun a => (f a).result := by
  show (ExceptT.run (report >>= f)).value = _
  rw [ExceptT.run_bind, Logged.value_bind, result]
  cases report.run.value <;> rfl

@[simp]
theorem result_throw (fault : Fault) : (throw fault : Report α).result = .error fault := rfl

@[simp]
theorem entries_throw (fault : Fault) : (throw fault : Report α).entries = [] := rfl

theorem throw_bind (fault : Fault) (f : α → Report β) :
    ((throw fault : Report α) >>= f) = throw fault := rfl

theorem map_throw (f : α → β) (fault : Fault) :
    f <$> (throw fault : Report α) = throw fault := rfl

end Report

/-! ## Several steps -/

/-- A fault is that of the first of several steps that fails. -/
def FirstFault {α β : Type} (step : α → Except Fault β) (steps : List α) (fault : Fault) : Prop :=
  ∃ before a after, steps = before ++ a :: after ∧
    (∀ earlier ∈ before, ∃ b, step earlier = .ok b) ∧ step a = .error fault

section

variable {α β : Type} {step : α → Except Fault β} {a : α} {rest : List α} {fault : Fault}

theorem not_firstFault_nil : ¬ FirstFault step [] fault := by
  rintro ⟨before, a, after, h, -⟩
  exact List.append_ne_nil_of_right_ne_nil before (List.cons_ne_nil a after) h.symm

theorem firstFault_cons : FirstFault step (a :: rest) fault ↔
    step a = .error fault ∨ (∃ b, step a = .ok b) ∧ FirstFault step rest fault := by
  constructor
  · rintro ⟨before, c, after, he, hb, hf⟩
    rcases before with _ | ⟨first, before⟩
    · cases he
      exact .inl hf
    · cases he
      obtain ⟨hb₀, hb⟩ := List.forall_mem_cons.mp hb
      exact .inr ⟨hb₀, before, c, after, rfl, hb, hf⟩
  · rintro (hf | ⟨hb₀, before, c, after, rfl, hb, hf⟩)
    · exact ⟨[], a, rest, rfl, nofun, hf⟩
    · exact ⟨a :: before, c, after, rfl, List.forall_mem_cons.mpr ⟨hb₀, hb⟩, hf⟩

/-- There is a first fault if any step fails. -/
theorem exists_firstFault_iff {steps : List α} :
    (∃ fault, FirstFault step steps fault) ↔ ∃ a ∈ steps, ∃ fault, step a = .error fault := by
  induction steps with
  | nil => simp [not_firstFault_nil]
  | cons a rest ih =>
    simp only [firstFault_cons, exists_or, exists_and_left, ih, List.mem_cons, exists_eq_or_imp]
    cases step a with
    | error other => simp
    | ok b => simp

end

end ClassFields
