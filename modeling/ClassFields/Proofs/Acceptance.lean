import ClassFields.Check

/-!
# Accepted classes

What `validate` accepts (`validate_eq_ok_iff`): classes that are sound by themselves, with different
escaped names. `validate` and `duplicates` keep the owners of fields apart from each other, but stop
and report at the same class (`duplicatesFrom_of_validateFrom_ok`,
`duplicatesFrom_of_validateFrom_error`).
-/

namespace ClassFields

/-! ## Sound classes -/

/-- A class that nothing is wrong with by itself. -/
structure EscapedClass.Sound (cls : EscapedClass) : Prop where
  quotable : quotable cls.name
  oneLine : ∀ occurrence ∈ cls.properties, occurrence.oneLine
  valid : FieldName.valid cls.escaped

theorem EscapedClass.fault?_eq_none_iff {cls : EscapedClass} : cls.fault? = none ↔ cls.Sound := by
  unfold EscapedClass.fault?
  split
  · rename_i h
    exact ⟨nofun, fun hs => absurd hs.quotable (by simpa using h)⟩
  rename_i h₁
  split
  · rename_i h
    exact ⟨nofun, fun hs => absurd (List.all_eq_true.mpr hs.oneLine) (by simpa using h)⟩
  rename_i h₂
  split
  · rename_i h
    exact ⟨nofun, fun hs => absurd hs.valid (by simpa using h)⟩
  rename_i h₃
  exact ⟨fun _ => ⟨by simpa using h₁, by simpa using h₂, by simpa using h₃⟩, fun _ => rfl⟩

instance (cls : EscapedClass) : Decidable cls.Sound :=
  decidable_of_iff _ EscapedClass.fault?_eq_none_iff

/-- The fault of a class by itself is not about another class. -/
theorem EscapedClass.fault?_ne_duplicateField (cls : EscapedClass) (escaped first second : String) :
    cls.fault? ≠ some (.duplicateField escaped first second) := by
  unfold EscapedClass.fault?
  split
  · nofun
  split
  · nofun
  split <;> nofun

theorem EscapedClass.Sound.exists_read? {cls : EscapedClass} (h : cls.Sound) :
    ∃ f, FieldName.read? cls.escaped.toList = some f :=
  Option.isSome_iff_exists.mp h.valid

theorem oneLine_iff {text : String} :
    oneLine text ↔ ∀ c ∈ text.toList, c ≠ '\n' ∧ c ≠ '\r' := by
  simp [oneLine]

/-- No quote, backslash or end of a line is in a text that can stand between quotes. -/
theorem quotable_apart {name : String} (h : quotable name) {c : Char}
    (hc : c ∈ ['"', '\\', '\r', '\n']) : c ∉ name.toList := by
  intro hm
  have hq := List.all_eq_true.mp h c hm
  simp only [List.mem_cons, List.not_mem_nil, or_false] at hc
  rcases hc with rfl | rfl | rfl | rfl <;> cases hq

/-! ## Steps -/

section

variable {owners : Owners} {cls : EscapedClass} {rest : List EscapedClass} {fault : Fault}
  {first : String}

theorem validateFrom_of_fault (h : cls.fault? = some fault) :
    validateFrom owners (cls :: rest) = .error fault := by
  rw [validateFrom, h]

theorem validateFrom_of_taken (h : cls.Sound) (ho : owners.lookup cls.escaped = some first) :
    validateFrom owners (cls :: rest) = .error (.duplicateField cls.escaped first cls.name) := by
  rw [validateFrom, EscapedClass.fault?_eq_none_iff.mpr h, ho]

theorem validateFrom_of_free (h : cls.Sound) (ho : owners.lookup cls.escaped = none) :
    validateFrom owners (cls :: rest) = validateFrom ((cls.escaped, cls.name) :: owners) rest := by
  rw [validateFrom, EscapedClass.fault?_eq_none_iff.mpr h, ho]

theorem duplicatesFrom_of_taken (ho : owners.lookup cls.escaped = some first) :
    duplicatesFrom owners (cls :: rest) =
      ⟨cls.escaped, first, cls.name⟩ :: duplicatesFrom owners rest := by
  rw [duplicatesFrom, ho]

theorem duplicatesFrom_of_free (ho : owners.lookup cls.escaped = none) :
    duplicatesFrom owners (cls :: rest) =
      duplicatesFrom ((cls.escaped, cls.name) :: owners) rest := by
  rw [duplicatesFrom, ho]

end

/-! ## Accepted classes -/

/-- No owner of a field has the escaped name of one of some classes. -/
def Owners.Free (owners : Owners) (classes : List EscapedClass) : Prop :=
  ∀ cls ∈ classes, owners.lookup cls.escaped = none

theorem Owners.free_cons {owners : Owners} {cls : EscapedClass} {classes : List EscapedClass} :
    Owners.Free ((cls.escaped, cls.name) :: owners) classes ↔
      owners.Free classes ∧ ∀ other ∈ classes, cls.escaped ≠ other.escaped := by
  simp only [Owners.Free, List.lookup_cons, ← forall_and]
  refine forall_congr' fun other => forall_congr' fun _ => ?_
  by_cases he : other.escaped = cls.escaped
  · rw [beq_iff_eq.mpr he]
    exact ⟨nofun, fun h => absurd he.symm h.2⟩
  · rw [beq_eq_false_iff_ne.mpr he]
    exact ⟨fun h => ⟨h, Ne.symm he⟩, And.left⟩

theorem validateFrom_eq_ok_iff {owners : Owners} {classes : List EscapedClass} :
    validateFrom owners classes = .ok () ↔
      (∀ cls ∈ classes, cls.Sound) ∧ owners.Free classes ∧
        classes.Pairwise fun a b => a.escaped ≠ b.escaped := by
  induction classes generalizing owners with
  | nil => simp [validateFrom, Owners.Free]
  | cons cls rest ih =>
    rcases hf : cls.fault? with _ | fault
    · have hs := EscapedClass.fault?_eq_none_iff.mp hf
      rcases ho : owners.lookup cls.escaped with _ | first
      · rw [validateFrom_of_free hs ho, ih, Owners.free_cons, List.pairwise_cons]
        simp only [Owners.Free, List.forall_mem_cons, hs, ho, true_and, and_assoc]
      · rw [validateFrom_of_taken hs ho]
        refine ⟨nofun, fun h => ?_⟩
        rw [h.2.1 cls List.mem_cons_self] at ho
        cases ho
    · rw [validateFrom_of_fault hf]
      refine ⟨nofun, fun h => ?_⟩
      rw [EscapedClass.fault?_eq_none_iff.mpr (h.1 cls List.mem_cons_self)] at hf
      cases hf

/-- Classes are accepted if they are sound and no escaped name occurs twice. -/
theorem validate_eq_ok_iff {classes : List EscapedClass} :
    validate classes = .ok () ↔ (∀ cls ∈ classes, cls.Sound) ∧
      classes.Pairwise fun a b => a.escaped ≠ b.escaped := by
  rw [validate, validateFrom_eq_ok_iff]
  simp [Owners.Free]

instance (classes : List EscapedClass) : Decidable (validate classes = .ok ()) :=
  decidable_of_iff _ validate_eq_ok_iff.symm

/-! ## Duplicates -/

/-- As long as `validate` goes on, there are no duplicates. -/
theorem duplicatesFrom_of_validateFrom_ok {owners : Owners} {classes : List EscapedClass}
    (h : validateFrom owners classes = .ok ()) : duplicatesFrom owners classes = [] := by
  induction classes generalizing owners with
  | nil => rfl
  | cons cls rest ih =>
    have hf := (validateFrom_eq_ok_iff.mp h).2.1 cls List.mem_cons_self
    have hs := (validateFrom_eq_ok_iff.mp h).1 cls List.mem_cons_self
    rw [validateFrom_of_free hs hf] at h
    rw [duplicatesFrom_of_free hf, ih h]

/-- The duplicate that `validate` reports is the first one. -/
theorem duplicatesFrom_of_validateFrom_error {owners : Owners} {classes : List EscapedClass}
    {escaped first second : String}
    (h : validateFrom owners classes = .error (.duplicateField escaped first second)) :
    ∃ more, duplicatesFrom owners classes = ⟨escaped, first, second⟩ :: more := by
  induction classes generalizing owners with
  | nil => cases h
  | cons cls rest ih =>
    rcases hf : cls.fault? with _ | fault
    · have hs := EscapedClass.fault?_eq_none_iff.mp hf
      rcases ho : owners.lookup cls.escaped with _ | owner
      · rw [validateFrom_of_free hs ho] at h
        rw [duplicatesFrom_of_free ho]
        exact ih h
      · rw [validateFrom_of_taken hs ho] at h
        cases h
        exact ⟨_, duplicatesFrom_of_taken ho⟩
    · rw [validateFrom_of_fault hf] at h
      cases h
      exact absurd hf (cls.fault?_ne_duplicateField _ _ _)

end ClassFields
