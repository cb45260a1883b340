import ClassFields.Proofs.Acceptance

/-!
# The first problem

`validate` reports the problem of the first class that has one, and of several problems of that
class the first in the order of `Problem` (`validate_first_problem`). While it goes on, each owner of
a field is the one class so far with that escaped name (`Owners.Hold`).
-/

namespace ClassFields

/-! ## Conditions on a class -/

namespace EscapedClass

/-- No character of the name has a meaning of its own between quotes. -/
def Quotable (cls : EscapedClass) : Prop :=
  ∀ c ∈ cls.name.toList, c ≠ '"' ∧ c ≠ '\\' ∧ c ≠ '\n' ∧ c ≠ '\r'

/-- No property and no media query that is not empty has a line break. -/
def Unbroken (cls : EscapedClass) : Prop :=
  ∀ occurrence ∈ cls.properties,
    (∀ c ∈ occurrence.property.toList, c ≠ '\n' ∧ c ≠ '\r') ∧
    ∀ media, occurrence.media = some media → media ≠ "" → ∀ c ∈ media.toList, c ≠ '\n' ∧ c ≠ '\r'

variable {cls : EscapedClass}

theorem quotable_iff : ClassFields.quotable cls.name ↔ cls.Quotable := by
  simp [ClassFields.quotable, Quotable, and_assoc]

theorem all_oneLine_iff : cls.properties.all Occurrence.oneLine ↔ cls.Unbroken := by
  simp only [List.all_eq_true, Unbroken, Occurrence.oneLine, Bool.and_eq_true, Option.all_eq_true,
    oneLine_iff, Occurrence.mediaQuery?, Option.filter_eq_some_iff, bne_iff_ne, and_imp]

theorem sound_iff : cls.Sound ↔ cls.Quotable ∧ cls.Unbroken ∧ FieldName.valid cls.escaped := by
  rw [← quotable_iff, ← all_oneLine_iff, List.all_eq_true]
  exact ⟨fun h => ⟨h.quotable, h.oneLine, h.valid⟩, fun ⟨hq, hl, hv⟩ => ⟨hq, hl, hv⟩⟩

end EscapedClass

/-! ## Problems -/

/-- The classes among some that have a certain escaped name. -/
def sharing (classes : List EscapedClass) (escaped : String) : List EscapedClass :=
  classes.filter (·.escaped == escaped)

/-- A class breaks a condition, or shares its escaped name with a class before it. -/
def Breaks (before : List EscapedClass) (cls : EscapedClass) : Prop :=
  ¬ (cls.Quotable ∧ cls.Unbroken ∧ FieldName.valid cls.escaped) ∨
    ∃ other ∈ before, other.escaped = cls.escaped

/-- What there is to report of a class after others: the first of its problems. -/
inductive Problem (before : List EscapedClass) (cls : EscapedClass) : Fault → Prop
  | unquotable (hq : ¬ cls.Quotable) : Problem before cls (.unquotableName cls.name)
  | broken (hq : cls.Quotable) (hl : ¬ cls.Unbroken) :
      Problem before cls (.multilineDoc cls.name)
  | invalid (hq : cls.Quotable) (hl : cls.Unbroken) (hv : ¬ FieldName.valid cls.escaped) :
      Problem before cls (.invalidFieldName cls.name cls.escaped)
  | taken (owner : EscapedClass)
      (hs : cls.Quotable ∧ cls.Unbroken ∧ FieldName.valid cls.escaped)
      (ho : sharing before cls.escaped = [owner]) :
      Problem before cls (.duplicateField cls.escaped owner.name cls.name)

variable {before classes : List EscapedClass} {cls owner : EscapedClass} {fault : Fault}

/-- A fault of a class by itself is its first problem. -/
theorem problem_of_fault? (h : cls.fault? = some fault) : Problem before cls fault := by
  unfold EscapedClass.fault? at h
  split at h
  · rename_i hq
    cases h
    exact .unquotable fun hs => by simp [EscapedClass.quotable_iff.mpr hs] at hq
  rename_i hq
  replace hq := EscapedClass.quotable_iff.mp (by simpa using hq)
  split at h
  · rename_i hl
    cases h
    exact .broken hq fun hs => by simp [EscapedClass.all_oneLine_iff.mpr hs] at hl
  rename_i hl
  replace hl := EscapedClass.all_oneLine_iff.mp (by simpa using hl)
  split at h
  · rename_i hv
    cases h
    exact .invalid hq hl (by simpa using hv)
  · cases h

theorem mem_of_sharing (h : sharing before cls.escaped = [owner]) :
    owner ∈ before ∧ owner.escaped = cls.escaped := by
  have hm : owner ∈ sharing before cls.escaped := h ▸ List.mem_singleton_self owner
  simpa [sharing] using hm

/-- Only a class that breaks something has a problem. -/
theorem Problem.breaks (h : Problem before cls fault) : Breaks before cls := by
  cases h with
  | unquotable hq => exact .inl fun hs => hq hs.1
  | broken _ hl => exact .inl fun hs => hl hs.2.1
  | invalid _ _ hv => exact .inl fun hs => hv hs.2.2
  | taken owner _ ho => exact .inr ⟨owner, mem_of_sharing ho⟩

/-- A class has one first problem. -/
theorem Problem.unique {other : Fault} (h : Problem before cls fault)
    (h' : Problem before cls other) : fault = other := by
  cases h <;> cases h' <;> simp_all

/-! ## The owners of fields -/

/-- Each owner is the one class with that escaped name, and the other names have no class. -/
def Owners.Hold (owners : Owners) (before : List EscapedClass) : Prop :=
  ∀ escaped, (sharing before escaped).map (·.name) = (owners.lookup escaped).toList

variable {owners : Owners}

theorem Owners.hold_nil : Owners.Hold [] [] := fun _ => rfl

/-- The class that takes a free field is held by the owners from then on. -/
theorem Owners.Hold.concat (h : owners.Hold before) (ho : owners.lookup cls.escaped = none) :
    Owners.Hold ((cls.escaped, cls.name) :: owners) (before ++ [cls]) := by
  intro escaped
  have hb := h escaped
  simp only [sharing, List.filter_append, List.map_append, List.lookup_cons] at hb ⊢
  by_cases he : cls.escaped = escaped
  · subst he
    simp [hb, ho]
  · simp [hb, he, beq_eq_false_iff_ne.mpr (Ne.symm he)]

/-- Where the field of a class has an owner, no other class before has that escaped name. -/
theorem Owners.Hold.exists_sharing {escaped first : String} (h : owners.Hold before)
    (ho : owners.lookup escaped = some first) :
    ∃ owner, sharing before escaped = [owner] ∧ owner.name = first := by
  have hb := h escaped
  rw [ho] at hb
  exact List.map_eq_singleton_iff.mp hb

theorem Owners.Hold.notMem (h : owners.Hold before) {escaped : String}
    (ho : owners.lookup escaped = none) : ¬ ∃ other ∈ before, other.escaped = escaped := by
  have hb := h escaped
  rw [ho] at hb
  simpa [sharing] using hb

/-! ## The loop -/

/-- A class that breaks something ends the loop with its problem. -/
theorem validateFrom_of_breaks (h : owners.Hold before) (hc : Breaks before cls)
    (rest : List EscapedClass) :
    ∃ fault, Problem before cls fault ∧ validateFrom owners (cls :: rest) = .error fault := by
  rcases hf : cls.fault? with _ | fault
  · have hs := EscapedClass.fault?_eq_none_iff.mp hf
    rcases ho : owners.lookup cls.escaped with _ | first
    · exact absurd hc (not_or.mpr ⟨not_not_intro (EscapedClass.sound_iff.mp hs), h.notMem ho⟩)
    · obtain ⟨owner, hb, rfl⟩ := h.exists_sharing ho
      exact ⟨_, .taken owner (EscapedClass.sound_iff.mp hs) hb, validateFrom_of_taken hs ho⟩
  · exact ⟨fault, problem_of_fault? hf, validateFrom_of_fault hf⟩

/-- The loop goes on after a class that breaks nothing. -/
theorem validateFrom_of_not_breaks (h : owners.Hold before) (hc : ¬ Breaks before cls)
    (rest : List EscapedClass) :
    ∃ owners' : Owners, owners'.Hold (before ++ [cls]) ∧
      validateFrom owners (cls :: rest) = validateFrom owners' rest := by
  obtain ⟨hs, ho⟩ := not_or.mp hc
  replace hs := EscapedClass.sound_iff.mpr (Classical.not_not.mp hs)
  rcases hl : owners.lookup cls.escaped with _ | first
  · exact ⟨_, h.concat hl, validateFrom_of_free hs hl⟩
  · obtain ⟨owner, hb, -⟩ := h.exists_sharing hl
    exact absurd ⟨owner, mem_of_sharing hb⟩ ho

/-- The loop ends with the problem of the first class that breaks something. -/
theorem validateFrom_eq_error_iff (h : owners.Hold before) :
    validateFrom owners classes = .error fault ↔
      ∃ i, ∃ hi : i < classes.length,
        (∀ j (hj : j < i), ¬ Breaks (before ++ classes.take j) classes[j]) ∧
          Problem (before ++ classes.take i) classes[i] fault := by
  induction classes generalizing owners before with
  | nil => exact ⟨nofun, fun ⟨i, hi, _⟩ => absurd hi (Nat.not_lt_zero i)⟩
  | cons cls rest ih =>
    by_cases hc : Breaks before cls
    · obtain ⟨found, hp, hv⟩ := validateFrom_of_breaks h hc rest
      rw [hv]
      constructor
      · rintro ⟨⟩
        exact ⟨0, Nat.zero_lt_succ _, fun j hj => absurd hj (Nat.not_lt_zero j), by simpa using hp⟩
      · rintro ⟨i, hi, hj, hq⟩
        rcases i with _ | i
        · rw [hp.unique (by simpa using hq)]
        · exact absurd (by simpa using hc) (hj 0 (Nat.zero_lt_succ i))
    · obtain ⟨owners', hh, hv⟩ := validateFrom_of_not_breaks h hc rest
      rw [hv, ih hh]
      simp only [List.append_assoc, List.singleton_append]
      constructor
      · rintro ⟨i, hi, hj, hq⟩
        refine ⟨i + 1, Nat.succ_lt_succ hi, fun j hj' => ?_, by simpa using hq⟩
        rcases j with _ | j
        · simpa using hc
        · simpa using hj j (Nat.lt_of_succ_lt_succ hj')
      · rintro ⟨i, hi, hj, hq⟩
        rcases i with _ | i
        · exact absurd (by simpa using hq.breaks) hc
        · exact ⟨i, Nat.lt_of_succ_lt_succ hi,
            fun j hj' => by simpa using hj (j + 1) (Nat.succ_lt_succ hj'), by simpa using hq⟩

/-- Classes are accepted if and only if each keeps the conditions and no escaped name occurs twice.
Otherwise, the fault is the first problem of the class at the least position at which a class breaks
a condition or shares its escaped name with a class before it. -/
theorem validate_first_problem (classes : List EscapedClass) :
    (validate classes = .ok () ↔
      (∀ cls ∈ classes, cls.Quotable ∧ cls.Unbroken ∧ FieldName.valid cls.escaped) ∧
        classes.Pairwise fun a b => a.escaped ≠ b.escaped) ∧
    (∀ fault, validate classes = .error fault ↔
      ∃ i, ∃ hi : i < classes.length, (∀ j (hj : j < i), ¬ Breaks (classes.take j) classes[j]) ∧
        Problem (classes.take i) classes[i] fault) := by
  refine ⟨?_, fun fault => ?_⟩
  · simp only [validate_eq_ok_iff, EscapedClass.sound_iff]
  · exact validateFrom_eq_error_iff Owners.hold_nil

/-- The second of two problems of a class is not reported, nor is a problem of a later class. -/
example : validate [⟨⟨"a", []⟩, "a"⟩, ⟨⟨"b", [⟨"x\ny", none⟩]⟩, "a"⟩, ⟨⟨"\"", []⟩, "c"⟩] =
    .error (.multilineDoc "b") := by
  rfl

end ClassFields
