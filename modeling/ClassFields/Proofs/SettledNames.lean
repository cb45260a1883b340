import ClassFields.Proofs.ReservedWords
import ClassFields.Proofs.StandardTable

/-!
# Names that escaping leaves alone

The standard table has nothing to do for a name without signs that neither starts with a digit nor
is reserved. It makes such a name of every name (`settled_escape`), so escaping twice is escaping
once, and these are the only names that it leaves as they are (`escape_standard_settled`).
-/

namespace ClassFields.RuleTable

open Unicode (isDecimalDigit)

/-- A name that the standard table has nothing to do for. -/
structure Settled (name : String) : Prop where
  signless : ∀ c ∈ name.toList, c ∉ signs
  undigited : ¬ name.toList.head?.any isDecimalDigit
  unreserved : name ∉ reservedWords

/-! ## Nothing to do -/

theorem flatMap_translate_of_signless {text : List Char} (h : ∀ c ∈ text, c ∉ signs) :
    text.flatMap translate = text := by
  induction text with
  | nil => rfl
  | cons c text ih =>
    obtain ⟨hc, ht⟩ := List.forall_mem_cons.mp h
    rw [List.flatMap_cons, translate_of_notMem hc, ih ht, List.singleton_append]

theorem escape_of_settled {name : String} (h : Settled name) : standard.escape name = pure name := by
  have hp : onePass name = name.toList := by
    rw [onePass, flatMap_translate_of_signless h.signless, inFront_digit, if_neg h.undigited]
  have hr : isReserved name = false := eq_false_of_ne_true (mt isReserved_iff.mp h.unreserved)
  rw [escape_standard, hp, String.ofList_toList, avoidReserved_of_not_reserved hr]

/-! ## What escaping makes -/

/-- What a sign is replaced by has no signs. -/
theorem notMem_signs_of_mem_translate {c d : Char} (h : d ∈ translate c) : d ∉ signs := by
  by_cases hc : c ∈ signs
  · have hall : signs.all fun c => (translate c).all (· ∉ signs) := by decide
    exact of_decide_eq_true (List.all_eq_true.mp (List.all_eq_true.mp hall c hc) d h)
  · rw [translate_of_notMem hc, List.mem_singleton] at h
    exact h ▸ hc

theorem signless_onePass {name : String} {c : Char} (h : c ∈ onePass name) : c ∉ signs := by
  have ht : ∀ d ∈ name.toList.flatMap translate, d ∉ signs := by
    intro d hd
    obtain ⟨e, -, he⟩ := List.mem_flatMap.mp hd
    exact notMem_signs_of_mem_translate he
  rw [onePass, inFront_digit] at h
  split at h
  · rcases List.mem_cons.mp h with rfl | h
    · decide
    · exact ht c h
  · exact ht c h

theorem undigited_onePass (name : String) : ¬ (onePass name).head?.any isDecimalDigit := by
  have hl : ¬ isDecimalDigit '_' := by decide +kernel
  rw [onePass, inFront_digit]
  split
  · exact hl
  · assumption

/-- The suffix of reserved words brings no sign, and no digit to the start. -/
theorem settled_avoidReserved {text : List Char} (hs : ∀ c ∈ text, c ∉ signs)
    (hd : ¬ text.head?.any isDecimalDigit) : Settled (avoidReserved (String.ofList text)) := by
  have hr : avoidReserved (String.ofList text) ∉ reservedWords := by
    rw [← isReserved_iff, isReserved_avoidReserved]
    exact Bool.false_ne_true
  rw [avoidReserved_ofList] at hr ⊢
  split
  · rw [if_pos ‹_›] at hr
    refine ⟨?_, ?_, hr⟩ <;> rw [String.toList_ofList]
    · rw [List.forall_mem_append]
      exact ⟨hs, List.forall_mem_singleton.mpr (by decide)⟩
    · cases text with
      | nil => decide +kernel
      | cons c text => exact hd
  · rw [if_neg ‹_›] at hr
    exact ⟨by rwa [String.toList_ofList], by rwa [String.toList_ofList], hr⟩

/-- Every name is escaped to one that the standard table has nothing to do for. -/
theorem settled_escape (name : String) : Settled (standard.escape name).value := by
  rw [escape_standard]
  exact settled_avoidReserved (fun c => signless_onePass) (undigited_onePass name)

/-- Escaping a name that is escaped changes nothing and logs nothing. The names that escaping does
not change are those without signs that do not start with a digit and are not reserved. -/
theorem escape_standard_settled (name : String) :
    standard.escape (standard.escape name).value = pure (standard.escape name).value ∧
      ((standard.escape name).value = name ↔
        (∀ c ∈ name.toList, c ∉ signs) ∧ ¬ name.toList.head?.any isDecimalDigit ∧
          name ∉ reservedWords) := by
  refine ⟨escape_of_settled (settled_escape name), fun h => ?_, fun ⟨hs, hd, hr⟩ => ?_⟩
  · -- what is escaped to itself is what escaping makes of a name
    have hn : Settled name := h ▸ settled_escape name
    exact ⟨hn.signless, hn.undigited, hn.unreserved⟩
  · rw [escape_of_settled ⟨hs, hd, hr⟩, Logged.value_pure]

end ClassFields.RuleTable
