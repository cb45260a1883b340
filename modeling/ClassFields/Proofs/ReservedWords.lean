import ClassFields.RuleTable

/-!
# Avoiding reserved words

The suffix makes a name of a reserved word that is not reserved (`reserved_suffix`), so no field has
a reserved word for its name. Of different texts it makes different names, but for a reserved word
and the same word with the suffix (`avoidReserved_eq_iff`).
-/

namespace ClassFields

theorem isReserved_iff {word : String} : isReserved word ↔ word ∈ reservedWords :=
  List.contains_iff_mem

/-- No reserved word with the suffix is reserved, nor is it a low line. -/
theorem reserved_suffix {word : String} (h : isReserved word) :
    isReserved (word ++ reservedSuffix) = false ∧ word ++ reservedSuffix ≠ "_" := by
  have hall : ∀ w ∈ reservedWords, isReserved (w ++ reservedSuffix) = false ∧
      w ++ reservedSuffix ≠ "_" := by decide +kernel
  exact hall word (isReserved_iff.mp h)

section

variable {s t : String}

theorem avoidReserved_of_reserved (h : isReserved s) : avoidReserved s = s ++ reservedSuffix :=
  if_pos h

theorem avoidReserved_of_not_reserved (h : isReserved s = false) : avoidReserved s = s :=
  if_neg (ne_true_of_eq_false h)

theorem isReserved_avoidReserved (s : String) : isReserved (avoidReserved s) = false := by
  cases h : isReserved s with
  | false => rwa [avoidReserved_of_not_reserved h]
  | true =>
    rw [avoidReserved_of_reserved h]
    exact (reserved_suffix h).1

/-- One of two texts is a reserved word, and the other is that word with the suffix. -/
def SuffixPair (s t : String) : Prop :=
  ∃ word ∈ reservedWords, s = word ∧ t = word ++ reservedSuffix ∨
    t = word ∧ s = word ++ reservedSuffix

theorem suffixPair_comm : SuffixPair s t ↔ SuffixPair t s :=
  exists_congr fun _ => and_congr_right fun _ => or_comm

/-- One text of a pair is reserved and the other is not. -/
theorem SuffixPair.reserved (h : SuffixPair s t) : isReserved s ≠ isReserved t := by
  obtain ⟨word, hw, ⟨rfl, rfl⟩ | ⟨rfl, rfl⟩⟩ := h <;> rw [← isReserved_iff] at hw <;>
    simp [hw, (reserved_suffix hw).1]

theorem suffixPair_iff_of_reserved (hs : isReserved s) (ht : isReserved t = false) :
    SuffixPair s t ↔ s ++ reservedSuffix = t := by
  constructor
  · rintro ⟨word, hw, ⟨rfl, rfl⟩ | ⟨rfl, rfl⟩⟩
    · rfl
    · rw [isReserved_iff.mpr hw] at ht
      cases ht
  · rintro rfl
    exact ⟨s, isReserved_iff.mp hs, .inl ⟨rfl, rfl⟩⟩

theorem avoidReserved_eq_iff_of_reserved (hs : isReserved s) (ht : isReserved t = false) :
    avoidReserved s = avoidReserved t ↔ s = t ∨ SuffixPair s t := by
  have hn : s ≠ t := fun h => by simp [← h, hs] at ht
  rw [avoidReserved_of_reserved hs, avoidReserved_of_not_reserved ht, or_iff_right hn,
    suffixPair_iff_of_reserved hs ht]

/-- Avoiding reserved words tells texts apart, but for a reserved word and the same word with the
suffix. -/
theorem avoidReserved_eq_iff : avoidReserved s = avoidReserved t ↔ s = t ∨ SuffixPair s t := by
  have hp : isReserved s = isReserved t → ¬ SuffixPair s t := fun h hp => hp.reserved h
  cases hs : isReserved s <;> cases ht : isReserved t
  case false.false =>
    rw [avoidReserved_of_not_reserved hs, avoidReserved_of_not_reserved ht,
      or_iff_left (hp (hs.trans ht.symm))]
  case false.true =>
    have h := avoidReserved_eq_iff_of_reserved ht hs
    exact eq_comm.trans (h.trans (or_congr eq_comm suffixPair_comm))
  case true.false => exact avoidReserved_eq_iff_of_reserved hs ht
  case true.true =>
    rw [avoidReserved_of_reserved hs, avoidReserved_of_reserved ht,
      or_iff_left (hp (hs.trans ht.symm)), String.append_left_inj]

end

/-- No name is escaped to a reserved word. Two names are escaped to the same text exactly if the
rules of the table make the same text of both, or a reserved word of one and that word with the
suffix of the other. -/
theorem RuleTable.escape_eq_iff (table : RuleTable) (a b : String) :
    isReserved (table.escape a).value = false ∧
    ((table.escape a).value = (table.escape b).value ↔
      (table.rewrite a).value = (table.rewrite b).value ∨
        ∃ word ∈ reservedWords,
          (table.rewrite a).value = word ∧ (table.rewrite b).value = word ++ "_" ∨
          (table.rewrite b).value = word ∧ (table.rewrite a).value = word ++ "_") := by
  have he (name : String) : (table.escape name).value = avoidReserved (table.rewrite name).value :=
    rfl
  rw [he, he]
  exact ⟨isReserved_avoidReserved _, avoidReserved_eq_iff⟩

end ClassFields
