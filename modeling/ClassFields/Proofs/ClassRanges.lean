import ClassFields.Pattern.ClassRanges
import Mathlib.Data.List.Basic

/-!
# The ranges of a character class

The ranges that a class is compiled from hold the characters that the class contains, and no others
(`contains_ranges`). A class is steady: what it contains can change only at its cuts (`steady_holds`).
What is steady is found again from its cuts in ascending order (`holds_rangesFrom`).
-/

namespace ClassFields

open Unicode

/-- `p` can change only at cuts. -/
def Steady (p : Nat → Bool) (cuts : List Nat) : Prop := ∀ n, n + 1 ∉ cuts → p (n + 1) = p n

namespace Steady

variable {p q : Nat → Bool} {cuts more : List Nat}

theorem mono (h : Steady p cuts) (hc : ∀ n ∈ cuts, n ∈ more) : Steady p more :=
  fun n hn => h n fun hm => hn (hc _ hm)

/-- What is made of two predicates changes only where one of them does. -/
theorem map₂ (f : Bool → Bool → Bool) (hp : Steady p cuts) (hq : Steady q cuts) :
    Steady (fun n => f (p n) (q n)) cuts := fun n hn => by
  simp only [hp n hn, hq n hn]

/-- From one code point to a later one without a cut between them, nothing changes. -/
theorem eq_add (h : Steady p cuts) {m : Nat} (k : Nat) (hk : ∀ i ∈ cuts, i ≤ m ∨ m + k < i) :
    p (m + k) = p m := by
  induction k with
  | zero => rfl
  | succ k ih =>
    have hc : m + k + 1 ∉ cuts := fun hc => by have := hk _ hc; omega
    rw [← Nat.add_assoc, h _ hc]
    exact ih fun i hi => by have := hk i hi; omega

end Steady

/-! ## Cuts of ranges and of characters -/

theorem Unicode.Ranges.steady_holds : ∀ ranges : Ranges, Steady ranges.holds ranges.cuts
  | [], _, _ => rfl
  | (lo, hi) :: rest, n, hn => by
    have hc : n + 1 ≠ lo ∧ n + 1 ≠ hi + 1 ∧ n + 1 ∉ Ranges.cuts rest := by
      simpa [Ranges.cuts, not_or] using hn
    obtain ⟨hlo, hhi, hr⟩ := hc
    have ho : (n + 1 < lo ↔ n < lo) ∧ (n + 1 ≤ hi ↔ n ≤ hi) := by omega
    simp only [Ranges.holds, ho, steady_holds rest n hr]

namespace CharClass

theorem steady_isValidChar : Steady (fun n => n.isValidChar) charCuts := fun n hn => by
  simp only [charCuts, List.mem_cons, List.not_mem_nil, or_false, not_or] at hn
  simp only [Nat.isValidChar, decide_eq_decide]
  omega

theorem toNat_ofNat {n : Nat} (h : n.isValidChar) : (Char.ofNat n).toNat = n := by
  rw [Char.ofNat, dif_pos h]
  rfl

theorem beq_eq_toNat_beq (c d : Char) : (c == d) = (c.toNat == d.toNat) := by
  rw [Bool.eq_iff_iff, beq_iff_eq, beq_iff_eq, Char.toNat_inj]

@[simp] theorem holds_toNat (a : CharClass) (c : Char) : a.holds c.toNat = a.contains c := by
  have h : c.toNat.isValidChar := c.valid
  simp [holds, h]

variable {a b : CharClass} {p : Nat → Bool} {cuts : List Nat}

/-- A class that looks at the code point of a character. -/
theorem holds_eq_and (h : ∀ c, a.contains c = p c.toNat) (n : Nat) :
    a.holds n = (decide n.isValidChar && p n) := by
  unfold holds
  by_cases hn : n.isValidChar
  · rw [h, toNat_ofNat hn]
  · simp [hn]

theorem steady_of_toNat (h : ∀ c, a.contains c = p c.toNat) (hp : Steady p cuts) :
    Steady a.holds (charCuts ++ cuts) := by
  rw [funext (holds_eq_and h)]
  exact .map₂ _ (steady_isValidChar.mono fun n => List.mem_append_left _)
    (hp.mono fun n => List.mem_append_right _)

/-- Whether a code point is that of a decimal digit. -/
def isDigitCode (n : Nat) : Bool := decimalZeros.any fun first => first ≤ n && n < first + 10

theorem steady_isDigitCode : Steady isDigitCode digitCuts := by
  unfold isDigitCode digitCuts
  induction decimalZeros with
  | nil => exact fun _ _ => rfl
  | cons first rest ih =>
    intro n hn
    have hc : n + 1 ≠ first ∧ n + 1 ≠ first + 10 ∧ n + 1 ∉ rest.flatMap fun i => [i, i + 10] := by
      simpa [not_or] using hn
    obtain ⟨hfirst, hlast, hr⟩ := hc
    have ho : (first ≤ n + 1 ↔ first ≤ n) ∧ (n + 1 < first + 10 ↔ n < first + 10) := by omega
    simp only [List.any_cons, ho, ih n hr]

theorem steady_blank : Steady blank.holds (charCuts ++ blankCuts) := by
  refine steady_of_toNat
    (p := fun n => (0x09 ≤ n && n ≤ 0x0D) || n == 0x20 || n == 0x85 || n == 0xA0 || n == 0x1680 ||
      (0x2000 ≤ n && n ≤ 0x200A) || n == 0x2028 || n == 0x2029 || n == 0x202F || n == 0x205F ||
      n == 0x3000) (fun c => ?_) fun n hn => ?_
  · have hs : (c == ' ') = (c.toNat == 0x20) := beq_eq_toNat_beq c ' '
    simp only [contains, isBlank, hs]
  · simp only [blankCuts, List.mem_cons, List.not_mem_nil, or_false, not_or] at hn
    rw [Bool.eq_iff_iff]
    simp only [Bool.or_eq_true, Bool.and_eq_true, decide_eq_true_eq, beq_iff_eq]
    omega

/-- Whether a code point is that of a word character. -/
def isWordCode (n : Nat) : Bool :=
  if n < 128 then (65 ≤ n && n ≤ 90) || (97 ≤ n && n ≤ 122) || (48 ≤ n && n ≤ 57) || n == 95
  else alphabeticRanges.holds n || marks.holds n || isDigitCode n || connectors.holds n ||
    (n == 0x200C || n == 0x200D)

theorem isWord_eq (c : Char) : isWord c = isWordCode c.toNat := by
  have hu : (c == '_') = (c.toNat == 95) := beq_eq_toNat_beq c '_'
  have ha : c.isAlphanum = ((65 ≤ c.toNat && c.toNat ≤ 90) || (97 ≤ c.toNat && c.toNat ≤ 122) ||
      (48 ≤ c.toNat && c.toNat ≤ 57)) := by
    rw [← Bool.decide_and]
    rfl
  unfold isWord isWordCode
  split
  · rw [hu, ha]
  · next h => simp only [isAlphabetic, if_neg h, Ranges.contains, isDecimalDigit, isDigitCode, isJoiner]

theorem steady_isWordCode : Steady isWordCode wordCuts := fun n hn => by
  simp only [wordCuts, List.mem_append, List.mem_cons, List.not_mem_nil, or_false, not_or] at hn
  obtain ⟨⟨⟨⟨hc, hd⟩, hp⟩, hm⟩, ha⟩ := hn
  unfold isWordCode
  by_cases h : n + 1 < 128
  · rw [if_pos h, if_pos (by omega), Bool.eq_iff_iff]
    simp only [Bool.or_eq_true, Bool.and_eq_true, decide_eq_true_eq, beq_iff_eq]
    omega
  · have hj : (n + 1 == 0x200C || n + 1 == 0x200D) = (n == 0x200C || n == 0x200D) := by
      rw [Bool.eq_iff_iff]
      simp only [Bool.or_eq_true, beq_iff_eq]
      omega
    rw [if_neg h, if_neg (by omega), hj, Ranges.steady_holds _ n ha, Ranges.steady_holds _ n hm,
      steady_isDigitCode n hd, Ranges.steady_holds _ n hp]

/-! ## Folded classes -/

theorem mem_foldPoints {run : FoldRun} (hr : run ∈ foldRuns) {n : Nat} (h : run.moves n) :
    n ∈ foldPoints ∧ (Int.ofNat n + run.offset).toNat ∈ foldPoints := by
  simp only [FoldRun.moves, Bool.and_eq_true, decide_eq_true_eq, beq_iff_eq] at h
  obtain ⟨⟨hf, hl⟩, hs⟩ := h
  have hi : (n - run.first) / run.step < (run.last - run.first) / run.step + 1 :=
    Nat.lt_succ_of_le (Nat.div_le_div_right (by omega))
  have hn : run.first + (n - run.first) / run.step * run.step = n := by
    have := Nat.div_add_mod (n - run.first) run.step
    rw [hs, Nat.mul_comm] at this
    omega
  constructor <;>
    refine List.mem_flatMap.2 ⟨run, hr, List.mem_flatMap.2
      ⟨(n - run.first) / run.step, List.mem_range.2 hi, ?_⟩⟩ <;>
    simp [hn]

/-- A code point that folding leaves alone is its only case variant. -/
theorem caseVariants_of_notMem {n : Nat} (h : n ∉ foldPoints) : caseVariants n = [n] := by
  have hf : foldCode n = n := by
    have hn : foldRuns.find? (·.moves n) = none := by
      rw [List.find?_eq_none]
      exact fun run hr hm => h (mem_foldPoints hr hm).1
    simp only [foldCode, hn]
  have hs : foldRuns.flatMap (·.sources n) = [] := by
    rw [List.flatMap_eq_nil_iff]
    intro run hr
    simp only [FoldRun.sources]
    split
    · next hm =>
      simp only [Bool.and_eq_true, beq_iff_eq] at hm
      have := (mem_foldPoints hr hm.1).2
      rw [hm.2] at this
      exact absurd this h
    · rfl
  rw [caseVariants, hf, hs]

theorem holds_folded (a : CharClass) (n : Nat) :
    (folded a).holds n =
      (a.holds n || (decide n.isValidChar && (caseVariants n).any (a.contains <| .ofNat ·))) := by
  by_cases hv : n.isValidChar
  · simp [holds, contains, toNat_ofNat hv, hv]
  · simp [holds, hv]

/-- Folding adds a code point, or it leaves it as it is. -/
theorem holds_folded_cases (a : CharClass) (n : Nat) :
    (folded a).holds n = a.holds n ∨ (n ∈ a.foldCuts ∧ n + 1 ∈ a.foldCuts) := by
  rw [holds_folded]
  by_cases hn : n ∈ foldPoints
  · by_cases hc : (!a.holds n && (caseVariants n).any (a.contains <| .ofNat ·)) = true
    · have hm : ∀ m ∈ [n, n + 1], m ∈ a.foldCuts := fun m hm =>
        List.mem_flatMap.2 ⟨(n, caseVariants n), List.mem_map_of_mem hn, by
          dsimp only
          rwa [if_pos hc]⟩
      exact .inr ⟨hm _ (by simp), hm _ (by simp)⟩
    · left
      cases ha : a.holds n
      · simp_all
      · simp
  · left
    rw [caseVariants_of_notMem hn]
    simp [holds]

/-! ## Cuts of classes -/

theorem steady_range (first last : Char) :
    Steady (range first last).holds (charCuts ++ [first.toNat, last.toNat + 1]) := by
  refine steady_of_toNat (p := fun n => first.toNat ≤ n && n ≤ last.toNat) (fun c => ?_) fun n hn => ?_
  · simp [contains, Char.le_def, UInt32.le_iff_toNat_le]
  · simp only [List.mem_cons, List.not_mem_nil, or_false, not_or] at hn
    rw [Bool.eq_iff_iff]
    simp only [Bool.and_eq_true, decide_eq_true_eq]
    omega

/-- An operation on what two classes contain. -/
theorem steady_binary {c : CharClass} (f : Bool → Bool → Bool)
    (hc : ∀ d, c.contains d = f (a.contains d) (b.contains d))
    (ha : Steady a.holds (charCuts ++ a.cuts)) (hb : Steady b.holds (charCuts ++ b.cuts)) :
    Steady c.holds (charCuts ++ (a.cuts ++ b.cuts)) := by
  have h : c.holds = fun n => n.isValidChar && f (a.holds n) (b.holds n) := by
    funext n
    by_cases hn : n.isValidChar <;> simp [holds, hn, hc]
  have ha : Steady a.holds (charCuts ++ (a.cuts ++ b.cuts)) := ha.mono fun n => by
    simp only [List.mem_append]
    tauto
  have hb : Steady b.holds (charCuts ++ (a.cuts ++ b.cuts)) := hb.mono fun n => by
    simp only [List.mem_append]
    tauto
  rw [h]
  exact .map₂ _ (steady_isValidChar.mono fun n => List.mem_append_left _) (.map₂ f ha hb)

theorem steady_holds : ∀ a : CharClass, Steady a.holds (charCuts ++ a.cuts)
  | range first last => steady_range first last
  | table ranges => steady_of_toNat (fun _ => rfl) ranges.steady_holds
  | digit => steady_of_toNat (fun _ => rfl) steady_isDigitCode
  | blank => steady_blank
  | word => steady_of_toNat isWord_eq steady_isWordCode
  | nothing => steady_of_toNat (p := fun _ => false) (fun _ => rfl) fun _ _ => rfl
  | union a b => steady_binary (· || ·) (fun _ => rfl) (steady_holds a) (steady_holds b)
  | intersection a b => steady_binary (· && ·) (fun _ => rfl) (steady_holds a) (steady_holds b)
  | difference a b => steady_binary (· && !·) (fun _ => rfl) (steady_holds a) (steady_holds b)
  | symmetricDifference a b => steady_binary (· != ·) (fun _ => rfl) (steady_holds a) (steady_holds b)
  | complement a => by
    have h := steady_binary (c := complement a) (fun p _ => !p) (fun _ => rfl) (steady_holds a)
      (steady_holds a)
    exact h.mono fun n => by
      simp only [cuts, List.mem_append]
      tauto
  | folded a => fun n hn => by
    have hc : n + 1 ∉ charCuts ++ a.cuts ∧ n + 1 ∉ a.foldCuts := by
      simpa [cuts, not_or, and_assoc] using hn
    obtain ⟨ha, hf⟩ := hc
    have hn : (folded a).holds n = a.holds n := (holds_folded_cases a n).resolve_right fun h => hf h.2
    have hs : (folded a).holds (n + 1) = a.holds (n + 1) :=
      (holds_folded_cases a (n + 1)).resolve_right fun h => hf h.1
    rw [hn, hs, steady_holds a n ha]

/-! ## Ranges from cuts -/

theorem mem_insertCut {m n : Nat} : ∀ {cuts : List Nat}, m ∈ insertCut n cuts ↔ m = n ∨ m ∈ cuts
  | [] => by simp [insertCut]
  | first :: rest => by
    unfold insertCut
    split
    · simp
    · split
      · next h => simp [h]
      · rw [List.mem_cons, mem_insertCut, List.mem_cons, or_left_comm]

theorem pairwise_insertCut {n : Nat} :
    ∀ {cuts : List Nat}, cuts.Pairwise (· < ·) → (insertCut n cuts).Pairwise (· < ·)
  | [], _ => by simp [insertCut]
  | first :: rest, h => by
    obtain ⟨hf, hr⟩ := List.pairwise_cons.1 h
    unfold insertCut
    split
    · next hn =>
      refine List.pairwise_cons.2 ⟨fun m hm => ?_, h⟩
      obtain rfl | hm := List.mem_cons.1 hm
      · exact hn
      · exact Nat.lt_trans hn (hf m hm)
    · split
      · exact h
      · refine List.pairwise_cons.2 ⟨fun m hm => ?_, pairwise_insertCut hr⟩
        obtain rfl | hm := mem_insertCut.1 hm
        · omega
        · exact hf m hm

/-- What is held by the ranges from a cut on, if it is known which range has started before. -/
theorem holds_rangesFrom (hp : Steady p cuts) (hmax : ∀ n ≥ 0x110000, p n = false) :
    ∀ (later : List Nat) (start : Nat) (started : Option Nat), (start :: later).Pairwise (· < ·) →
      (∀ i ∈ cuts, i ≤ start ∨ i ∈ later) → p start = started.isSome →
      (∀ first ∈ started, first ≤ start) → ∀ n, (rangesFrom p started later).holds n =
        if n < start then started.any (· ≤ n) else p n
  | [], start, started, _, hc, hs, _, n => by
    have hall : ∀ k, p (start + k) = p start := fun k =>
      hp.eq_add k fun i hi => .inl ((hc i hi).resolve_right List.not_mem_nil)
    -- without a cut above, a range that is open would go on where there are no characters
    have hnone : started = none := by
      rw [← hall 0x110000, hmax _ (by omega)] at hs
      simpa using hs.symm
    subst hnone
    split
    · rfl
    · next hn =>
      rw [show n = start + (n - start) by omega, hall, hs]
      rfl
  | cut :: later, start, started, ho, hc, hs, hf, n => by
    obtain ⟨hlt, ho⟩ := List.pairwise_cons.1 ho
    have hcut : start < cut := hlt cut List.mem_cons_self
    have hc' : ∀ i ∈ cuts, i ≤ cut ∨ i ∈ later := fun i hi => by
      obtain h | h := hc i hi
      · exact .inl (by omega)
      · exact (List.mem_cons.1 h).imp Nat.le_of_eq id
    -- up to the next cut it stays as it is at the last one
    have hstretch : start ≤ n → n < cut → p n = started.isSome := fun hle hn => by
      rw [← hs, show n = start + (n - start) by omega]
      refine hp.eq_add _ fun i hi => ?_
      obtain h | h := hc i hi
      · exact .inl h
      · obtain rfl | h := List.mem_cons.1 h
        · exact .inr (by omega)
        · have := List.rel_of_pairwise_cons ho h
          exact .inr (by omega)
    have ih := fun started => holds_rangesFrom hp hmax later cut started ho hc'
    cases started with
    | none =>
      cases hpc : p cut with
      | false =>
        rw [rangesFrom, hpc, if_neg (by simp), ih none hpc (by simp)]
        grind
      | true =>
        rw [rangesFrom, hpc, if_pos rfl, ih (some cut) hpc (by simp)]
        grind
    | some first =>
      have hfirst : first ≤ start := hf first rfl
      cases hpc : p cut with
      | false =>
        -- the open range ends before the cut
        rw [rangesFrom, hpc, if_neg (by simp), Ranges.holds, ih none hpc (by simp)]
        grind
      | true =>
        rw [rangesFrom, hpc, if_pos rfl, ih (some first) hpc (by rintro _ ⟨⟩; omega)]
        grind

theorem mem_foldr_insertCut {n : Nat} (cuts : List Nat) :
    n ∈ cuts.foldr insertCut charCuts ↔ n ∈ charCuts ++ cuts := by
  induction cuts with
  | nil => simp
  | cons m cuts ih => simp [mem_insertCut, ih, or_left_comm]

/-- The cuts of a class in ascending order, of which the first is the start of all characters. -/
theorem exists_foldr_insertCut (cuts : List Nat) :
    ∃ later, cuts.foldr insertCut charCuts = 0 :: later ∧ (0 :: later).Pairwise (· < ·) := by
  have hsorted : (cuts.foldr insertCut charCuts).Pairwise (· < ·) := by
    induction cuts with
    | nil => decide
    | cons n cuts ih => exact pairwise_insertCut ih
  have hzero : 0 ∈ cuts.foldr insertCut charCuts :=
    (mem_foldr_insertCut cuts).2 (List.mem_append_left _ List.mem_cons_self)
  cases h : cuts.foldr insertCut charCuts with
  | nil =>
    rw [h] at hzero
    cases hzero
  | cons first later =>
    rw [h] at hsorted hzero
    obtain rfl | hz := List.mem_cons.1 hzero
    · exact ⟨later, rfl, hsorted⟩
    · exact absurd (List.rel_of_pairwise_cons hsorted hz) (by omega)

/-- The ranges of a class hold what the class contains. -/
theorem contains_ranges (a : CharClass) (c : Char) : a.ranges.contains c = a.contains c := by
  obtain ⟨later, hl, hsorted⟩ := exists_foldr_insertCut a.cuts
  have hmax : ∀ n ≥ 0x110000, a.holds n = false := fun n hn => by
    have hv : ¬n.isValidChar := by
      unfold Nat.isValidChar
      omega
    simp [holds, hv]
  have hc : ∀ i ∈ charCuts ++ a.cuts, i ≤ 0 ∨ i ∈ later := fun i hi => by
    rw [← mem_foldr_insertCut, hl, List.mem_cons] at hi
    exact hi.imp Nat.le_of_eq id
  rw [ranges, Ranges.contains, hl, rangesFrom,
    holds_rangesFrom (steady_holds a) hmax later 0 _ hsorted hc (by split <;> simp_all) (by
      split <;> simp), if_neg (Nat.not_lt_zero _), holds_toNat]

end CharClass

end ClassFields
