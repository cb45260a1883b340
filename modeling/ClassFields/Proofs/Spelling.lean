import ClassFields.Proofs.Trivia

/-!
# Spellings of a field name

The texts that `read?` reads a name from, as a grammar (`Spells`, `read?_eq_some_iff`): a byte order
mark or none, then the name as it is written by itself between blanks and comments. A text that goes
on with a colon is read to the same end only if the colon is in a comment
(`skip_line_of_read?_colon`).
-/

namespace ClassFields.FieldName

open Unicode

/-- A name as it is written by itself. -/
def written (f : FieldName) : List Char := if f.raw then 'r' :: '#' :: f.name else f.name

/-- A word that is an identifier. -/
structure WellFormed (f : FieldName) : Prop where
  word : ∃ c rest, f.name = c :: rest ∧ isStart c ∧ ∀ d ∈ rest, isXidContinue d
  allowed : allowed f.raw f.name

/-- A text that consists of a name: a mark at the start, blanks and comments do not count. -/
def Spells (f : FieldName) (text : List Char) : Prop :=
  f.WellFormed ∧ ∃ before after q, afterMark text = before ++ (f.written ++ after) ∧
    Skips isGap .between before .between ∧ Skips isGap .between after q

variable {f : FieldName} {text rest : List Char}

/-! ## Where a word ends -/

/-- Text that does not go on with a word, or with one of the signs that belong to it. -/
def EndsWord (rest : List Char) : Prop :=
  ∀ c ∈ rest.head?, isXidContinue c = false ∧ c ∉ ['#', '"', '\'']

theorem endsWord_colon : EndsWord (':' :: rest) := by
  rintro c ⟨⟩
  decide

theorem endsWord_nil : EndsWord [] := by
  rintro c ⟨⟩

theorem endsWord_of_skips {blank : Char → Bool} (hb : ∀ c, blank c → isGap c) {s : List Char}
    {q : Place} (h : Skips blank .between s q) (hr : EndsWord rest) : EndsWord (s ++ rest) := by
  cases h with
  | between => exact hr
  | @gap c _ _ hc =>
    rintro d ⟨⟩
    replace hc := hb c hc
    refine ⟨isXidContinue_of_isGap hc, fun hm => ?_⟩
    simp only [List.mem_cons, List.not_mem_nil, or_false] at hm
    rcases hm with rfl | rfl | rfl <;> exact absurd hc (by decide)
  | openLine => rintro d ⟨⟩; decide
  | openBlock => rintro d ⟨⟩; decide

/-! ## Reading the name -/

theorem word?_eq_some {name : List Char} (h : word? text = some (name, rest)) :
    (∃ c t, name = c :: t ∧ isStart c ∧ ∀ d ∈ t, isXidContinue d) ∧ text = name ++ rest := by
  rcases text with _ | ⟨c, t⟩
  · cases h
  simp only [word?] at h
  split at h
  · rename_i hc
    cases h
    exact ⟨⟨c, _, rfl, hc, List.all_eq_true.mp List.all_takeWhile⟩,
      by rw [List.cons_append, List.takeWhile_append_dropWhile]⟩
  · cases h

theorem word?_append {c : Char} {t : List Char} (hc : isStart c) (ht : ∀ d ∈ t, isXidContinue d)
    (hr : EndsWord rest) : word? (c :: t ++ rest) = some (c :: t, rest) := by
  have hn : rest.takeWhile isXidContinue = [] ∧ rest.dropWhile isXidContinue = rest := by
    rcases rest with _ | ⟨d, rest⟩
    · exact ⟨rfl, rfl⟩
    · simp [(hr d rfl).1]
  simp only [List.cons_append, word?, hc, if_true]
  rw [List.takeWhile_append_of_pos ht, List.dropWhile_append_of_pos ht, hn.1, hn.2, List.append_nil]

/-- The identifier that the word at the front of a text is, written raw or not. -/
def ofWord? (raw : Bool) (text : List Char) : Option (FieldName × List Char) :=
  match word? text with
  | some (name, rest) => if allowed raw name then some (⟨name, raw⟩, rest) else none
  | none => none

theorem identifier?_raw : identifier? ('r' :: '#' :: text) = ofWord? true text := rfl

theorem identifier?_plain (h : ∀ t, text ≠ 'r' :: '#' :: t) :
    identifier? text = ofWord? false text := by
  unfold identifier?
  split
  rename_i raw t he
  split at he
  · rename_i u
    exact absurd rfl (h u)
  · cases he
    rfl

theorem ofWord?_eq_some {raw : Bool} (h : ofWord? raw text = some (f, rest)) :
    f.WellFormed ∧ f.raw = raw ∧ text = f.name ++ rest := by
  unfold ofWord? at h
  split at h
  · rename_i name rest' hw
    split at h
    · rename_i ha
      cases h
      obtain ⟨hn, rfl⟩ := word?_eq_some hw
      exact ⟨⟨hn, ha⟩, rfl, rfl⟩
    · cases h
  · cases h

/-- The name at the front of a text is an identifier, and it stands there as it is written. -/
theorem identifier?_eq_some (h : identifier? text = some (f, rest)) :
    f.WellFormed ∧ text = f.written ++ rest := by
  by_cases hr : ∃ t, text = 'r' :: '#' :: t
  · obtain ⟨t, rfl⟩ := hr
    obtain ⟨hf, he, rfl⟩ := ofWord?_eq_some (identifier?_raw ▸ h)
    exact ⟨hf, by rw [written, he]; rfl⟩
  · rw [identifier?_plain fun t ht => hr ⟨t, ht⟩] at h
    obtain ⟨hf, he, rfl⟩ := ofWord?_eq_some h
    exact ⟨hf, by rw [written, he]; rfl⟩

theorem ofWord?_append (hf : f.WellFormed) (hr : EndsWord rest) :
    ofWord? f.raw (f.name ++ rest) = some (f, rest) := by
  obtain ⟨⟨c, t, hn, hc, ht⟩, ha⟩ := hf
  obtain ⟨name, raw⟩ := f
  obtain rfl : name = c :: t := hn
  rw [ofWord?, word?_append hc ht hr]
  exact if_pos ha

/-- A name is read back from where it is written, up to where its word ends. -/
theorem identifier?_written (hf : f.WellFormed) (hr : EndsWord rest) :
    identifier? (f.written ++ rest) = some (f, rest) := by
  have hw := ofWord?_append hf hr
  obtain ⟨name, raw⟩ := f
  cases raw with
  | true => exact hw
  | false =>
    refine (identifier?_plain fun u hu => ?_).trans hw
    obtain ⟨⟨c, t, hn, -, ht⟩, -⟩ := hf
    obtain rfl : name = c :: t := hn
    rcases t with _ | ⟨d, t⟩
    · obtain rfl : rest = '#' :: u := (List.cons.inj hu).2
      exact (hr '#' rfl).2 List.mem_cons_self
    · obtain rfl : d = '#' := (List.cons.inj (List.cons.inj hu).2).1
      exact absurd (ht '#' List.mem_cons_self) (by decide)

/-- No blank, mark or comment stands where a name is written. -/
theorem written_head (hf : f.WellFormed) :
    ∃ c t, f.written = c :: t ∧ isGap c = false ∧ c ≠ '/' ∧ c ≠ '\uFEFF' := by
  obtain ⟨⟨c, t, hn, hc, -⟩, -⟩ := hf
  obtain ⟨name, raw⟩ := f
  obtain rfl : name = c :: t := hn
  cases raw with
  | true => exact ⟨'r', '#' :: c :: t, rfl, by decide, by decide, by decide⟩
  | false =>
    refine ⟨c, t, rfl, Bool.eq_false_iff.mpr fun hg => ?_, ?_, ?_⟩
    · rw [isStart_of_isGap hg] at hc
      cases hc
    · rintro rfl
      exact absurd hc (by decide)
    · rintro rfl
      exact absurd hc (by decide +kernel)

theorem skip_written (hf : f.WellFormed) :
    skip .between (f.written ++ rest) = some (f.written ++ rest) := by
  obtain ⟨c, t, hw, hg, hs, -⟩ := written_head hf
  rw [hw, List.cons_append, skip_between_cons hs, hg, if_neg Bool.false_ne_true]

/-! ## Reading the text -/

theorem afterMark_cons {c : Char} (hc : c ≠ '\uFEFF') : afterMark (c :: text) = c :: text := by
  unfold afterMark
  split
  · rename_i h
    exact absurd (List.cons.inj h).1 hc
  · rfl

/-- What skipped text and a name are read as, if the text after them goes on. -/
theorem read?_append {before after tail : List Char} {q : Place} (hf : f.WellFormed)
    (ht : afterMark text = before ++ (f.written ++ (after ++ tail)))
    (hb : Skips isGap .between before .between) (ha : Skips isGap .between after q)
    (hq : Harmless q tail) (he : EndsWord tail) :
    read? text = match skip q tail with
      | some [] => some f
      | _ => none := by
  have h₁ : skip .between (afterMark text) = some (f.written ++ (after ++ tail)) := by
    rw [ht, skip_append hb (.inl rfl), skip_written hf]
  have h₂ := identifier?_written hf (endsWord_of_skips (fun _ => id) ha he)
  have h₃ := skip_append ha hq
  rw [read?, h₁]
  simp only [Option.bind_eq_bind, Option.bind_some, h₂, h₃]
  rcases skip q tail with _ | ⟨_ | _⟩ <;> rfl

/-- `read?` reads a name from the texts that spell it. -/
theorem read?_eq_some_iff : read? text = some f ↔ Spells f text := by
  constructor
  · intro h
    simp only [read?, Option.bind_eq_bind, Option.bind_eq_some_iff] at h
    obtain ⟨t, h₁, ⟨g, rest⟩, h₂, u, h₃, h₄⟩ := h
    obtain ⟨hf, rfl⟩ := identifier?_eq_some h₂
    rcases u with _ | ⟨c, u⟩ <;> cases h₄
    obtain ⟨before, q, hb, sb, hq⟩ := skips_of_skip h₁
    obtain ⟨after, q', ha, sa, -⟩ := skips_of_skip h₃
    obtain rfl : q = .between := by
      obtain ⟨c, t, hw, -⟩ := written_head hf
      simpa [hw] using hq
    rw [List.append_nil] at ha
    exact ⟨hf, before, after, q', ha ▸ hb, sb, sa⟩
  · rintro ⟨hf, before, after, q, ht, hb, ha⟩
    rw [read?_append hf (by rw [List.append_nil, ht]) hb ha (.inr (.inl rfl)) endsWord_nil,
      show skip q [] = some [] by rcases ha.place with rfl | rfl <;> rfl]

theorem Spells.exists_cons (h : Spells f text) : ∃ c t, text = c :: t := by
  rcases text with _ | ⟨c, t⟩
  · obtain ⟨hf, before, after, q, ht, -⟩ := h
    obtain ⟨c, t, hw, -⟩ := written_head hf
    rw [hw] at ht
    simp [afterMark] at ht
  · exact ⟨c, t, rfl⟩

theorem afterMark_append (h : ∃ c t, text = c :: t) :
    afterMark (text ++ rest) = afterMark text ++ rest := by
  obtain ⟨c, t, rfl⟩ := h
  by_cases hc : c = '\uFEFF'
  · subst hc
    rfl
  · rw [List.cons_append, afterMark_cons hc, afterMark_cons hc, List.cons_append]

/-- A name that a text goes on after with a colon is read only if the colon is in a comment. -/
theorem skip_line_of_read?_colon {g : FieldName} (h : read? text = some f)
    (hg : read? (text ++ ':' :: rest) = some g) : skip .line rest = some [] := by
  rw [read?_eq_some_iff] at h
  obtain ⟨hf, before, after, q, ht, hb, ha⟩ := id h
  have ht' : afterMark (text ++ ':' :: rest) = before ++ (f.written ++ (after ++ ':' :: rest)) := by
    rw [afterMark_append h.exists_cons, ht]
    simp only [List.append_assoc]
  rw [read?_append hf ht' hb ha (.inr (.inr rfl)) endsWord_colon] at hg
  split at hg
  · rename_i hs
    rcases ha.place with rfl | rfl
    · exact absurd hs (by simp [skip_between_cons, show isGap ':' = false by decide])
    · exact hs
  · cases hg

end ClassFields.FieldName
