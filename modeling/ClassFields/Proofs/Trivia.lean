import ClassFields.FieldName

/-!
# Blanks and comments

What stands between tokens, as a relation. `Skips blank p t q` says that all of the text `t` is
blanks and plain comments to a reader at the place `p`, and that the text leaves the reader at `q`.
The end of the text closes a comment that goes to the end of the line, but no other, so `q` is
`between` or `line`.

* `skips_of_skip`: what `skip` passes over is skipped;
* `skip_append`: `skip` passes over what is skipped.
-/

namespace ClassFields.FieldName

open Unicode

/-! ## Blanks -/

/-- The blanks between tokens. -/
def gaps : List Char :=
  ['\t', '\n', '\x0b', '\x0c', '\r', ' ', '\u0085', '\u00a0', '\u1680', '\u2000', '\u2001',
   '\u2002', '\u2003', '\u2004', '\u2005', '\u2006', '\u2007', '\u2008', '\u2009', '\u200a',
   '\u200e', '\u200f', '\u2028', '\u2029', '\u202f', '\u205f', '\u3000']

theorem mem_gaps {c : Char} (h : isGap c) : c ∈ gaps := by
  have hn : c.toNat ∈ gaps.map Char.toNat := by
    simp only [isGap, isBlank, Bool.or_eq_true, Bool.and_eq_true, decide_eq_true_eq, beq_iff_eq,
      ← Char.toNat_inj] at h
    simp only [gaps, List.map_cons, List.map_nil, List.mem_cons, List.not_mem_nil, or_false]
    simp only [Char.reduceToNat] at h ⊢
    omega
  obtain ⟨d, hd, e⟩ := List.mem_map.mp hn
  exact Char.toNat_inj.mp e ▸ hd

/-- No blank belongs to a word, and none starts a comment or is the byte order mark. -/
theorem gaps_apart {c : Char} (hc : c ∈ gaps) :
    isXidContinue c = false ∧ isStart c = false ∧ c ≠ '/' ∧ c ≠ '\uFEFF' := by
  have h : gaps.all fun c => !isXidContinue c && !isStart c && c != '/' && c != '\uFEFF' := by
    decide +kernel
  simpa [and_assoc] using List.all_eq_true.mp h c hc

theorem isXidContinue_of_isGap {c : Char} (h : isGap c) : isXidContinue c = false :=
  (gaps_apart (mem_gaps h)).1

theorem isStart_of_isGap {c : Char} (h : isGap c) : isStart c = false :=
  (gaps_apart (mem_gaps h)).2.1

theorem ne_slash_of_isGap {c : Char} (h : isGap c) : c ≠ '/' := (gaps_apart (mem_gaps h)).2.2.1

theorem ne_mark_of_isGap {c : Char} (h : isGap c) : c ≠ '\uFEFF' :=
  (gaps_apart (mem_gaps h)).2.2.2

/-! ## Skipped text -/

/-- Whether a character in a block comment and the text after it open or close a comment. -/
def meets (c : Char) (rest : List Char) : Bool :=
  (c == '/' && rest.head? == some '*') || (c == '*' && rest.head? == some '/')

/-- Text that is blanks and plain comments, from a place to a place. -/
inductive Skips (blank : Char → Bool) : Place → List Char → Place → Prop
  | between : Skips blank .between [] .between
  | line : Skips blank .line [] .line
  | gap {c : Char} {t : List Char} {q : Place} (hc : blank c) (h : Skips blank .between t q) :
      Skips blank .between (c :: t) q
  | openLine {t : List Char} {q : Place} (hd : isDocLine t = false) (h : Skips blank .line t q) :
      Skips blank .between ('/' :: '/' :: t) q
  | openBlock {t : List Char} {q : Place} (hd : isDocBlock t = false)
      (h : Skips blank (.block 0) t q) : Skips blank .between ('/' :: '*' :: t) q
  | newline {t : List Char} {q : Place} (h : Skips blank .between t q) :
      Skips blank .line ('\n' :: t) q
  | inLine {c : Char} {t : List Char} {q : Place} (hc : c ≠ '\n') (h : Skips blank .line t q) :
      Skips blank .line (c :: t) q
  | nest {depth : Nat} {t : List Char} {q : Place} (h : Skips blank (.block (depth + 1)) t q) :
      Skips blank (.block depth) ('/' :: '*' :: t) q
  | close {t : List Char} {q : Place} (h : Skips blank .between t q) :
      Skips blank (.block 0) ('*' :: '/' :: t) q
  | unnest {depth : Nat} {t : List Char} {q : Place} (h : Skips blank (.block depth) t q) :
      Skips blank (.block (depth + 1)) ('*' :: '/' :: t) q
  | inBlock {depth : Nat} {c : Char} {t : List Char} {q : Place} (hm : meets c t = false)
      (h : Skips blank (.block depth) t q) : Skips blank (.block depth) (c :: t) q

variable {blank : Char → Bool} {p q : Place} {s t rest : List Char}

theorem Skips.place (h : Skips blank p s q) : q = .between ∨ q = .line := by
  induction h with
  | between => exact .inl rfl
  | line => exact .inr rfl
  | _ => assumption

/-- A block comment goes on to where it is closed. -/
theorem Skips.exists_cons_of_block {depth : Nat} (h : Skips blank (.block depth) s q) :
    ∃ c t, s = c :: t := by
  cases h <;> exact ⟨_, _, rfl⟩

theorem Skips.mono {blank' : Char → Bool} (hb : ∀ c, blank c → blank' c) (h : Skips blank p s q) :
    Skips blank' p s q := by
  induction h with
  | between => exact .between
  | line => exact .line
  | gap hc _ ih => exact .gap (hb _ hc) ih
  | openLine hd _ ih => exact .openLine hd ih
  | openBlock hd _ ih => exact .openBlock hd ih
  | newline _ ih => exact .newline ih
  | inLine hc _ ih => exact .inLine hc ih
  | nest _ ih => exact .nest ih
  | close _ ih => exact .close ih
  | unnest _ ih => exact .unnest ih
  | inBlock hm _ ih => exact .inBlock hm ih

theorem meets_append {c : Char} (h : ∃ d t, s = d :: t) : meets c (s ++ rest) = meets c s := by
  obtain ⟨d, t, rfl⟩ := h
  rfl

/-! ### Documentation comments -/

theorem isDocLine_cons_cons (c d : Char) (t : List Char) :
    isDocLine (c :: d :: t) = (c == '/' && d != '/' || c == '!') := by
  by_cases hc : c = '/'
  · subst hc
    by_cases hd : d = '/' <;> simp [isDocLine, hd]
  · unfold isDocLine
    split <;> simp_all

theorem isDocLine_singleton (c : Char) : isDocLine [c] = (c == '/' || c == '!') := by
  unfold isDocLine
  split <;> simp_all

theorem isDocBlock_cons_cons (c d : Char) (t : List Char) :
    isDocBlock (c :: d :: t) = (c == '*' && d != '*' && d != '/' || c == '!') := by
  by_cases hc : c = '*'
  · subst hc
    by_cases hd : d = '*'
    · simp [isDocBlock, hd]
    · by_cases hd' : d = '/' <;> simp [isDocBlock, hd, hd']
  · unfold isDocBlock
    split <;> simp_all

/-- Text that does not make documentation of a comment that it continues. A colon does not, nor does
the end of the text. -/
def Harmless (q : Place) (rest : List Char) : Prop :=
  q = .between ∨ rest = [] ∨ rest.head? = some ':'

theorem Skips.isDocLine_append (h : Skips blank .line s q) (hq : Harmless q rest) :
    isDocLine (s ++ rest) = isDocLine s := by
  rcases rest with _ | ⟨e, rest⟩
  · rw [List.append_nil]
  cases h with
  | newline => rfl
  | line =>
    obtain rfl : e = ':' := by simpa [Harmless] using hq
    rfl
  | @inLine c t _ _ h =>
    rcases t with _ | ⟨d, t⟩
    · cases h
      obtain rfl : e = ':' := by simpa [Harmless] using hq
      rw [List.cons_append, List.nil_append, isDocLine_cons_cons, isDocLine_singleton]
      simp
    · rw [List.cons_append, List.cons_append, isDocLine_cons_cons, isDocLine_cons_cons]

theorem Skips.isDocBlock_append {depth : Nat} (h : Skips blank (.block depth) s q)
    (rest : List Char) : isDocBlock (s ++ rest) = isDocBlock s := by
  cases h with
  | nest => rfl
  | close => rfl
  | unnest => rfl
  | inBlock _ h =>
    obtain ⟨d, t, rfl⟩ := h.exists_cons_of_block
    rw [List.cons_append, List.cons_append, isDocBlock_cons_cons, isDocBlock_cons_cons]

/-! ### Skipping -/

theorem skip_between_cons {c : Char} (hc : c ≠ '/') :
    skip .between (c :: t) = if isGap c then skip .between t else some (c :: t) := by
  rw [skip.eq_def]
  grind

theorem skip_openLine : skip .between ('/' :: '/' :: t) =
    if isDocLine t then some ('/' :: '/' :: t) else skip .line t := rfl

theorem skip_openBlock : skip .between ('/' :: '*' :: t) =
    if isDocBlock t then some ('/' :: '*' :: t) else skip (.block 0) t := rfl

theorem skip_line_cons (c : Char) :
    skip .line (c :: t) = if c == '\n' then skip .between t else skip .line t := rfl

theorem skip_block_of_meets {depth : Nat} {c : Char} (hm : meets c t = false) :
    skip (.block depth) (c :: t) = skip (.block depth) t := by
  rw [skip.eq_def]
  split <;> grind [meets]

/-- What `skip` passes over is skipped. Only a text that ends in a comment is left there. -/
theorem skips_of_skip {r : List Char} (h : skip p t = some r) :
    ∃ s q, t = s ++ r ∧ Skips isGap p s q ∧ (q = .between ∨ r = []) := by
  have harmless {q : Place} {r : List Char} (hq : q = .between ∨ r = []) : Harmless q r :=
    hq.imp_right .inl
  fun_induction skip p t with
  | case1 rest hd => exact ⟨[], _, Option.some.inj h, .between, .inl rfl⟩
  | case2 rest hd ih =>
    obtain ⟨s, q, rfl, hs, hq⟩ := ih h
    rw [hs.isDocLine_append (harmless hq)] at hd
    exact ⟨'/' :: '/' :: s, q, rfl, .openLine (by simpa using hd) hs, hq⟩
  | case3 rest hd => exact ⟨[], _, Option.some.inj h, .between, .inl rfl⟩
  | case4 rest hd ih =>
    obtain ⟨s, q, rfl, hs, hq⟩ := ih h
    rw [hs.isDocBlock_append] at hd
    exact ⟨'/' :: '*' :: s, q, rfl, .openBlock (by simpa using hd) hs, hq⟩
  | case5 c rest _ _ hc ih =>
    obtain ⟨s, q, rfl, hs, hq⟩ := ih h
    exact ⟨c :: s, q, rfl, .gap hc hs, hq⟩
  | case6 c rest => exact ⟨[], _, Option.some.inj h, .between, .inl rfl⟩
  | case7 => exact ⟨[], _, Option.some.inj h, .between, .inl rfl⟩
  | case8 c rest hc ih =>
    obtain ⟨s, q, rfl, hs, hq⟩ := ih h
    exact ⟨c :: s, q, rfl, beq_iff_eq.mp hc ▸ .newline hs, hq⟩
  | case9 c rest hc ih =>
    obtain ⟨s, q, rfl, hs, hq⟩ := ih h
    exact ⟨c :: s, q, rfl, .inLine (by simpa using hc) hs, hq⟩
  | case10 => exact ⟨[], _, Option.some.inj h, .line, .inr (Option.some.inj h).symm⟩
  | case11 depth rest ih =>
    obtain ⟨s, q, rfl, hs, hq⟩ := ih h
    exact ⟨'/' :: '*' :: s, q, rfl, .nest hs, hq⟩
  | case12 rest ih =>
    obtain ⟨s, q, rfl, hs, hq⟩ := ih h
    exact ⟨'*' :: '/' :: s, q, rfl, .close hs, hq⟩
  | case13 depth rest ih =>
    obtain ⟨s, q, rfl, hs, hq⟩ := ih h
    exact ⟨'*' :: '/' :: s, q, rfl, .unnest hs, hq⟩
  | case14 depth c rest h1 h2 h3 ih =>
    obtain ⟨s, q, rfl, hs, hq⟩ := ih h
    refine ⟨c :: s, q, rfl, .inBlock ?_ hs, hq⟩
    obtain ⟨d, s, rfl⟩ := hs.exists_cons_of_block
    have ho : c = '/' → d ≠ '*' := fun hc hd => h1 (s ++ r) hc (by rw [hd]; rfl)
    have hl : c = '*' → d ≠ '/' := by
      intro hc hd
      cases depth with
      | zero => exact h2 (s ++ r) rfl hc (by rw [hd]; rfl)
      | succ depth => exact h3 depth (s ++ r) rfl hc (by rw [hd]; rfl)
    simpa [meets] using ⟨ho, hl⟩
  | case15 => cases h

/-- Skipped text is passed over. -/
theorem skip_append (h : Skips isGap p s q) (hq : Harmless q rest) :
    skip p (s ++ rest) = skip q rest := by
  induction h with
  | between => rfl
  | line => rfl
  | gap hc _ ih => rw [List.cons_append, skip_between_cons (ne_slash_of_isGap hc), if_pos hc, ih hq]
  | openLine hd h ih =>
    rw [← h.isDocLine_append hq] at hd
    rw [List.cons_append, List.cons_append, skip_openLine, hd, if_neg Bool.false_ne_true, ih hq]
  | openBlock hd h ih =>
    rw [← h.isDocBlock_append rest] at hd
    rw [List.cons_append, List.cons_append, skip_openBlock, hd, if_neg Bool.false_ne_true, ih hq]
  | newline _ ih => rw [List.cons_append, skip_line_cons, if_pos (beq_self_eq_true _), ih hq]
  | inLine hc _ ih => rw [List.cons_append, skip_line_cons, if_neg (by simpa using hc), ih hq]
  | nest _ ih => exact ih hq
  | close _ ih => exact ih hq
  | unnest _ ih => exact ih hq
  | inBlock hm h ih =>
    rw [List.cons_append, skip_block_of_meets (by rwa [meets_append h.exists_cons_of_block]), ih hq]

end ClassFields.FieldName
