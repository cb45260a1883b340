import ClassFields.Template

/-!
# Reading templates

A template is text, doubled dollars, references in braces, bare references and dollars that start
nothing (`induction`). The check for missing groups and expansion read these alike but for three
things: what bare names consist of, what may stand in braces, and a brace that is not closed. They
find the same references exactly in the templates without these (`references_eq_lookups_iff`).
-/

namespace ClassFields.Template

open Pattern (isNameChar)
open Unicode (isAlphabetic isDecimalDigit isAlphanumeric)

/-! ## Characters of names -/

theorem toNat_lt_of_isAlpha {c : Char} (h : c.isAlpha) : c.toNat < 128 := by
  have hc : c.isUpper ∨ c.isLower := Bool.or_eq_true_iff.mp h
  have hl : c.toNat ≤ 'z'.toNat := by
    rcases hc with h | h
    · have hz : 'A'.toNat ≤ c.toNat ∧ c.toNat ≤ 'Z'.toNat := of_decide_eq_true h
      exact Nat.le_trans hz.2 (by decide)
    · exact of_decide_eq_true (Bool.and_eq_true_iff.mp h).2
  exact Nat.lt_of_le_of_lt hl (by decide)

theorem isNameChar_of_isPlainNameChar {c : Char} (h : isPlainNameChar c) : isNameChar c := by
  have hc : (c.isAlpha ∨ c.isDigit) ∨ c == '_' :=
    (Bool.or_eq_true_iff.mp h).imp_left Bool.or_eq_true_iff.mp
  simp only [isNameChar, isAlphanumeric, Bool.or_eq_true]
  rcases hc with (ha | hd) | hu
  · rw [isAlphabetic, if_pos (toNat_lt_of_isAlpha ha)]
    exact .inl (.inl (.inl ha))
  · have hl : '0'.toNat ≤ c.toNat := of_decide_eq_true (Bool.and_eq_true_iff.mp hd).1
    have hr : c.toNat ≤ '9'.toNat := of_decide_eq_true (Bool.and_eq_true_iff.mp hd).2
    refine .inl (.inl (.inr (List.any_eq_true.mpr ⟨0x30, List.mem_cons_self, ?_⟩)))
    exact Bool.and_eq_true_iff.mpr ⟨decide_eq_true hl, decide_eq_true (Nat.lt_succ_of_le hr)⟩
  · exact .inr hu

/-- The signs of templates are no characters of names. -/
theorem isNameChar_sign {c : Char} (h : c ∈ ['$', '\x7b', '\x7d']) : isNameChar c = false := by
  have hs : ['$', '\x7b', '\x7d'].all fun c => !isNameChar c := by decide +kernel
  simpa using List.all_eq_true.mp hs c h

theorem isNameChar_dollar : isNameChar '$' = false := isNameChar_sign (by decide)

theorem isNameChar_open : isNameChar '\x7b' = false := isNameChar_sign (by decide)

theorem isNameChar_close : isNameChar '\x7d' = false := isNameChar_sign (by decide)

/-- A text that does not go on with characters of a kind. -/
def Stops (p : Char → Bool) (rest : List Char) : Prop := ∀ c ∈ rest.head?, p c = false

theorem Stops.plain {rest : List Char} (hr : Stops isNameChar rest) : Stops isPlainNameChar rest := by
  intro c hc
  refine Bool.eq_false_iff.mpr fun hp => ?_
  have hx := hr c hc
  rw [isNameChar_of_isPlainNameChar hp] at hx
  cases hx

theorem Stops.append {p : Char → Bool} {text rest : List Char} (ht : Stops p text)
    (hr : Stops p rest) : Stops p (text ++ rest) := by
  cases text with
  | nil => exact hr
  | cons c text => exact ht

theorem not_mem_of_forall {p : Char → Bool} {c : Char} {name : List Char} (hc : p c = false)
    (hn : ∀ d ∈ name, p d) : c ∉ name := by
  intro hm
  rw [hn c hm] at hc
  cases hc

/-- The longest run of characters of a kind at the front of a text. -/
theorem exists_run (p : Char → Bool) (text : List Char) :
    ∃ name rest, text = name ++ rest ∧ (∀ c ∈ name, p c) ∧ Stops p rest := by
  induction text with
  | nil => exact ⟨[], [], rfl, nofun, nofun⟩
  | cons c text ih =>
    by_cases hc : p c
    · obtain ⟨name, rest, rfl, hn, hr⟩ := ih
      exact ⟨c :: name, rest, rfl, List.forall_mem_cons.mpr ⟨hc, hn⟩, hr⟩
    · refine ⟨[], c :: text, rfl, nofun, ?_⟩
      rintro d ⟨⟩
      exact eq_false_of_ne_true hc

/-! ## Segments -/

/-- Templates by what comes first: text, a doubled dollar, a dollar that starts nothing, a bare name,
a brace that is closed, or one that is not. What follows a brace may also be read as text. -/
theorem induction {motive : List Char → Prop} (nil : motive [])
    (text : ∀ c rest, c ≠ '$' → motive rest → motive (c :: rest))
    (dollar : ∀ rest, motive rest → motive ('$' :: '$' :: rest))
    (lone : ∀ rest, (∀ c ∈ rest.head?, c ≠ '$' ∧ c ≠ '\x7b' ∧ isNameChar c = false) →
      motive rest → motive ('$' :: rest))
    (bare : ∀ name rest, name ≠ [] → (∀ c ∈ name, isNameChar c) → Stops isNameChar rest →
      motive rest → motive ('$' :: (name ++ rest)))
    (braced : ∀ inside rest, '\x7d' ∉ inside → motive (inside ++ '\x7d' :: rest) → motive rest →
      motive ('$' :: '\x7b' :: (inside ++ '\x7d' :: rest)))
    (unclosed : ∀ rest, '\x7d' ∉ rest → motive rest → motive ('$' :: '\x7b' :: rest))
    (template : List Char) : motive template := by
  induction hn : template.length using Nat.strongRecOn generalizing template with
  | ind n ih =>
    subst hn
    rcases template with _ | ⟨c, rest⟩
    · exact nil
    by_cases hc : c = '$'
    · subst hc
      rcases rest with _ | ⟨d, rest⟩
      · exact lone [] nofun nil
      by_cases hd : d = '$'
      · subst hd
        exact dollar rest (ih _ (Nat.lt_succ_of_lt (Nat.lt_succ_self _)) rest rfl)
      by_cases hb : d = '\x7b'
      · subst hb
        by_cases hm : '\x7d' ∈ rest
        · obtain ⟨inside, after, rfl, hi⟩ := List.eq_append_cons_of_mem hm
          have hl : after.length < (inside ++ '\x7d' :: after).length := by
            rw [List.length_append, List.length_cons]
            omega
          have hs : (inside ++ '\x7d' :: after).length <
              ('$' :: '\x7b' :: (inside ++ '\x7d' :: after)).length :=
            Nat.lt_succ_of_lt (Nat.lt_succ_self _)
          exact braced inside after hi (ih _ hs _ rfl) (ih _ (Nat.lt_trans hl hs) after rfl)
        · exact unclosed rest hm (ih _ (Nat.lt_succ_of_lt (Nat.lt_succ_self _)) rest rfl)
      by_cases hx : isNameChar d
      · obtain ⟨name, after, hs, hn, ha⟩ := exists_run isNameChar rest
        have hl : after.length ≤ rest.length := by simp [hs]
        rw [hs, ← List.cons_append]
        exact bare (d :: name) after (List.cons_ne_nil d name) (List.forall_mem_cons.mpr ⟨hx, hn⟩) ha
          (ih _ (by simp; omega) after rfl)
      · refine lone (d :: rest) ?_ (ih _ (by simp) (d :: rest) rfl)
        rintro e ⟨⟩
        exact ⟨hd, hb, eq_false_of_ne_true hx⟩
    · exact text c rest hc (ih _ (by simp) rest rfl)

/-! ## The check -/

section

attribute [local simp] referencesFrom

variable {c : Char} {name inside rest : List Char}

theorem references_text (hc : c ≠ '$') : references (c :: rest) = references rest :=
  if_neg (mt beq_iff_eq.mp hc)

theorem references_dollar : references ('$' :: '$' :: rest) = references rest := rfl

theorem references_lone
    (hr : ∀ c ∈ rest.head?, c ≠ '$' ∧ c ≠ '\x7b' ∧ isPlainNameChar c = false) :
    references ('$' :: rest) = references rest := by
  rcases rest with _ | ⟨c, rest⟩
  · rfl
  obtain ⟨hd, hb, hp⟩ := hr c rfl
  show referencesFrom .dollar (c :: rest) = referencesFrom .text (c :: rest)
  simp [hd, hb, hp]

theorem references_lone_of_names
    (hr : ∀ c ∈ rest.head?, c ≠ '$' ∧ c ≠ '\x7b' ∧ isNameChar c = false) :
    references ('$' :: rest) = references rest := by
  have hs : Stops isNameChar rest := fun c hc => (hr c hc).2.2
  exact references_lone fun c hc => ⟨(hr c hc).1, (hr c hc).2.1, hs.plain c hc⟩

theorem references_skip (hn : '$' ∉ name) : references (name ++ rest) = references rest := by
  induction name with
  | nil => rfl
  | cons c name ih =>
    obtain ⟨hc, hn⟩ := not_or.mp (mt List.mem_cons.mpr hn)
    rw [List.cons_append, references_text (Ne.symm hc), ih hn]

/-- In a bare name, up to where it ends. -/
theorem referencesFrom_bare {front : List Char} (hn : ∀ c ∈ name, isPlainNameChar c)
    (hr : Stops isPlainNameChar rest) :
    referencesFrom (.bare front) (name ++ rest) = (front.reverse ++ name) :: references rest := by
  induction name generalizing front with
  | nil =>
    rcases rest with _ | ⟨c, rest⟩
    · simp [references]
    · have hc := hr c rfl
      simp [references, hc]
  | cons c name ih =>
    obtain ⟨hc, hn⟩ := List.forall_mem_cons.mp hn
    rw [List.cons_append, referencesFrom, if_pos hc, ih hn]
    simp

theorem references_bare (h : name ≠ []) (hn : ∀ c ∈ name, isPlainNameChar c)
    (hr : Stops isPlainNameChar rest) :
    references ('$' :: (name ++ rest)) = name :: references rest := by
  obtain ⟨c, name, rfl⟩ := List.exists_cons_of_ne_nil h
  obtain ⟨hc, hn⟩ := List.forall_mem_cons.mp hn
  have hd : c ≠ '$' := by
    rintro rfl
    exact absurd hc (by decide)
  have hb : c ≠ '\x7b' := by
    rintro rfl
    exact absurd hc (by decide)
  show referencesFrom .dollar (c :: (name ++ rest)) = _
  simp only [referencesFrom, beq_eq_false_iff_ne.mpr hd, beq_eq_false_iff_ne.mpr hb, hc,
    Bool.false_eq_true, if_false, if_true]
  exact referencesFrom_bare hn hr

theorem referencesFrom_braced {front : List Char} (hi : '\x7d' ∉ inside) :
    referencesFrom (.braced front) (inside ++ '\x7d' :: rest) =
      (front.reverse ++ inside) :: references rest := by
  induction inside generalizing front with
  | nil => simp [references]
  | cons c inside ih =>
    obtain ⟨hc, hi⟩ := not_or.mp (mt List.mem_cons.mpr hi)
    rw [List.cons_append, referencesFrom, if_neg (by simpa using Ne.symm hc), ih hi]
    simp

theorem references_braced (hi : '\x7d' ∉ inside) :
    references ('$' :: '\x7b' :: (inside ++ '\x7d' :: rest)) = inside :: references rest :=
  referencesFrom_braced hi

theorem referencesFrom_unclosed {front : List Char} (hr : '\x7d' ∉ rest) :
    referencesFrom (.braced front) rest = [] := by
  induction rest generalizing front with
  | nil => rfl
  | cons c rest ih =>
    obtain ⟨hc, hr⟩ := not_or.mp (mt List.mem_cons.mpr hr)
    rw [referencesFrom, if_neg (by simpa using Ne.symm hc), ih hr]

theorem references_unclosed (hr : '\x7d' ∉ rest) : references ('$' :: '\x7b' :: rest) = [] :=
  referencesFrom_unclosed hr

end

/-! ## Expansion -/

/-- The group that a piece takes the text of. -/
def Piece.name? : Piece → Option (List Char)
  | char _ => none
  | group name => some name

@[simp] theorem filterMap_char (c : Char) (pieces : List Piece) :
    (.char c :: pieces).filterMap Piece.name? = pieces.filterMap Piece.name? := rfl

@[simp] theorem filterMap_group (name : List Char) (pieces : List Piece) :
    (.group name :: pieces).filterMap Piece.name? = name :: pieces.filterMap Piece.name? := rfl

/-- The groups that expansion looks up, in order and with repeats. -/
def lookups (template : List Char) : List (List Char) := (pieces template).filterMap Piece.name?

/-- What may stand between braces for expansion to look it up. -/
def IsName (name : List Char) : Prop := name ≠ [] ∧ ∀ c ∈ name, isNameChar c

section

attribute [local simp] piecesFrom

variable {c : Char} {name rest : List Char}

theorem lookups_text (hc : c ≠ '$') : lookups (c :: rest) = lookups rest := by
  simp [lookups, pieces, hc]

theorem lookups_skip (hn : '$' ∉ name) : lookups (name ++ rest) = lookups rest := by
  induction name with
  | nil => rfl
  | cons c name ih =>
    obtain ⟨hc, hn⟩ := not_or.mp (mt List.mem_cons.mpr hn)
    rw [List.cons_append, lookups_text (Ne.symm hc), ih hn]

theorem lookups_dollar : lookups ('$' :: '$' :: rest) = lookups rest := rfl

theorem lookups_lone (hr : ∀ c ∈ rest.head?, c ≠ '$' ∧ c ≠ '\x7b' ∧ isNameChar c = false) :
    lookups ('$' :: rest) = lookups rest := by
  rcases rest with _ | ⟨c, rest⟩
  · rfl
  obtain ⟨hd, hb, hx⟩ := hr c rfl
  rw [lookups_text hd]
  simp [lookups, pieces, hd, hb, hx]

theorem filterMap_piecesFrom_bare {front : List Char} (hn : ∀ c ∈ name, isNameChar c)
    (hr : Stops isNameChar rest) :
    (piecesFrom (.bare front) (name ++ rest)).filterMap Piece.name? =
      (front.reverse ++ name) :: lookups rest := by
  induction name generalizing front with
  | nil =>
    rcases rest with _ | ⟨c, rest⟩
    · simp [lookups, pieces]
    · have hc := hr c rfl
      by_cases hd : c = '$'
      · subst hd
        simp [lookups, pieces, hc]
      · simp [lookups, pieces, hc, hd]
  | cons c name ih =>
    obtain ⟨hc, hn⟩ := List.forall_mem_cons.mp hn
    rw [List.cons_append, piecesFrom, if_pos hc, ih hn]
    simp

theorem lookups_bare (h : IsName name) (hr : Stops isNameChar rest) :
    lookups ('$' :: (name ++ rest)) = name :: lookups rest := by
  obtain ⟨c, name, rfl⟩ := List.exists_cons_of_ne_nil h.1
  obtain ⟨hc, hn⟩ := List.forall_mem_cons.mp h.2
  have hd : c ≠ '$' := by
    rintro rfl
    exact not_mem_of_forall isNameChar_dollar h.2 List.mem_cons_self
  have hb : c ≠ '\x7b' := by
    rintro rfl
    exact not_mem_of_forall isNameChar_open h.2 List.mem_cons_self
  have hs : lookups ('$' :: c :: (name ++ rest)) =
      (piecesFrom (.bare [c]) (name ++ rest)).filterMap Piece.name? := by
    simp [lookups, pieces, hd, hb, hc]
  exact hs.trans (filterMap_piecesFrom_bare hn hr)

theorem filterMap_brokenBrace : (brokenBrace name).filterMap Piece.name? = [] := by
  simp [brokenBrace, List.filterMap_eq_nil_iff, Piece.name?]

theorem piecesFrom_braced {front : List Char} (hn : ∀ c ∈ name, isNameChar c) :
    piecesFrom (.braced front) (name ++ rest) = piecesFrom (.braced (name.reverse ++ front)) rest := by
  induction name generalizing front with
  | nil => rfl
  | cons c name ih =>
    obtain ⟨hc, hn⟩ := List.forall_mem_cons.mp hn
    have he : c ≠ '\x7d' := by
      rintro rfl
      rw [isNameChar_close] at hc
      cases hc
    rw [List.cons_append, piecesFrom, if_neg (by simp [he]), if_pos hc, ih hn]
    simp

theorem lookups_braced (h : IsName name) :
    lookups ('$' :: '\x7b' :: (name ++ '\x7d' :: rest)) = name :: lookups rest := by
  have hs : lookups ('$' :: '\x7b' :: (name ++ '\x7d' :: rest)) =
      (piecesFrom (.braced []) (name ++ '\x7d' :: rest)).filterMap Piece.name? := rfl
  rw [hs, piecesFrom_braced h.2, piecesFrom, if_pos (by simp [h.1])]
  simp [lookups, pieces]

/-- Where what follows an opening brace is no name that is closed, all of it is read again. -/
theorem lookups_broken (hn : ∀ c ∈ name, isNameChar c) (hr : Stops isNameChar rest)
    (h : name = [] ∨ rest.head? ≠ some '\x7d') :
    lookups ('$' :: '\x7b' :: (name ++ rest)) = lookups (name ++ rest) := by
  have hd : '$' ∉ name := not_mem_of_forall isNameChar_dollar hn
  have hs : lookups ('$' :: '\x7b' :: (name ++ rest)) =
      (piecesFrom (.braced []) (name ++ rest)).filterMap Piece.name? := rfl
  rw [hs, piecesFrom_braced hn, lookups_skip hd]
  rcases rest with _ | ⟨c, rest⟩
  · simp [filterMap_brokenBrace, lookups, pieces]
  · have hc := hr c rfl
    have he : (c == '\x7d' && !(name.reverse ++ []).isEmpty) = false := by
      rcases h with rfl | h
      · simp
      · have : c ≠ '\x7d' := fun he => h (congrArg some he)
        simp [this]
    rw [piecesFrom, he, hc]
    by_cases hd : c = '$' <;> simp [hd, filterMap_brokenBrace, lookups, pieces]

theorem lookups_unclosed (hr : '\x7d' ∉ rest) :
    lookups ('$' :: '\x7b' :: rest) = lookups rest := by
  obtain ⟨name, rest, rfl, hn, hs⟩ := exists_run isNameChar rest
  refine lookups_broken hn hs (.inr fun he => hr ?_)
  exact List.mem_append_right name (List.mem_of_mem_head? he)

theorem lookups_braced_text (hi : '\x7d' ∉ name) (h : ¬IsName name) :
    lookups ('$' :: '\x7b' :: (name ++ '\x7d' :: rest)) = lookups (name ++ '\x7d' :: rest) := by
  obtain ⟨run, more, rfl, hn, hs⟩ := exists_run isNameChar name
  rw [List.append_assoc]
  rcases more with _ | ⟨c, more⟩
  · have he : run = [] := Classical.byContradiction fun he => h (by simpa using ⟨he, hn⟩)
    exact lookups_broken hn (by rintro _ ⟨⟩; exact isNameChar_close) (.inl he)
  · refine lookups_broken hn (by rintro _ ⟨⟩; exact hs c rfl) (.inr ?_)
    rintro ⟨⟩
    exact hi (by simp)

end

/-- Expansion looks up nothing but names. -/
theorem isName_of_mem_lookups {template : List Char} : ∀ name ∈ lookups template, IsName name := by
  induction template using induction with
  | nil => nofun
  | text c rest hc ih => rwa [lookups_text hc]
  | dollar rest ih => rwa [lookups_dollar]
  | lone rest hr ih => rwa [lookups_lone hr]
  | bare name rest h hn hr ih =>
    rw [lookups_bare ⟨h, hn⟩ hr]
    exact List.forall_mem_cons.mpr ⟨⟨h, hn⟩, ih⟩
  | braced inside rest hi whole ih =>
    by_cases h : IsName inside
    · rw [lookups_braced h]
      exact List.forall_mem_cons.mpr ⟨h, ih⟩
    · rwa [lookups_braced_text hi h]
  | unclosed rest hr ih => rwa [lookups_unclosed hr]

/-! ## Where the two agree -/

/-- Templates in which no bare reference goes on with a letter or digit that is not ASCII, closed
braces after a dollar hold names, and no reference follows a brace that is not closed. -/
inductive Clear : List Char → Prop where
  | nil : Clear []
  | text {c rest} : c ≠ '$' → Clear rest → Clear (c :: rest)
  | dollar {rest} : Clear rest → Clear ('$' :: '$' :: rest)
  | lone {rest} : (∀ c ∈ rest.head?, c ≠ '$' ∧ c ≠ '\x7b' ∧ isNameChar c = false) → Clear rest →
      Clear ('$' :: rest)
  | bare {name rest} : name ≠ [] → (∀ c ∈ name, isPlainNameChar c) → Stops isNameChar rest →
      Clear rest → Clear ('$' :: (name ++ rest))
  | braced {name rest} : IsName name → Clear rest →
      Clear ('$' :: '\x7b' :: (name ++ '\x7d' :: rest))
  | unclosed {rest} : '\x7d' ∉ rest → lookups rest = [] → Clear ('$' :: '\x7b' :: rest)

theorem Clear.references_eq {template : List Char} (h : Clear template) :
    references template = lookups template := by
  induction h with
  | nil => rfl
  | text hc _ ih => rw [references_text hc, lookups_text hc, ih]
  | dollar _ ih => rw [references_dollar, lookups_dollar, ih]
  | lone hr _ ih => rw [references_lone_of_names hr, lookups_lone hr, ih]
  | bare h hn hr _ ih =>
    rw [references_bare h hn hr.plain,
      lookups_bare ⟨h, fun c hc => isNameChar_of_isPlainNameChar (hn c hc)⟩ hr, ih]
  | braced h _ ih =>
    rw [references_braced (not_mem_of_forall isNameChar_close h.2), lookups_braced h, ih]
  | unclosed hr hl => rw [references_unclosed hr, lookups_unclosed hr, hl]

/-- A bare name that is not plain is cut short by the check, or passed over. -/
theorem references_cut {name rest : List Char} (hn : ∀ c ∈ name, isNameChar c)
    (hp : ¬∀ c ∈ name, isPlainNameChar c) :
    references ('$' :: (name ++ rest)) = references rest ∨
      ∃ front, front ≠ name ∧
        references ('$' :: (name ++ rest)) = front :: references rest := by
  obtain ⟨run, more, rfl, hrun, hs⟩ := exists_run isPlainNameChar name
  have hd : '$' ∉ run ++ more := not_mem_of_forall isNameChar_dollar hn
  have hm : more ≠ [] := by
    rintro rfl
    exact hp (by simpa using hrun)
  obtain ⟨c, more, rfl⟩ := List.exists_cons_of_ne_nil hm
  have hc : isPlainNameChar c = false := hs c rfl
  by_cases he : run = []
  · subst he
    refine .inl ?_
    rw [references_lone, references_skip hd]
    rintro _ ⟨⟩
    refine ⟨fun h => hd (by simp [h]), ?_, hc⟩
    rintro rfl
    exact not_mem_of_forall isNameChar_open hn (by simp)
  · refine .inr ⟨run, by simp, ?_⟩
    rw [List.append_assoc, references_bare he hrun (by rintro _ ⟨⟩; exact hc),
      references_skip (fun h => hd (List.mem_append_right run h))]

/-- A check that finds nothing but names finds no more references than expansion. -/
theorem length_references_le {template : List Char} (h : ∀ name ∈ references template, IsName name) :
    (references template).length ≤ (lookups template).length := by
  induction template using induction with
  | nil => exact Nat.le_refl 0
  | text c rest hc ih =>
    rw [references_text hc] at h ⊢
    rw [lookups_text hc]
    exact ih h
  | dollar rest ih =>
    rw [references_dollar] at h ⊢
    rw [lookups_dollar]
    exact ih h
  | lone rest hr ih =>
    rw [references_lone_of_names hr] at h ⊢
    rw [lookups_lone hr]
    exact ih h
  | bare name rest hne hn hr ih =>
    rw [lookups_bare ⟨hne, hn⟩ hr]
    by_cases hp : ∀ c ∈ name, isPlainNameChar c
    · rw [references_bare hne hp hr.plain] at h ⊢
      exact Nat.succ_le_succ (ih (List.forall_mem_cons.mp h).2)
    · rcases references_cut hn hp with hc | ⟨front, _, hc⟩
      · rw [hc] at h ⊢
        exact Nat.le_succ_of_le (ih h)
      · rw [hc] at h ⊢
        exact Nat.succ_le_succ (ih (List.forall_mem_cons.mp h).2)
  | braced inside rest hi _ ih =>
    rw [references_braced hi] at h ⊢
    obtain ⟨hn, h⟩ := List.forall_mem_cons.mp h
    rw [lookups_braced hn]
    exact Nat.succ_le_succ (ih h)
  | unclosed rest hr _ =>
    rw [references_unclosed hr]
    exact Nat.zero_le _

theorem clear_of_references_eq {template : List Char} (h : references template = lookups template) :
    Clear template := by
  induction template using induction with
  | nil => exact .nil
  | text c rest hc ih =>
    rw [references_text hc, lookups_text hc] at h
    exact .text hc (ih h)
  | dollar rest ih =>
    rw [references_dollar, lookups_dollar] at h
    exact .dollar (ih h)
  | lone rest hr ih =>
    rw [references_lone_of_names hr, lookups_lone hr] at h
    exact .lone hr (ih h)
  | bare name rest hne hn hr ih =>
    rw [lookups_bare ⟨hne, hn⟩ hr] at h
    by_cases hp : ∀ c ∈ name, isPlainNameChar c
    · rw [references_bare hne hp hr.plain] at h
      exact .bare hne hp hr (ih (List.cons.inj h).2)
    rcases references_cut hn hp with hc | ⟨front, hf, hc⟩
    · -- the check has passed the name over, so it would have to find one more in the rest
      rw [hc] at h
      have hs : ∀ name ∈ references rest, IsName name := by
        rw [h]
        exact List.forall_mem_cons.mpr ⟨⟨hne, hn⟩, isName_of_mem_lookups⟩
      have hl := length_references_le hs
      rw [h, List.length_cons] at hl
      omega
    · rw [hc] at h
      exact absurd (List.cons.inj h).1 hf
  | braced inside rest hi _ ih =>
    rw [references_braced hi] at h
    have hn : IsName inside := isName_of_mem_lookups inside (h ▸ List.mem_cons_self)
    rw [lookups_braced hn] at h
    exact .braced hn (ih (List.cons.inj h).2)
  | unclosed rest hr _ =>
    rw [references_unclosed hr, lookups_unclosed hr] at h
    exact .unclosed hr h.symm

/-- The check and expansion find the same references exactly in the clear templates. -/
theorem references_eq_lookups_iff {template : List Char} :
    references template = lookups template ↔ Clear template :=
  ⟨clear_of_references_eq, Clear.references_eq⟩

instance : DecidablePred Clear := fun _ => decidable_of_iff _ references_eq_lookups_iff

end ClassFields.Template
