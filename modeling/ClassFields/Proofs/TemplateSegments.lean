import ClassFields.Proofs.TemplateReading

/-!
# Templates from segments

A template is written segment by segment: text, doubled dollars, references in braces, bare
references and dollars that start nothing. The check reads back from the text what the segments refer
to (`references_render`). Every template is written so, up to a brace that is not closed, where the
check ends (`references_eq_iff`).
-/

namespace ClassFields.Template

open Pattern (isNameChar)

/-- A part of a template. -/
inductive Segment where
  | text (chars : List Char)
  | dollar
  | braced (name : List Char)
  | bare (name : List Char)
  /-- A dollar that starts nothing. -/
  | lone
  deriving DecidableEq, Repr

namespace Segment

/-- A segment as it is written. -/
def written : Segment → List Char
  | text chars => chars
  | dollar => ['$', '$']
  | braced name => '$' :: '\x7b' :: (name ++ ['\x7d'])
  | bare name => '$' :: name
  | lone => ['$']

/-- The group that a segment refers to. -/
def name? : Segment → Option (List Char)
  | braced name => some name
  | bare name => some name
  | _ => none

/-- Whether a segment can stand in front of a text, and be told from it. A bare name is not to go on
there, and a dollar that starts nothing is not to start anything there. -/
def FitsBefore : Segment → List Char → Prop
  | text chars, _ => '$' ∉ chars
  | dollar, _ => True
  | braced name, _ => '\x7d' ∉ name
  | bare name, rest => name ≠ [] ∧ (∀ c ∈ name, isPlainNameChar c) ∧ Stops isPlainNameChar rest
  | lone, rest => ∀ c ∈ rest.head?, c ≠ '$' ∧ c ≠ '\x7b' ∧ isPlainNameChar c = false

instance (segment : Segment) (rest : List Char) : Decidable (segment.FitsBefore rest) :=
  match segment with
  | text chars => inferInstanceAs (Decidable ('$' ∉ chars))
  | dollar => .isTrue trivial
  | braced name => inferInstanceAs (Decidable ('\x7d' ∉ name))
  | bare name =>
    have : Decidable (∀ c ∈ name, isPlainNameChar c) := List.decidableBAll _ name
    have : Decidable (Stops isPlainNameChar rest) := Option.decidableForallMem rest.head?
    inferInstanceAs (Decidable (_ ∧ _ ∧ _))
  | lone => Option.decidableForallMem rest.head?

end Segment

/-- Segments as they are written one after another. -/
def render (segments : List Segment) : List Char := segments.flatMap Segment.written

/-- Segments each of which can stand in front of those after it and a text at the end. -/
def FitBefore (rest : List Char) : List Segment → Prop
  | [] => True
  | segment :: segments => segment.FitsBefore (render segments ++ rest) ∧ FitBefore rest segments

instance decidableFitBefore (rest : List Char) :
    (segments : List Segment) → Decidable (FitBefore rest segments)
  | [] => .isTrue trivial
  | _ :: segments =>
    have := decidableFitBefore rest segments
    inferInstanceAs (Decidable (_ ∧ _))

/-! ## Reading back -/

theorem references_nil : references [] = [] := rfl

theorem references_segment {segment : Segment} {rest : List Char} (h : segment.FitsBefore rest) :
    references (segment.written ++ rest) = segment.name?.toList ++ references rest := by
  cases segment with
  | text chars => exact references_skip h
  | dollar => exact references_dollar
  | braced name =>
    have hw : (Segment.braced name).written ++ rest = '$' :: '\x7b' :: (name ++ '\x7d' :: rest) := by
      simp [Segment.written]
    rw [hw, references_braced h]
    rfl
  | bare name =>
    obtain ⟨hne, hn, hr⟩ := h
    exact references_bare hne hn hr
  | lone => exact references_lone h

theorem references_render_append {segments : List Segment} {rest : List Char}
    (h : FitBefore rest segments) : references (render segments ++ rest) =
      segments.filterMap Segment.name? ++ references rest := by
  induction segments with
  | nil => rfl
  | cons segment segments ih =>
    obtain ⟨hs, h⟩ := h
    have hr : render (segment :: segments) ++ rest =
        segment.written ++ (render segments ++ rest) := by
      rw [render, List.flatMap_cons, List.append_assoc]
      rfl
    rw [hr, references_segment hs, ih h, ← List.append_assoc]
    cases hn : segment.name? <;> simp [hn]

/-- The check undoes the writing of segments. -/
theorem references_render {segments : List Segment} (h : FitBefore [] segments) :
    references (render segments) = segments.filterMap Segment.name? := by
  have hr := references_render_append h
  rwa [references_nil, List.append_nil, List.append_nil] at hr

/-- Segments of every kind, with dollars next to each other and in braces. -/
def mixed : List Segment :=
  [.text ['a'], .dollar, .bare ['1'], .dollar, .text ['b'], .braced ['$', '\x7b'], .lone,
    .text ['-'], .bare ['x', '_'], .braced [], .bare ['1'], .lone]

theorem references_render_mixed :
    render mixed = "a$$$1$$b$\x7b$\x7b\x7d$-$x_$\x7b\x7d$1$".toList ∧ FitBefore [] mixed ∧
      references (render mixed) = [['1'], ['$', '\x7b'], ['x', '_'], [], ['1']] :=
  have h : FitBefore [] mixed := by decide
  ⟨by decide, h, references_render h⟩

/-! ## Every template -/

/-- Where the check ends: at the end of a template, or at a brace that is not closed. -/
def IsEnd (rest : List Char) : Prop :=
  rest = [] ∨ ∃ inside, rest = '$' :: '\x7b' :: inside ∧ '\x7d' ∉ inside

theorem references_of_isEnd {rest : List Char} (h : IsEnd rest) : references rest = [] := by
  rcases h with rfl | ⟨inside, rfl, hi⟩
  · exact references_nil
  · exact references_unclosed hi

theorem exists_segments (template : List Char) : ∃ segments rest,
    template = render segments ++ rest ∧ FitBefore rest segments ∧ IsEnd rest := by
  induction template using induction with
  | nil => exact ⟨[], [], rfl, trivial, .inl rfl⟩
  | text c rest hc ih =>
    obtain ⟨segments, last, rfl, hf, he⟩ := ih
    exact ⟨.text [c] :: segments, last, rfl, ⟨by simpa [Segment.FitsBefore] using hc.symm, hf⟩, he⟩
  | dollar rest ih =>
    obtain ⟨segments, last, rfl, hf, he⟩ := ih
    exact ⟨.dollar :: segments, last, rfl, ⟨trivial, hf⟩, he⟩
  | lone rest hr ih =>
    obtain ⟨segments, last, rfl, hf, he⟩ := ih
    have hs : Stops isNameChar (render segments ++ last) := fun c hc => (hr c hc).2.2
    exact ⟨.lone :: segments, last, rfl,
      ⟨fun c hc => ⟨(hr c hc).1, (hr c hc).2.1, hs.plain c hc⟩, hf⟩, he⟩
  | bare name rest hne hn hr ih =>
    obtain ⟨segments, last, rfl, hf, he⟩ := ih
    have hd : '$' ∉ name := not_mem_of_forall isNameChar_dollar hn
    -- the name as expansion sees it goes on as text after the name as the check sees it
    obtain ⟨run, more, rfl, hrun, hs⟩ := exists_run isPlainNameChar name
    have hm : (Segment.text more).FitsBefore (render segments ++ last) :=
      fun h => hd (List.mem_append_right run h)
    by_cases hrn : run = []
    · subst hrn
      obtain ⟨c, more, rfl⟩ := List.exists_cons_of_ne_nil hne
      have hl : Segment.lone.FitsBefore (render (.text (c :: more) :: segments) ++ last) := by
        rintro _ ⟨⟩
        refine ⟨fun h => hd (by simp [h]), ?_, hs c rfl⟩
        rintro rfl
        exact not_mem_of_forall isNameChar_open hn (by simp)
      exact ⟨.lone :: .text (c :: more) :: segments, last, by simp [render, Segment.written],
        ⟨hl, hm, hf⟩, he⟩
    · have hb : Stops isPlainNameChar (render (.text more :: segments) ++ last) := by
        simpa [render, Segment.written] using hs.append hr.plain
      exact ⟨.bare run :: .text more :: segments, last, by simp [render, Segment.written],
        ⟨⟨hrn, hrun, hb⟩, hm, hf⟩, he⟩
  | braced inside rest hi _ ih =>
    obtain ⟨segments, last, rfl, hf, he⟩ := ih
    exact ⟨.braced inside :: segments, last, by simp [render, Segment.written], ⟨hi, hf⟩, he⟩
  | unclosed rest hr _ => exact ⟨[], '$' :: '\x7b' :: rest, rfl, trivial, .inr ⟨rest, rfl, hr⟩⟩

/-- The references of a template are those of its segments, for every way to write it as segments up to
a brace that is not closed. There is always one. -/
theorem references_eq_iff {template : List Char} {names : List (List Char)} :
    references template = names ↔ ∃ segments rest, template = render segments ++ rest ∧
      FitBefore rest segments ∧ IsEnd rest ∧ segments.filterMap Segment.name? = names := by
  constructor
  · rintro rfl
    obtain ⟨segments, rest, rfl, hf, he⟩ := exists_segments template
    refine ⟨segments, rest, rfl, hf, he, ?_⟩
    rw [references_render_append hf, references_of_isEnd he, List.append_nil]
  · rintro ⟨segments, rest, rfl, hf, he, rfl⟩
    rw [references_render_append hf, references_of_isEnd he, List.append_nil]

end ClassFields.Template
