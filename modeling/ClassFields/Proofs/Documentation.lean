import Mathlib.Data.List.Induction
import ClassFields.Proofs.DocumentedNames
import ClassFields.Proofs.FirstProblem
import ClassFields.Proofs.Readback

/-!
# The documentation of fields

The documentation of a field is made of the lines of its occurrences, without those that are there
before (`firstOccurrences_eq`). What a module says of a class is all that its text and the check of
the class depend on (`emit_congr`, `validate_congr`), so occurrences that add no line do not matter
(`ClassRecord.Unseen`). The lines can be read back from the documentation, unless there are line
breaks within them (`docLines_inj`).
-/

namespace ClassFields

namespace GeneratedModule

/-! ## Lines without repeats -/

/-- The lines of a list that are not the same as a line before them. -/
def withoutRepeats (lines : List String) : List String :=
  (lines.zipIdx.filter fun place => place.1 ∉ lines.take place.2).map Prod.fst

variable {lines u v : List String} {line : String}

theorem mem_firstOccurrences : line ∈ firstOccurrences lines ↔ line ∈ lines := by
  refine ⟨mem_of_mem_firstOccurrences, fun h => ?_⟩
  induction lines with
  | nil => cases h
  | cons first rest ih =>
    rw [firstOccurrences, List.mem_cons, List.mem_filter, bne_iff_ne]
    by_cases he : line = first
    · exact .inl he
    · exact .inr ⟨ih ((List.mem_cons.mp h).resolve_left he), he⟩

/-- A line at the end is left out if it is there before. -/
theorem firstOccurrences_concat (lines : List String) (line : String) :
    firstOccurrences (lines ++ [line]) =
      if line ∈ lines then firstOccurrences lines else firstOccurrences lines ++ [line] := by
  induction lines with
  | nil => rfl
  | cons first rest ih =>
    rw [List.cons_append, firstOccurrences, ih, firstOccurrences]
    by_cases hr : line ∈ rest
    · rw [if_pos hr, if_pos (List.mem_cons_of_mem first hr)]
    rw [if_neg hr, List.filter_append, List.filter_cons, List.filter_nil]
    by_cases he : line = first
    · rw [if_pos (List.mem_cons.mpr (.inl he)), if_neg (by simp [he]), List.append_nil]
    · rw [if_pos (bne_iff_ne.mpr he), if_neg (by simp [he, hr]), List.cons_append]

theorem withoutRepeats_concat (lines : List String) (line : String) :
    withoutRepeats (lines ++ [line]) =
      if line ∈ lines then withoutRepeats lines else withoutRepeats lines ++ [line] := by
  have hf : lines.zipIdx.filter (fun place => place.1 ∉ (lines ++ [line]).take place.2) =
      lines.zipIdx.filter fun place => place.1 ∉ lines.take place.2 := by
    refine List.filter_congr fun place hp => ?_
    rw [List.take_append_of_le_length (Nat.le_of_lt (List.snd_lt_of_mem_zipIdx hp))]
  unfold withoutRepeats
  rw [List.zipIdx_append, List.filter_append, List.map_append, hf, List.zipIdx_singleton,
    List.filter_cons, List.filter_nil, Nat.zero_add, List.take_left]
  by_cases h : line ∈ lines
  · rw [if_pos h, if_neg (by simp [h]), List.map_nil, List.append_nil]
  · rw [if_neg h, if_pos (by simp [h]), List.map_singleton]

theorem firstOccurrences_eq (lines : List String) :
    firstOccurrences lines = withoutRepeats lines := by
  induction lines using List.reverseRecOn with
  | nil => rfl
  | append_singleton lines line ih => rw [firstOccurrences_concat, withoutRepeats_concat, ih]

/-- A line that is there before can be left out. -/
theorem firstOccurrences_insert (h : line ∈ u) :
    firstOccurrences (u ++ line :: v) = firstOccurrences (u ++ v) := by
  induction v using List.reverseRecOn with
  | nil => rw [firstOccurrences_concat, if_pos h, List.append_nil]
  | append_singleton v last ih =>
    rw [← List.cons_append, ← List.append_assoc, ← List.append_assoc, firstOccurrences_concat,
      firstOccurrences_concat, ih]
    have hm : last ∈ u ++ line :: v ↔ last ∈ u ++ v := by
      simp only [List.mem_append, List.mem_cons]
      refine ⟨?_, Or.imp_right .inr⟩
      rintro (hl | rfl | hl)
      · exact .inl hl
      · exact .inl h
      · exact .inr hl
    simp only [hm]

/-! ## What a module says of a class -/

variable {lineEnding : LineEnding} {classes others : List EscapedClass} {a b : EscapedClass}

/-- The texts of a class are on one line each if what its documentation says is. -/
theorem all_oneLine_docTexts (cls : EscapedClass) :
    (docTexts cls).all ClassFields.oneLine = cls.properties.all Occurrence.oneLine := by
  rw [Bool.eq_iff_iff]
  simp only [List.all_eq_true, docTexts, mem_firstOccurrences, List.forall_mem_map, oneLine_docText]

theorem docTexts_congr {eol : String} (h : docLines eol a = docLines eol b) :
    docTexts a = docTexts b := by
  rw [docLines_eq, docLines_eq] at h
  exact (List.map_inj_right fun _ _ => docLineOf_inj).mp h

theorem field_congr (h : content lineEnding a = content lineEnding b) :
    field lineEnding.text a = field lineEnding.text b := by
  obtain ⟨he, -, hd⟩ := Content.mk.inj h
  rw [field, field, docComment, docComment, hd, he]

theorem value_congr (h : content lineEnding a = content lineEnding b) :
    value lineEnding.text a = value lineEnding.text b := by
  obtain ⟨he, hn, -⟩ := Content.mk.inj h
  rw [value, value, he, hn]

theorem fault?_congr (h : content lineEnding a = content lineEnding b) : a.fault? = b.fault? := by
  obtain ⟨he, hn, hd⟩ := Content.mk.inj h
  rw [EscapedClass.fault?, EscapedClass.fault?, ← all_oneLine_docTexts, ← all_oneLine_docTexts,
    docTexts_congr hd, hn, he]

/-- What depends on no more than what is said of a class is the same for classes of which the same
is said. -/
theorem map_congr {β : Type} {f : EscapedClass → β}
    (hf : ∀ {a b}, content lineEnding a = content lineEnding b → f a = f b)
    (h : classes.map (content lineEnding) = others.map (content lineEnding)) :
    classes.map f = others.map f := by
  induction classes generalizing others with
  | nil => rw [List.map_eq_nil_iff.mp h.symm]
  | cons a as ih =>
    rcases others with _ | ⟨b, bs⟩
    · cases h
    obtain ⟨h₁, h₂⟩ := List.cons.inj h
    rw [List.map_cons, List.map_cons, hf h₁, ih h₂]

theorem emit_congr (h : classes.map (content lineEnding) = others.map (content lineEnding)) :
    emit classes lineEnding = emit others lineEnding := by
  have hl : classes.length = others.length := by
    simpa only [List.length_map] using congrArg List.length h
  have he : classes.isEmpty = others.isEmpty := by
    simpa only [List.isEmpty_map] using congrArg List.isEmpty h
  have hs : structText lineEnding.text classes = structText lineEnding.text others := by
    unfold structText
    rw [he, map_congr field_congr h]
  have hi : instanceText lineEnding.text classes = instanceText lineEnding.text others := by
    unfold instanceText
    rw [map_congr value_congr h]
  have ht : text classes lineEnding = text others lineEnding := by
    unfold text
    dsimp only
    rw [hs, hi]
  rw [emit, emit, hl, ht]

theorem validateFrom_congr {owners : Owners}
    (h : classes.map (content lineEnding) = others.map (content lineEnding)) :
    validateFrom owners classes = validateFrom owners others := by
  induction classes generalizing others owners with
  | nil => rw [List.map_eq_nil_iff.mp h.symm]
  | cons a as ih =>
    rcases others with _ | ⟨b, bs⟩
    · cases h
    obtain ⟨h₁, h₂⟩ := List.cons.inj h
    obtain ⟨he, hn, -⟩ := Content.mk.inj h₁
    rw [validateFrom, validateFrom, fault?_congr h₁, he, hn, ih h₂]

/-- Lines without line breaks within them are read back from the documentation. -/
theorem docLines_inj (ha : a.Unbroken) (hb : b.Unbroken)
    (h : docComment lineEnding.text a = docComment lineEnding.text b) :
    docLines lineEnding.text a = docLines lineEnding.text b := by
  rw [← EscapedClass.all_oneLine_iff, List.all_eq_true] at ha hb
  replace h := congrArg String.toList h
  rw [toList_docComment, toList_docComment] at h
  obtain ⟨hd, -⟩ := docs_inj lineEnding.isEol_text (fun _ => oneLine_of_mem_docTexts ha)
    (fun _ => oneLine_of_mem_docTexts hb) (congrArg (· ++ ("    pub ".toList ++ [])) h)
  rw [docLines_eq, docLines_eq, hd]

end GeneratedModule

/-! ## Changes that do not show -/

open GeneratedModule

/-- A change of the occurrences of a record that a module does not show: one whose line is there
before is added or removed, or a media query becomes empty or is left out. -/
inductive ClassRecord.Unseen (eol : String) : ClassRecord → ClassRecord → Prop
  | added {name : String} {u v : List Occurrence} {occurrence : Occurrence}
      (h : docLine eol occurrence ∈ u.map (docLine eol)) :
      Unseen eol ⟨name, u ++ v⟩ ⟨name, u ++ occurrence :: v⟩
  | removed {name : String} {u v : List Occurrence} {occurrence : Occurrence}
      (h : docLine eol occurrence ∈ u.map (docLine eol)) :
      Unseen eol ⟨name, u ++ occurrence :: v⟩ ⟨name, u ++ v⟩
  | emptied {name property : String} {u v : List Occurrence} :
      Unseen eol ⟨name, u ++ ⟨property, none⟩ :: v⟩ ⟨name, u ++ ⟨property, some ""⟩ :: v⟩
  | omitted {name property : String} {u v : List Occurrence} :
      Unseen eol ⟨name, u ++ ⟨property, some ""⟩ :: v⟩ ⟨name, u ++ ⟨property, none⟩ :: v⟩

theorem content_of_unseen {lineEnding : LineEnding} {record changed : ClassRecord}
    (h : record.Unseen lineEnding.text changed) (escape : String → String) :
    content lineEnding ⟨record, escape record.name⟩ =
      content lineEnding ⟨changed, escape changed.name⟩ := by
  have hi {u v : List Occurrence} {occurrence : Occurrence}
      (h : docLine lineEnding.text occurrence ∈ u.map (docLine lineEnding.text)) :
      firstOccurrences ((u ++ occurrence :: v).map (docLine lineEnding.text)) =
        firstOccurrences ((u ++ v).map (docLine lineEnding.text)) := by
    rw [List.map_append, List.map_cons, firstOccurrences_insert h, List.map_append]
  have hm (property : String) (u v : List Occurrence) :
      (u ++ ⟨property, some ""⟩ :: v).map (docLine lineEnding.text) =
        (u ++ ⟨property, none⟩ :: v).map (docLine lineEnding.text) := by
    rw [List.map_append, List.map_append, List.map_cons, List.map_cons]
    rfl
  cases h with
  | added h => exact congrArg (Content.mk _ _) (hi h).symm
  | removed h => exact congrArg (Content.mk _ _) (hi h)
  | emptied => exact congrArg (Content.mk _ _ <| firstOccurrences ·) (hm ..).symm
  | omitted => exact congrArg (Content.mk _ _ <| firstOccurrences ·) (hm ..)

/-- The documentation of a field is made of the lines of its occurrences that are not the same as a
line before them. Nothing else of the occurrences matters for the module and for the check of the
classes, so a change of a record that does not show leaves both as they are. Without line breaks, the
same documentation is made of the same lines. -/
theorem documentation_without_repeats (lineEnding : LineEnding) :
    (∀ cls, docComment lineEnding.text cls =
      concat (withoutRepeats (cls.properties.map (docLine lineEnding.text)))) ∧
    (∀ classes others, classes.map (content lineEnding) = others.map (content lineEnding) →
      emit classes lineEnding = emit others lineEnding ∧ validate classes = validate others) ∧
    (∀ table before after record changed, ClassRecord.Unseen lineEnding.text record changed →
      let classes := (EscapedClass.ofRecords table (before ++ record :: after)).value
      let others := (EscapedClass.ofRecords table (before ++ changed :: after)).value
      emit classes lineEnding = emit others lineEnding ∧ validate classes = validate others) ∧
    ∀ a b : EscapedClass, a.Unbroken → b.Unbroken →
      docComment lineEnding.text a = docComment lineEnding.text b →
      withoutRepeats (a.properties.map (docLine lineEnding.text)) =
        withoutRepeats (b.properties.map (docLine lineEnding.text)) := by
  refine ⟨fun cls => ?_, fun classes others h => ⟨emit_congr h, validateFrom_congr h⟩, ?_, ?_⟩
  · rw [docComment, docLines, firstOccurrences_eq]
  · intro table before after record changed h
    have hc : (EscapedClass.ofRecords table (before ++ record :: after)).value.map
          (content lineEnding) =
        (EscapedClass.ofRecords table (before ++ changed :: after)).value.map
          (content lineEnding) := by
      simp only [EscapedClass.value_ofRecords, List.map_append, List.map_cons]
      rw [content_of_unseen h fun name => (table.escape name).value]
    exact ⟨emit_congr hc, validateFrom_congr hc⟩
  · intro a b ha hb h
    rw [← firstOccurrences_eq, ← firstOccurrences_eq]
    exact docLines_inj ha hb h

/-- A property that reads like another one with its media query has the same line. -/
theorem documentation_without_repeats_sameLine :
    let a : EscapedClass := ⟨⟨"x-y", [⟨"a", some "b;"⟩]⟩, "x_y"⟩
    let b : EscapedClass := ⟨⟨"x-y", [⟨"a", some "b;"⟩, ⟨"a;    b", none⟩]⟩, "x_y"⟩
    a.Unbroken ∧ b.Unbroken ∧ docComment "\r\n" a = docComment "\r\n" b ∧
    [a].map (content .crLf) = [b].map (content .crLf) ∧
    a.record.Unseen "\r\n" b.record ∧
    emit [a] .crLf = emit [b] .crLf ∧ validate [a] = validate [b] ∧
    emit (EscapedClass.ofRecords .standard [a.record]).value .crLf =
      emit (EscapedClass.ofRecords .standard [b.record]).value .crLf ∧
    withoutRepeats (a.properties.map (docLine "\r\n")) =
      withoutRepeats (b.properties.map (docLine "\r\n")) := by
  intro a b
  have ha : a.Unbroken := EscapedClass.all_oneLine_iff.mp (by decide +kernel)
  have hb : b.Unbroken := EscapedClass.all_oneLine_iff.mp (by decide +kernel)
  have hd : docComment "\r\n" a = docComment "\r\n" b := by decide +kernel
  have hc : [a].map (content .crLf) = [b].map (content .crLf) := by decide +kernel
  have hu : a.record.Unseen "\r\n" b.record :=
    .added (u := [⟨"a", some "b;"⟩]) (v := []) (by decide +kernel)
  obtain ⟨-, hs, hr, hl⟩ := documentation_without_repeats .crLf
  exact ⟨ha, hb, hd, hc, hu, (hs _ _ hc).1, (hs _ _ hc).2, (hr .standard [] [] _ _ hu).1,
    hl a b ha hb hd⟩

end ClassFields
