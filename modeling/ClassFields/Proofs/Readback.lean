import Mathlib.Logic.Function.Basic
import ClassFields.Proofs.Layout
import ClassFields.Proofs.Spelling

/-!
# Reading classes back

Nothing of accepted classes is lost in the text of their module (`emit_lossless`). What
comes before the end of a part decides what the part is: no line of documentation contains the end
of a line, no name contains a quote, and no escaped name goes on with the colon and the type that
another escaped name ends before (`skip_type_ne`).
-/

namespace ClassFields.GeneratedModule

open FieldName

/-! ## Cutting -/

/-- A text without a delimiter is before any place of the delimiter. -/
theorem exists_append_of_notMem {d : Char} {s u m v : List Char} (hs : d ∉ s)
    (h : s ++ u = m ++ d :: v) : ∃ m', m = s ++ m' ∧ u = m' ++ d :: v := by
  rcases List.append_eq_append_iff.mp h with ⟨m', rfl, rfl⟩ | ⟨w, rfl, hw⟩
  · exact ⟨m', rfl, rfl⟩
  · rcases w with _ | ⟨c, w⟩
    · exact ⟨[], by rw [List.append_nil, List.append_nil], hw.symm⟩
    · obtain rfl : d = c := (List.cons.inj hw).1
      exact absurd (List.mem_append_right m List.mem_cons_self) hs

/-- Two texts without a delimiter are the same if they go on to the same text after it. -/
theorem cut_inj {d : Char} {s t u v : List Char} (hs : d ∉ s) (ht : d ∉ t)
    (h : s ++ d :: u = t ++ d :: v) : s = t ∧ u = v := by
  obtain ⟨m, rfl, hm⟩ := exists_append_of_notMem hs h
  rcases m with _ | ⟨c, m⟩
  · exact ⟨by rw [List.append_nil], (List.cons.inj hm).2⟩
  · obtain rfl : d = c := (List.cons.inj hm).1
    exact absurd (List.mem_append_right s List.mem_cons_self) ht

variable {eol r r' : List Char}

theorem line_inj (he : IsEol eol) {s t : String} (hs : ClassFields.oneLine s)
    (ht : ClassFields.oneLine t) (h : s.toList ++ (eol ++ r) = t.toList ++ (eol ++ r')) :
    s = t ∧ r = r' := by
  rw [oneLine_iff] at hs ht
  rcases he with rfl | rfl
  · obtain ⟨hst, hr⟩ := cut_inj (fun hc => (hs _ hc).1 rfl) (fun hc => (ht _ hc).1 rfl) h
    exact ⟨String.toList_inj.mp hst, hr⟩
  · obtain ⟨hst, hr⟩ := cut_inj (fun hc => (hs _ hc).2 rfl) (fun hc => (ht _ hc).2 rfl) h
    exact ⟨String.toList_inj.mp hst, (List.cons.inj hr).2⟩

/-! ## Documentation -/

theorem doc_ne_pub (text : String) : "    pub ".toList ++ r ≠ docChars eol text ++ r' := by
  rw [docChars_append]
  simp only [String.reduceToList, List.cons_append]
  simp

/-- Documentation ends where the field itself starts. -/
theorem docs_inj (he : IsEol eol) : ∀ {ss ts : List String}, (∀ s ∈ ss, ClassFields.oneLine s) →
    (∀ t ∈ ts, ClassFields.oneLine t) →
    ss.flatMap (docChars eol) ++ ("    pub ".toList ++ r) =
      ts.flatMap (docChars eol) ++ ("    pub ".toList ++ r') → ss = ts ∧ r = r'
  | [], [], _, _, h => ⟨rfl, List.append_cancel_left h⟩
  | [], t :: ts, _, _, h => by
    rw [List.flatMap_cons, List.append_assoc] at h
    exact absurd h (doc_ne_pub t)
  | s :: ss, [], _, _, h => by
    rw [List.flatMap_cons, List.append_assoc] at h
    exact absurd h.symm (doc_ne_pub s)
  | s :: ss, t :: ts, hs, ht, h => by
    obtain ⟨hs₁, hs₂⟩ := List.forall_mem_cons.mp hs
    obtain ⟨ht₁, ht₂⟩ := List.forall_mem_cons.mp ht
    rw [List.flatMap_cons, List.flatMap_cons, List.append_assoc, List.append_assoc, docChars_append,
      docChars_append] at h
    obtain ⟨rfl, hr⟩ := line_inj he hs₁ ht₁ (List.append_cancel_left h)
    obtain ⟨rfl, rfl⟩ := docs_inj he hs₂ ht₂ hr
    exact ⟨rfl, rfl⟩

/-! ## Fields -/

/-- What may follow a field: the end of the struct, or one more field after an empty line. -/
def FollowsField (eol r : List Char) : Prop :=
  (∃ t, r = '\x7d' :: t) ∨ (∃ t, r = eol ++ ("    /// ".toList ++ t)) ∨
    ∃ t, r = eol ++ ("    pub ".toList ++ t)

theorem colon_notMem_eol (he : IsEol eol) : ':' ∉ eol := by
  rcases he with rfl | rfl <;> decide

/-- Between a field and a colon after it stands the start of the next field. -/
theorem skip_eol_ne (he : IsEol eol) {start m t : List Char} (hc : ':' ∉ start)
    (hs : ∀ m, skip .between (start ++ m) ≠ some []) (h : eol ++ (start ++ r) = m ++ ':' :: t) :
    skip .between m ≠ some [] := by
  obtain ⟨m, rfl, h₁⟩ := exists_append_of_notMem (colon_notMem_eol he) h
  obtain ⟨m, rfl, -⟩ := exists_append_of_notMem hc h₁
  have heol : skip .between (eol ++ (start ++ m)) = skip .between (start ++ m) := by
    rcases he with rfl | rfl <;> rfl
  rw [heol]
  exact hs m

/-- After the type of a field, a reader in a comment meets something that is no comment before it
meets a colon. -/
theorem skip_type_ne (he : IsEol eol) (hr : FollowsField eol r) {m t : List Char}
    (h : " &'a str,".toList ++ (eol ++ r) = m ++ ':' :: t) : skip .line m ≠ some [] := by
  obtain ⟨m, rfl, h₁⟩ := exists_append_of_notMem (by decide +kernel) h
  obtain ⟨m, rfl, h₂⟩ := exists_append_of_notMem (colon_notMem_eol he) h₁
  have hm : skip .line (" &'a str,".toList ++ (eol ++ m)) = skip .between m := by
    simp only [String.reduceToList]
    rcases he with rfl | rfl <;> rfl
  rw [hm]
  rcases hr with ⟨t, rfl⟩ | ⟨t, rfl⟩ | ⟨t, rfl⟩
  · rcases m with _ | ⟨c, m⟩
    · simp at h₂
    · obtain rfl : '\x7d' = c := (List.cons.inj h₂).1
      nofun
  · refine skip_eol_ne he (by decide +kernel) (fun m => ?_) h₂
    simp only [String.reduceToList]
    nofun
  · refine skip_eol_ne he (by decide +kernel) (fun m => ?_) h₂
    simp only [String.reduceToList]
    nofun

/-- An accepted name is not longer than another one if both stand before the type of a field. -/
theorem eq_nil_of_read?_append (he : IsEol eol) (hr : FollowsField eol r) {s m : List Char}
    {f g : FieldName} (hs : read? s = some f) (hm : read? (s ++ m) = some g)
    (h : ':' :: (" &'a str,".toList ++ (eol ++ r)) =
      m ++ ':' :: (" &'a str,".toList ++ (eol ++ r'))) : m = [] := by
  rcases m with _ | ⟨c, m⟩
  · rfl
  · obtain ⟨rfl, hm'⟩ := List.cons.inj h
    exact absurd (skip_line_of_read?_colon hs hm) (skip_type_ne he hr hm')

theorem escaped_inj (he : IsEol eol) (hr : FollowsField eol r) (hr' : FollowsField eol r')
    {s t : String} (hs : FieldName.valid s) (ht : FieldName.valid t)
    (h : s.toList ++ ':' :: (" &'a str,".toList ++ (eol ++ r)) =
      t.toList ++ ':' :: (" &'a str,".toList ++ (eol ++ r'))) : s = t ∧ r = r' := by
  obtain ⟨f, hf⟩ := Option.isSome_iff_exists.mp hs
  obtain ⟨g, hg⟩ := Option.isSome_iff_exists.mp ht
  have hst : s = t := by
    apply String.toList_inj.mp
    rcases List.append_eq_append_iff.mp h with ⟨m, hm, h⟩ | ⟨m, hm, h⟩
    · rw [hm] at hg
      rw [hm, eq_nil_of_read?_append he hr hf hg h, List.append_nil]
    · rw [hm] at hf
      rw [hm, eq_nil_of_read?_append he hr' hg hf h, List.append_nil]
  subst hst
  have hc := (List.cons.inj (List.append_cancel_left h)).2
  exact ⟨rfl, List.append_cancel_left (List.append_cancel_left hc)⟩

/-- What the struct says of a class. -/
def fieldContent (cls : EscapedClass) : String × List String := (cls.escaped, docTexts cls)

theorem field_inj (he : IsEol eol) (hr : FollowsField eol r) (hr' : FollowsField eol r')
    {a b : EscapedClass} (ha : a.Sound) (hb : b.Sound)
    (h : fieldChars eol a ++ r = fieldChars eol b ++ r') :
    fieldContent a = fieldContent b ∧ r = r' := by
  rw [fieldChars_append, fieldChars_append] at h
  obtain ⟨hd, h⟩ := docs_inj he (fun _ => oneLine_of_mem_docTexts ha.oneLine)
    (fun _ => oneLine_of_mem_docTexts hb.oneLine) h
  obtain ⟨hn, hr⟩ := escaped_inj he hr hr' ha.valid hb.valid h
  exact ⟨Prod.ext hn hd, hr⟩

theorem followsField_field (cls : EscapedClass) :
    FollowsField eol (eol ++ (fieldChars eol cls ++ r)) := by
  rw [fieldChars_append]
  rcases hd : docTexts cls with _ | ⟨t, ts⟩
  · exact .inr (.inr ⟨_, rfl⟩)
  · obtain ⟨u, hu⟩ := exists_cons_of_mem_docTexts (hd ▸ List.mem_cons_self : t ∈ docTexts cls)
    rw [List.flatMap_cons, List.append_assoc, docChars_append, hu]
    exact .inr (.inl ⟨_, rfl⟩)

theorem followsField_more (classes : List EscapedClass) :
    FollowsField eol (moreChars eol classes ++ '\x7d' :: r) := by
  cases classes with
  | nil => exact .inl ⟨r, rfl⟩
  | cons cls rest =>
    rw [moreChars, List.flatMap_cons, List.append_assoc, List.append_assoc]
    exact followsField_field cls

theorem close_ne_eol (he : IsEol eol) : '\x7d' :: r ≠ eol ++ r' := by
  rcases he with rfl | rfl <;> simp

/-- The fields of two structs end at the same place and say the same. -/
theorem more_inj (he : IsEol eol) : ∀ {as bs : List EscapedClass}, (∀ a ∈ as, a.Sound) →
    (∀ b ∈ bs, b.Sound) → moreChars eol as ++ '\x7d' :: r = moreChars eol bs ++ '\x7d' :: r' →
    as.map fieldContent = bs.map fieldContent ∧ r = r'
  | [], [], _, _, h => ⟨rfl, (List.cons.inj h).2⟩
  | [], b :: bs, _, _, h => by
    rw [moreChars, moreChars, List.flatMap_cons, List.append_assoc, List.append_assoc] at h
    exact absurd h (close_ne_eol he)
  | a :: as, [], _, _, h => by
    rw [moreChars, moreChars, List.flatMap_cons, List.append_assoc, List.append_assoc] at h
    exact absurd h.symm (close_ne_eol he)
  | a :: as, b :: bs, ha, hb, h => by
    obtain ⟨ha₁, ha₂⟩ := List.forall_mem_cons.mp ha
    obtain ⟨hb₁, hb₂⟩ := List.forall_mem_cons.mp hb
    simp only [moreChars, List.flatMap_cons, List.append_assoc] at h
    obtain ⟨hc, h⟩ := field_inj he (followsField_more as) (followsField_more bs) ha₁ hb₁
      (List.append_cancel_left h)
    obtain ⟨hcs, hr⟩ := more_inj he ha₂ hb₂ h
    exact ⟨by rw [List.map_cons, List.map_cons, hc, hcs], hr⟩

theorem fields_inj (he : IsEol eol) {as bs : List EscapedClass} (ha : ∀ a ∈ as, a.Sound)
    (hb : ∀ b ∈ bs, b.Sound) (hn : as.isEmpty = bs.isEmpty)
    (h : fieldsChars eol as ++ '\x7d' :: r = fieldsChars eol bs ++ '\x7d' :: r') :
    as.map fieldContent = bs.map fieldContent ∧ r = r' := by
  refine more_inj he ha hb ?_
  rcases as with _ | ⟨a, as⟩ <;> rcases bs with _ | ⟨b, bs⟩
  · exact h
  · cases hn
  · cases hn
  · simpa [moreChars, fieldsChars] using h

/-! ## Values -/

/-- The names of classes with the same fields are read from their values. -/
theorem values_inj : ∀ {as bs : List EscapedClass}, (∀ a ∈ as, a.Sound) → (∀ b ∈ bs, b.Sound) →
    as.map fieldContent = bs.map fieldContent →
    as.flatMap (valueChars eol) ++ r = bs.flatMap (valueChars eol) ++ r' →
    (as.map fun a => (fieldContent a, a.name)) = bs.map fun b => (fieldContent b, b.name)
  | [], [], _, _, _, _ => rfl
  | a :: as, b :: bs, ha, hb, hf, h => by
    obtain ⟨ha₁, ha₂⟩ := List.forall_mem_cons.mp ha
    obtain ⟨hb₁, hb₂⟩ := List.forall_mem_cons.mp hb
    obtain ⟨hf₁, hf₂⟩ := List.cons.inj hf
    have hn : a.escaped = b.escaped := congrArg Prod.fst hf₁
    rw [List.flatMap_cons, List.flatMap_cons, List.append_assoc, List.append_assoc,
      valueChars_append, valueChars_append, hn] at h
    have hv := (List.cons.inj (List.append_cancel_left (List.append_cancel_left h))).2
    obtain ⟨hab, h⟩ := cut_inj (quotable_apart ha₁.quotable (by decide))
      (quotable_apart hb₁.quotable (by decide)) (List.append_cancel_left hv)
    have hs := values_inj ha₂ hb₂ hf₂ (List.append_cancel_left (List.cons.inj h).2)
    rw [List.map_cons, List.map_cons, hf₁, String.toList_inj.mp hab, hs]

/-! ## Modules -/

/-- What a module says of a class: its escaped name, its name and its lines of documentation. -/
structure Content where
  escaped : String
  name : String
  docLines : List String
  deriving DecidableEq, Repr

/-- What the module with a line ending says of a class. -/
def content (lineEnding : LineEnding) (cls : EscapedClass) : Content :=
  ⟨cls.escaped, cls.name, docLines lineEnding.text cls⟩

/-- Whether there are classes is seen from the lifetime of the struct. -/
theorem head_inj {as bs : List EscapedClass}
    (h : headChars eol as ++ r = headChars eol bs ++ r') : as.isEmpty = bs.isEmpty ∧ r = r' := by
  unfold headChars at h
  simp only [List.append_assoc, List.append_cancel_left_eq] at h
  cases ha : as.isEmpty <;> cases hb : bs.isEmpty <;>
    simp only [ha, hb, if_true, if_false, Bool.false_eq_true, List.append_cancel_left_eq,
      String.reduceToList, List.cons_append, List.nil_append, List.cons.injEq, Char.reduceEq,
      true_and, false_and] at h
  · exact ⟨rfl, h⟩
  · exact ⟨rfl, h⟩

theorem content_eq (lineEnding : LineEnding) (cls : EscapedClass) :
    content lineEnding cls = ⟨(fieldContent cls).1, cls.name,
      (fieldContent cls).2.map (docLineOf lineEnding.text)⟩ := by
  rw [content, docLines_eq]
  rfl

/-- Accepted classes with the same text have the same content. -/
theorem content_eq_of_text_eq {as bs : List EscapedClass} {lineEnding : LineEnding}
    (ha : validate as = .ok ()) (hb : validate bs = .ok ())
    (h : text as lineEnding = text bs lineEnding) :
    as.map (content lineEnding) = bs.map (content lineEnding) := by
  have he := lineEnding.isEol_text
  have hsa := (validate_eq_ok_iff.mp ha).1
  have hsb := (validate_eq_ok_iff.mp hb).1
  replace h := congrArg String.toList h
  rw [toList_text, toList_text] at h
  obtain ⟨hn, h⟩ := head_inj h
  obtain ⟨hf, h⟩ := fields_inj he hsa hsb hn h
  simp only [List.append_cancel_left_eq] at h
  have hv := values_inj hsa hsb hf h
  have hc := congrArg (List.map fun c : (String × List String) × String =>
    (⟨c.1.1, c.2, c.1.2.map (docLineOf lineEnding.text)⟩ : Content)) hv
  simpa only [List.map_map, Function.comp_def, ← content_eq] using hc

/-- Accepted classes that are emitted as the same text have the same content, one by one, so there
is a reader that finds the content in the text. -/
theorem emit_lossless (lineEnding : LineEnding) :
    (∀ classes others, validate classes = .ok () → validate others = .ok () →
      (emit classes lineEnding).value = (emit others lineEnding).value →
      classes.map (content lineEnding) = others.map (content lineEnding)) ∧
    ∃ read : String → List Content, ∀ classes, validate classes = .ok () →
      read (emit classes lineEnding).value = classes.map (content lineEnding) := by
  refine ⟨fun classes others => content_eq_of_text_eq, ?_⟩
  have hf : Function.FactorsThrough
      (fun c : {classes // validate classes = .ok ()} => c.val.map (content lineEnding))
      (fun c => (emit c.val lineEnding).value) :=
    fun a b => content_eq_of_text_eq a.property b.property
  obtain ⟨read, hr⟩ := (Function.factorsThrough_iff _).mp hf
  exact ⟨read, fun classes hc => (congrFun hr ⟨classes, hc⟩).symm⟩

/-- An empty media query and an occurrence that is there before do not show in the text, in the first
field or in a later one. -/
theorem emit_lossless_emptyMedia :
    let classes : List EscapedClass :=
      [⟨⟨"a", [⟨"b", none⟩]⟩, "a"⟩, ⟨⟨"c-d", [⟨"e", some "f"⟩, ⟨"b", some ""⟩]⟩, "c_d"⟩]
    let others : List EscapedClass :=
      [⟨⟨"a", [⟨"b", some ""⟩, ⟨"b", none⟩]⟩, "a"⟩, ⟨⟨"c-d", [⟨"e", some "f"⟩, ⟨"b", none⟩]⟩, "c_d"⟩]
    classes ≠ others ∧ validate classes = .ok () ∧ validate others = .ok () ∧
      (emit classes .crLf).value = (emit others .crLf).value ∧
      classes.map (content .crLf) = others.map (content .crLf) := by
  refine ⟨?_, ?_, ?_, ?_, (emit_lossless .crLf).1 _ _ ?_ ?_ ?_⟩ <;> decide +kernel

end ClassFields.GeneratedModule
