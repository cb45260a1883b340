import ClassFields.Proofs.DeclaredFields
import ClassFields.Proofs.Layout
import ClassFields.Proofs.Token

/-!
# Tokens of generated modules

What the text of accepted classes is read as: the struct and the instance (`tokens`), if and only if
each escaped name spells its field inside other text too (`emit_tokens_iff`). The pieces of the text
are read one after another. A piece in which a name takes in what follows is read as fewer tokens,
if at all, so no other piece makes up for it (`ReadsIf`).
-/

namespace ClassFields

/-- The escaped name of a class spells the name of a field wherever it stands. -/
def EscapedClass.SpellsInside (cls : EscapedClass) : Prop :=
  ∃ f, FieldName.SpellsInside f cls.escaped.toList

namespace GeneratedModule

open Token

/-! ## Tokens -/

/-- A word that is not raw. -/
def plainWord (s : String) : Token := .word ⟨s.toList, false⟩

/-- The name of the field of a class. -/
def identTokens (cls : EscapedClass) : List Token := (cls.fieldName?.map Token.word).toList

/-- The documentation of the field of a class. -/
def docTokens (cls : EscapedClass) : List Token := (docTexts cls).map fun text => .doc text.toList

/-- The type of a field and the end of the field. -/
def typeTokens : List Token := [.sign '&', .lifetime ['a'], plainWord "str", .sign ',']

/-- A field of the struct. -/
def fieldTokens (cls : EscapedClass) : List Token :=
  docTokens cls ++ plainWord "pub" :: (identTokens cls ++ .sign ':' :: typeTokens)

/-- The value of a field in the instance. -/
def valueTokens (cls : EscapedClass) : List Token :=
  identTokens cls ++ [.sign ':', .literal cls.name.toList, .sign ',']

/-- The attributes of the struct, and its name. -/
def structHead : List Token :=
  [.sign '#', .sign '[', plainWord "allow", .sign '(', plainWord "non_snake_case", .sign ',',
    plainWord "dead_code", .sign ')', .sign ']', plainWord "pub", plainWord "struct",
    plainWord structName]

/-- The lifetime of the struct, if there are fields. -/
def lifetimeTokens (classes : List EscapedClass) : List Token :=
  if classes.isEmpty then [] else [.sign '<', .lifetime ['a'], .sign '>']

/-- The struct. -/
def structTokens (classes : List EscapedClass) : List Token :=
  structHead ++ lifetimeTokens classes ++
    .sign '\x7b' :: (classes.flatMap fieldTokens ++ [.sign '\x7d'])

/-- The instance. -/
def instanceTokens (classes : List EscapedClass) : List Token :=
  [plainWord "pub", plainWord "const", plainWord instanceName, .sign ':', plainWord structName,
    .sign '=', plainWord structName, .sign '\x7b'] ++
    (classes.flatMap valueTokens ++ [.sign '\x7d', .sign ';'])

/-- The module: the struct and the instance. -/
def tokens (classes : List EscapedClass) : List Token :=
  structTokens classes ++ instanceTokens classes

/-! ## Pieces of text -/

/-- A piece of text is read as tokens. -/
def Reads (s : List Char) (ts : List Token) : Prop := run .between s = some (ts, .between)

/-- A piece of text is read as tokens under a condition. Without it, the piece is read as fewer
tokens, if at all. -/
structure ReadsIf (P : Prop) (s : List Char) (ts : List Token) : Prop where
  reads : P → Reads s ts
  fewer : ∀ us p, run .between s = some (us, p) →
    p = .between ∧ us.length ≤ ts.length ∧ (ts.length ≤ us.length → P)

variable {s t eol : List Char} {ts us : List Token} {P Q : Prop}

theorem Reads.append (hs : Reads s ts) (ht : Reads t us) : Reads (s ++ t) (ts ++ us) := by
  rw [Reads, run_append_of_some hs, ht]
  rfl

theorem Reads.readsIf (h : Reads s ts) : ReadsIf True s ts := by
  refine ⟨fun _ => h, fun us p hu => ?_⟩
  rw [h] at hu
  cases hu
  exact ⟨rfl, Nat.le_refl _, fun _ => trivial⟩

theorem ReadsIf.of_iff (h : ReadsIf P s ts) (hPQ : P ↔ Q) : ReadsIf Q s ts :=
  propext hPQ ▸ h

theorem ReadsIf.append (hs : ReadsIf P s ts) (ht : ReadsIf Q t us) :
    ReadsIf (P ∧ Q) (s ++ t) (ts ++ us) := by
  refine ⟨fun h => (hs.reads h.1).append (ht.reads h.2), fun vs p h => ?_⟩
  rw [run_append, Option.bind_eq_some_iff] at h
  obtain ⟨⟨vs₁, q⟩, h₁, h₂⟩ := h
  obtain ⟨rfl, hn, hP⟩ := hs.fewer vs₁ q h₁
  obtain ⟨⟨vs₂, r⟩, h₃, h₄⟩ := Option.map_eq_some_iff.mp h₂
  obtain ⟨rfl, rfl⟩ := Prod.mk.inj h₄
  obtain ⟨rfl, hm, hQ⟩ := ht.fewer vs₂ r h₃
  rw [List.length_append, List.length_append]
  exact ⟨rfl, by omega, fun h => ⟨hP (by omega), hQ (by omega)⟩⟩

theorem readsIf_flatMap {α : Type} {good : α → Prop} {chars : α → List Char}
    {toks : α → List Token} : ∀ {l : List α}, (∀ a ∈ l, ReadsIf (good a) (chars a) (toks a)) →
    ReadsIf (∀ a ∈ l, good a) (l.flatMap chars) (l.flatMap toks)
  | [], _ => (show Reads [] [] from rfl).readsIf.of_iff ⟨fun _ => nofun, fun _ => trivial⟩
  | a :: l, h => by
    obtain ⟨ha, hl⟩ := List.forall_mem_cons.mp h
    rw [List.flatMap_cons, List.flatMap_cons]
    exact (ha.append (readsIf_flatMap hl)).of_iff List.forall_mem_cons.symm

/-! ## Lines -/

theorem run_line_of_notMem (hs : '\n' ∉ s) : run .line s = some ([], .line) := by
  induction s with
  | nil => rfl
  | cons c s ih =>
    rw [List.mem_cons, not_or] at hs
    rw [run_line_cons (Ne.symm hs.1), ih hs.2]

/-- A comment takes in the rest of the line. -/
theorem run_line_eol (he : IsEol eol) (hs : '\n' ∉ s) :
    run .line (s ++ eol) = some ([], .between) := by
  rw [run_append_of_some (run_line_of_notMem hs), ahead_nil]
  rcases he with rfl | rfl <;> rfl

theorem reads_eol (he : IsEol eol) : Reads eol [] := by
  rcases he with rfl | rfl <;> rfl

theorem run_doc {text : List Char} (ht : text ≠ []) (hs : ∀ c ∈ s, c ≠ '\n' ∧ c ≠ '\r') :
    run (.doc text) (s ++ t) = run (.doc (text ++ s)) t := by
  induction s generalizing text with
  | nil => rw [List.append_nil, List.nil_append]
  | cons c s ih =>
    obtain ⟨hc, hs⟩ := List.forall_mem_cons.mp hs
    have h : step (.doc text) c = some ([], .doc (text ++ [c])) := by simp [step, hc, ht]
    rw [List.cons_append, run_cons_of_step h, ih (by simp) hs, List.append_assoc,
      List.singleton_append]

theorem run_literal {value : List Char} (hs : ∀ c ∈ s, c ∉ ['"', '\\', '\r']) :
    run (.literal value) (s ++ t) = run (.literal (value ++ s)) t := by
  induction s generalizing value with
  | nil => rw [List.append_nil, List.nil_append]
  | cons c s ih =>
    obtain ⟨hc, hs⟩ := List.forall_mem_cons.mp hs
    simp only [List.mem_cons, List.not_mem_nil, or_false, not_or] at hc
    have h : step (.literal value) c = some ([], .literal (value ++ [c])) := by simp [step, hc]
    rw [List.cons_append, run_cons_of_step h, ih hs, List.append_assoc, List.singleton_append]

/-! ## Classes -/

theorem reads_doc (he : IsEol eol) {text : String} (hb : ∃ t, text.toList = ' ' :: t)
    (ho : ClassFields.oneLine text) : Reads (docChars eol text) [.doc text.toList] := by
  have hs : run .between "    ///".toList = some ([], .doc []) := by decide +kernel
  rw [oneLine_iff] at ho
  obtain ⟨t, ht⟩ := hb
  rw [ht] at ho
  unfold Reads docChars
  rw [run_append_of_some hs, ahead_nil, ht, List.cons_append,
    run_cons_of_step (show step (.doc []) ' ' = some ([], .doc [' ']) from rfl),
    run_doc (List.cons_ne_nil _ _) (List.forall_mem_cons.mp ho).2]
  rcases he with rfl | rfl <;> rfl

theorem reads_docs (he : IsEol eol) {cls : EscapedClass} (h : cls.Sound) :
    Reads ((docTexts cls).flatMap (docChars eol)) (docTokens cls) := by
  rw [docTokens, List.map_eq_flatMap]
  have hd : ∀ t ∈ docTexts cls, ReadsIf True (docChars eol t) [.doc t.toList] := fun t ht =>
    (reads_doc he (exists_cons_of_mem_docTexts ht) (oneLine_of_mem_docTexts h.oneLine ht)).readsIf
  exact (readsIf_flatMap hd).reads fun _ _ => trivial

theorem reads_type (he : IsEol eol) : Reads (" &'a str,".toList ++ eol) typeTokens := by
  unfold Reads
  rcases he with rfl | rfl <;> decide +kernel

theorem reads_literal (he : IsEol eol) {name : String} (hn : quotable name) :
    Reads (" \"".toList ++ (name.toList ++ '"' :: (',' :: eol)))
      [.literal name.toList, .sign ','] := by
  have hs : run .between " \"".toList = some ([], .literal []) := by decide +kernel
  have hq : ∀ c ∈ name.toList, c ∉ ['"', '\\', '\r'] := fun c hc hm =>
    quotable_apart hn (List.sublist_append_left _ ['\n'] |>.subset hm) hc
  have hc : run .suffix (',' :: eol) = some ([.sign ','], .between) := by
    rcases he with rfl | rfl <;> decide +kernel
  have hv (value : List Char) : step (.literal value) '"' = some ([.literal value], .suffix) := rfl
  rw [Reads, run_append_of_some hs, ahead_nil, run_literal hq, run_cons_of_some (hv _), hc]
  rfl

/-- An escaped name and the rest of the line after a colon. Where the name does not spell its field,
it is not read, or the rest of the line is in a comment. -/
theorem readsIf_spelled {cls : EscapedClass} (h : cls.Sound) (ht : Reads t ts)
    (hl : run .line t = some ([], .between)) :
    ReadsIf cls.SpellsInside (cls.escaped.toList ++ ':' :: t)
      (identTokens cls ++ .sign ':' :: ts) := by
  obtain ⟨f, hf⟩ := h.exists_read?
  have hi : identTokens cls = [.word f] := by rw [identTokens, EscapedClass.fieldName?, hf]; rfl
  rw [hi]
  refine ⟨?_, fun us p hr => ?_⟩
  · rintro ⟨g, hg⟩
    obtain rfl : f = g := by simpa [hf] using FieldName.read?_eq_some_iff.mpr hg.spells
    rw [Reads, run_spellsInside hg, ht]
    rfl
  · rcases run_spelled (FieldName.read?_eq_some_iff.mp hf) with hs | hn | hc
    · rw [run_spellsInside hs, ht] at hr
      cases hr
      exact ⟨rfl, Nat.le_refl _, fun _ => ⟨f, hs⟩⟩
    · rw [hn] at hr
      cases hr
    · rw [hc, hl] at hr
      cases hr
      exact ⟨rfl, by simp, fun h => by simp at h⟩

/-! ### Fields and values -/

theorem reads_pub : Reads "    pub ".toList [plainWord "pub"] := by
  unfold Reads
  decide +kernel

theorem reads_indent : Reads "    ".toList [] := by
  unfold Reads
  decide +kernel

theorem readsIf_field (he : IsEol eol) {cls : EscapedClass} (h : cls.Sound) :
    ReadsIf cls.SpellsInside (fieldChars eol cls) (fieldTokens cls) := by
  have hl : run .line (" &'a str,".toList ++ eol) = some ([], .between) :=
    run_line_eol he (by decide +kernel)
  have hf := (reads_docs he h).readsIf.append
    (reads_pub.readsIf.append (readsIf_spelled h (reads_type he) hl))
  unfold fieldChars
  exact hf.of_iff (by rw [true_and, true_and])

theorem readsIf_value (he : IsEol eol) {cls : EscapedClass} (h : cls.Sound) :
    ReadsIf cls.SpellsInside (valueChars eol cls) (valueTokens cls) := by
  have hl : run .line (" \"".toList ++ (cls.name.toList ++ '"' :: (',' :: eol))) =
      some ([], .between) := by
    have hn : '\n' ∉ " \"".toList ++ (cls.name.toList ++ ['"', ',']) := by
      simpa using quotable_apart h.quotable (by decide : '\n' ∈ ['"', '\\', '\r', '\n'])
    simpa only [List.append_assoc, List.cons_append, List.nil_append] using run_line_eol he hn
  have hv := reads_indent.readsIf.append (readsIf_spelled h (reads_literal he h.quotable) hl)
  unfold valueChars
  exact hv.of_iff (by rw [true_and])

/-! ## Modules -/

/-- What comes before the fields of the struct. -/
def headTokens (classes : List EscapedClass) : List Token :=
  structHead ++ lifetimeTokens classes ++ [.sign '\x7b']

/-- What stands between the fields of the struct and the values of the instance. -/
def middleTokens : List Token :=
  [.sign '\x7d', plainWord "pub", plainWord "const", plainWord instanceName, .sign ':',
    plainWord structName, .sign '=', plainWord structName, .sign '\x7b']

theorem tokens_eq (classes : List EscapedClass) :
    tokens classes = headTokens classes ++ (classes.flatMap fieldTokens ++ (middleTokens ++
      (classes.flatMap valueTokens ++ [.sign '\x7d', .sign ';']))) := by
  unfold tokens structTokens instanceTokens headTokens middleTokens
  simp only [List.append_assoc, List.cons_append, List.nil_append]

theorem reads_head (he : IsEol eol) (classes : List EscapedClass) :
    Reads (headChars eol classes) (headTokens classes) := by
  unfold Reads headChars headTokens lifetimeTokens
  cases classes.isEmpty <;> rcases he with rfl | rfl <;> decide +kernel

/-- What stands between the fields of the struct and the values of the instance. -/
def middleChars (eol : List Char) : List Char :=
  '\x7d' :: (eol ++ (eol ++ ("pub const C: CssClasses = CssClasses \x7b".toList ++ eol)))

theorem instanceChars_eq (classes : List EscapedClass) : instanceChars eol classes =
    middleChars eol ++ (classes.flatMap (valueChars eol) ++ ("\x7d;".toList ++ eol)) := by
  unfold instanceChars middleChars
  simp only [List.append_assoc, List.cons_append]

theorem reads_middle (he : IsEol eol) : Reads (middleChars eol) middleTokens := by
  unfold Reads
  rcases he with rfl | rfl <;> decide +kernel

theorem reads_last (he : IsEol eol) :
    Reads ("\x7d;".toList ++ eol) [.sign '\x7d', .sign ';'] := by
  unfold Reads
  rcases he with rfl | rfl <;> decide +kernel

/-- The fields of the struct are read one after another, with the empty lines between them. -/
theorem readsIf_fields (he : IsEol eol) : ∀ {classes : List EscapedClass},
    (∀ cls ∈ classes, cls.Sound) → ReadsIf (∀ cls ∈ classes, cls.SpellsInside)
      (fieldsChars eol classes) (classes.flatMap fieldTokens)
  | [], h => readsIf_flatMap (show ∀ cls ∈ [], ReadsIf _ (fieldChars eol cls) _ from nofun)
  | cls :: rest, h => by
    obtain ⟨hc, hr⟩ := List.forall_mem_cons.mp h
    have hm : ∀ a ∈ rest, ReadsIf a.SpellsInside (eol ++ fieldChars eol a) (fieldTokens a) :=
      fun a ha => ((reads_eol he).readsIf.append (readsIf_field he (hr a ha))).of_iff <| by
        rw [true_and]
    exact ((readsIf_field he hc).append (readsIf_flatMap hm)).of_iff List.forall_mem_cons.symm

theorem readsIf_text {classes : List EscapedClass} (h : ∀ cls ∈ classes, cls.Sound)
    (lineEnding : LineEnding) : ReadsIf (∀ cls ∈ classes, cls.SpellsInside)
      (text classes lineEnding).toList (tokens classes) := by
  have he := lineEnding.isEol_text
  have hv := (readsIf_flatMap fun cls hc => readsIf_value he (h cls hc)).append
    (reads_last he).readsIf
  have hm := (reads_head he classes).readsIf.append
    ((readsIf_fields he h).append ((reads_middle he).readsIf.append hv))
  rw [toList_text, instanceChars_eq, tokens_eq]
  exact hm.of_iff ⟨fun h => h.2.1, fun h => ⟨trivial, h, trivial, h, trivial⟩⟩

/-- The text of a module has no byte order mark, so it is read from its start. -/
theorem ofText?_text (classes : List EscapedClass) (lineEnding : LineEnding) :
    Token.ofText? (text classes lineEnding).toList =
      (run .between (text classes lineEnding).toList).bind fun (ts, p) =>
        (finish p).map (ts ++ ·) := by
  have he := lineEnding.isEol_text
  have hm : FieldName.afterMark (text classes lineEnding).toList =
      (text classes lineEnding).toList := by
    rw [toList_text]
    unfold headChars
    rcases he with he | he <;> rw [he] <;> exact FieldName.afterMark_cons (by decide)
  rw [Token.ofText?, hm]

/-- The fields of accepted classes have names, and their module is read as the struct and the
instance if and only if each escaped name spells its field wherever it stands. -/
theorem emit_tokens_iff {classes : List EscapedClass} (h : validate classes = .ok ())
    (lineEnding : LineEnding) :
    (∀ cls ∈ classes, ∃ f, cls.fieldName? = some f) ∧
      (Token.ofText? (emit classes lineEnding).value.toList = some (tokens classes) ↔
        ∀ cls ∈ classes, cls.SpellsInside) := by
  have hs := (validate_eq_ok_iff.mp h).1
  refine ⟨fun cls hc => (hs cls hc).exists_read?, ?_⟩
  show Token.ofText? (text classes lineEnding).toList = _ ↔ _
  rw [ofText?_text]
  constructor
  · intro ht
    obtain ⟨⟨ts, p⟩, hr, hp⟩ := Option.bind_eq_some_iff.mp ht
    obtain ⟨rfl, -, hi⟩ := (readsIf_text hs lineEnding).fewer ts p hr
    obtain rfl : ts = tokens classes := by simpa [finish] using hp
    exact hi (Nat.le_refl _)
  · intro hi
    rw [(readsIf_text hs lineEnding).reads hi]
    simp [finish]

/-- A comment in front of a name is closed, so the name is read as the only token there. -/
theorem emit_tokens_iff_closedComment :
    let classes : List EscapedClass :=
      (EscapedClass.ofRecords .empty [⟨"/**/a", [⟨"b", some "c"⟩]⟩]).value
    validate classes = .ok () ∧
      Token.ofText? (emit classes .crLf).value.toList = some (tokens classes) := by
  intro classes
  have h : validate classes = .ok () := by decide +kernel
  have hf : FieldName.WellFormed ⟨['a'], false⟩ :=
    ⟨⟨'a', [], rfl, by decide +kernel, nofun⟩, by decide +kernel⟩
  have hi : ∀ cls ∈ classes, cls.SpellsInside := by
    intro cls hc
    cases List.mem_singleton.mp hc
    exact ⟨_, hf, ['/', '*', '*', '/'], [], by decide +kernel, .openBlock rfl (.close .between),
      .between⟩
  exact ⟨h, (emit_tokens_iff h .crLf).2.mpr hi⟩

/-- A class whose name ends in a comment that is open. -/
def openComment : List EscapedClass := (EscapedClass.ofRecords .empty [⟨"a //", []⟩]).value

/-- The comment takes in the type of the field, and the value of the field in the instance. -/
theorem openComment_tokens : validate openComment = .ok () ∧
    Token.ofText? (emit openComment .lf).value.toList ≠ some (tokens openComment) := by
  refine ⟨by decide +kernel, ?_⟩
  have h : Token.ofText? (emit openComment .lf).value.toList =
      some (headTokens openComment ++ [plainWord "pub", plainWord "a"] ++ middleTokens ++
        [plainWord "a", .sign '\x7d', .sign ';']) := by
    show Token.ofText? (text openComment .lf).toList = _
    rw [toList_text]
    decide +kernel
  rw [h]
  decide +kernel

end GeneratedModule

end ClassFields
