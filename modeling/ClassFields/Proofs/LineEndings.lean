import ClassFields.Proofs.Layout

/-!
# Line endings of generated modules

A generated module is a list of lines, each with the line ending behind it, and the lines do not
depend on the line ending (`text_eq_lines`). So the two line endings differ by a replacement of each
pair `\r\n`, as long as the classes bring no such pair themselves (`emit_crLf_replace`).

* `toList_replace`: what replacing pairs makes of a text, character by character;
* `unixLines_lines`, `returned_lines`: a text of lines that end in pairs;
* `Seamless`: a property of lines that can be told from the names and other texts of the classes.
-/

namespace ClassFields

/-! ## Pairs -/

/-- A text with a line feed for each pair of a carriage return and a line feed. -/
def unixLines : List Char → List Char
  | '\r' :: '\n' :: rest => '\n' :: unixLines rest
  | c :: rest => c :: unixLines rest
  | [] => []

theorem unixLines_cons {c : Char} {rest : List Char} (h : ¬ ['\r', '\n'] <+: c :: rest) :
    unixLines (c :: rest) = c :: unixLines rest := by
  rw [unixLines]
  rintro t rfl rfl
  exact h ⟨t, rfl⟩

/-- Up to where a pair starts, a text stays. -/
theorem unixLines_append {u rest : List Char}
    (h : ∀ a c b, u = a ++ c :: b → ¬ ['\r', '\n'] <+: c :: (b ++ rest)) :
    unixLines (u ++ rest) = u ++ unixLines rest := by
  induction u with
  | nil => rfl
  | cons c u ih =>
    have hu : unixLines (u ++ rest) = u ++ unixLines rest :=
      ih fun a d b he => h (c :: a) d b (congrArg (c :: ·) he)
    rw [List.cons_append, unixLines_cons (h [] c u rfl), hu, List.cons_append]

section

open String.Slice String.Slice.Pattern String.Slice.Pattern.Model

variable {s : String.Slice} {start stop : s.Pos} {u v w : String}

/-- What replacing makes of a step of a search. -/
def replaceStep (sofar : String) : SearchStep s → String
  | .matched .. => sofar ++ "\n".toSlice
  | .rejected start stop => sofar ++ s.slice! start stop

/-- Where a search finds nothing, no pair starts. -/
theorem unixLines_of_not_matchesAt (hp : start.Splits u (w ++ v)) (hq : stop.Splits (u ++ w) v)
    (h : ∀ pos, start ≤ pos → pos < stop → ¬ MatchesAt "\r\n" pos) :
    unixLines (w ++ v).toList = w.toList ++ unixLines v.toList := by
  rw [String.toList_append]
  refine unixLines_append ?_
  rintro a c b hw ⟨t, ht⟩
  have ha : w = String.ofList a ++ String.ofList (c :: b) := by
    rw [← String.ofList_append, ← hw, String.ofList_toList]
  have hx : "\r\n" ++ String.ofList t = String.ofList (c :: b) ++ v :=
    String.toList_inj.mp (by simpa using ht)
  have he : s.copy = (u ++ String.ofList a) ++ ("\r\n" ++ String.ofList t) := by
    rw [hp.eq_append, ha, hx, String.append_assoc, String.append_assoc]
  have hm := Pos.splits_ofEqAppend he
  have h₁ : start ≤ .ofEqAppend he :=
    (hp.le_iff_exists_eq_append hm).mpr ⟨_, rfl, by rw [ha, hx, String.append_assoc]⟩
  have h₂ : .ofEqAppend he < stop :=
    (hm.lt_iff_exists_eq_append hq).mpr ⟨_, by simp, by rw [ha, String.append_assoc], hx⟩
  exact h _ h₁ h₂ (ForwardStringSearcher.matchesAt_iff_splits.mpr ⟨_, _, hm⟩)

/-- From each step of a search on, what is left is replaced as `unixLines` does. -/
theorem toList_foldl_replaceStep {steps : List (SearchStep s)}
    (h : IsValidSearchFrom "\r\n" start steps) (hp : start.Splits u v) (sofar : String) :
    (steps.foldl replaceStep sofar).toList = sofar.toList ++ unixLines v.toList := by
  induction h generalizing u v sofar with
  | endPos =>
    obtain ⟨-, rfl⟩ := splits_endPos_iff.mp hp
    rw [List.foldl_nil, String.toList_empty, unixLines, List.append_nil]
  | matched hm _ ih =>
    obtain ⟨t, rest, h₁, h₂⟩ := ForwardStringSearcher.isLongestMatchAt_iff_splits.mp hm
    rw [List.foldl_cons, ih h₂, hp.eq_right h₁]
    simp [replaceStep, unixLines]
  | @mismatched _ start stop hl hn _ ih =>
    obtain ⟨w, -, hw, rfl⟩ := (hp.lt_iff_exists_eq_append stop.splits).mp hl
    have hq : stop.Splits (u ++ w) (s.sliceFrom stop).copy := hw ▸ stop.splits
    obtain ⟨hle, hs⟩ := copy_slice_eq_iff_splits.mpr ⟨u, _, hp, hq⟩
    rw [List.foldl_cons, ih hq, unixLines_of_not_matchesAt hp hq hn]
    simp [replaceStep, ← slice_eq_slice! (h := hle), hs]

/-- Replacing pairs, character by character. -/
theorem toList_replace (text : String) :
    (text.replace "\r\n" "\n").toList = unixLines text.toList := by
  have hn : "\r\n" ≠ "" := by decide
  have hv := (ForwardStringSearcher.lawfulToForwardSearcherModel hn).isValidSearchFrom_toList
    text.toSlice
  have hf := toList_foldl_replaceStep hv (splits_startPos _) ""
  rw [String.toList_empty, List.nil_append, String.copy_toSlice] at hf
  rw [← hf, String.replace, String.Slice.replace, ← Std.Iter.foldl_toList]
  congr 2
  funext sofar step
  cases step <;> rfl

end

/-! ## Lines that end in pairs -/

/-- A text has no pair. -/
def Unpaired (text : List Char) : Prop := ¬ ['\r', '\n'] <:+: text

/-- Each line feed of a text stands behind a carriage return. -/
def Returned (text : List Char) : Prop :=
  ∀ u v, text = u ++ '\n' :: v → u.getLast? = some '\r'

theorem unixLines_line {line : List Char} (h : Unpaired line) (rest : List Char) :
    unixLines (line ++ (['\r', '\n'] ++ rest)) = line ++ '\n' :: unixLines rest := by
  rw [unixLines_append]
  · rfl
  rintro a c b rfl ⟨t, ht⟩
  obtain ⟨rfl, hb⟩ := List.cons_eq_cons.mp ht
  rcases b with _ | ⟨d, b⟩
  · cases hb
  · obtain ⟨rfl, -⟩ := List.cons_eq_cons.mp hb
    exact h ⟨a, b, by simp⟩

theorem unixLines_lines {lines : List (List Char)} (h : ∀ line ∈ lines, Unpaired line) :
    unixLines (lines.flatMap (· ++ ['\r', '\n'])) = lines.flatMap (· ++ ['\n']) := by
  induction lines with
  | nil => rfl
  | cons line lines ih =>
    obtain ⟨hl, hr⟩ := List.forall_mem_cons.mp h
    rw [List.flatMap_cons, List.append_assoc, unixLines_line hl, ih hr, List.flatMap_cons,
      List.append_assoc]
    rfl

theorem Returned.append {text more : List Char} (h : Returned text) (hm : Returned more) :
    Returned (text ++ more) := by
  intro u v he
  rcases List.append_eq_append_iff.mp he with ⟨a, rfl, ha⟩ | ⟨b, rfl, hb⟩
  · rw [List.getLast?_append, hm a v ha, Option.some_or]
  rcases b with _ | ⟨c, b⟩
  · cases hm [] v hb.symm
  · obtain ⟨rfl, -⟩ := List.cons_eq_cons.mp hb
    exact h u b rfl

theorem returned_of_notMem {text : List Char} (h : '\n' ∉ text) : Returned text := by
  rintro u v rfl
  exact absurd (by simp) h

theorem returned_pair : Returned ['\r', '\n'] := by
  intro u v he
  rcases List.cons_eq_append_iff.mp he with ⟨-, hc⟩ | ⟨u, rfl, hu⟩
  · cases hc
  rcases List.cons_eq_append_iff.mp hu with ⟨rfl, -⟩ | ⟨_, -, hn⟩
  · rfl
  · exact absurd hn (by simp)

theorem returned_lines {lines : List (List Char)} (h : ∀ line ∈ lines, '\n' ∉ line) :
    Returned (lines.flatMap (· ++ ['\r', '\n'])) := by
  induction lines with
  | nil => exact returned_of_notMem List.not_mem_nil
  | cons line lines ih =>
    obtain ⟨hl, hr⟩ := List.forall_mem_cons.mp h
    exact ((returned_of_notMem hl).append returned_pair).append (ih hr)

/-! ## The lines of a module -/

namespace GeneratedModule

/-- The lines that document and declare a field. -/
def fieldLines (cls : EscapedClass) : List String :=
  docLines "" cls ++ [indent ++ "pub " ++ cls.escaped ++ ": &'a str,"]

/-- The lines of the fields, with an empty one between two. -/
def structLines : List EscapedClass → List String
  | [] => []
  | [cls] => fieldLines cls
  | cls :: rest => fieldLines cls ++ "" :: structLines rest

/-- The lines before the fields. -/
def headLines (classes : List EscapedClass) : List String :=
  ["", warning, "", attributes,
    "pub struct " ++ structName ++ (if classes.isEmpty then "" else "<'a>") ++ " \x7b"]

/-- The lines between the fields and their values. -/
def middleLines : List String :=
  ["\x7d", "", "pub const " ++ instanceName ++ ": " ++ structName ++ " = " ++ structName ++ " \x7b"]

/-- The lines of a module. -/
def lines (classes : List EscapedClass) : List String :=
  headLines classes ++ structLines classes ++ middleLines ++ classes.map (value "") ++ ["\x7d;"]

/-- Lines with an end behind each. -/
def ended (eol : String) (lines : List String) : String := concat (lines.map (· ++ eol))

section

variable (eol : String)

theorem ended_cons (line : String) (lines : List String) :
    ended eol (line :: lines) = line ++ eol ++ ended eol lines := rfl

theorem ended_nil : ended eol [] = "" := rfl

theorem ended_append (lines more : List String) :
    ended eol (lines ++ more) = ended eol lines ++ ended eol more := by
  induction lines with
  | nil => rw [List.nil_append, ended_nil, String.empty_append]
  | cons line lines ih =>
    rw [List.cons_append, ended_cons, ended_cons, ih]
    simp only [String.append_assoc]

theorem ended_docLines (cls : EscapedClass) : ended eol (docLines "" cls) = docComment eol cls := by
  have he : (docLines "" cls).map (· ++ eol) = docLines eol cls := by
    rw [docLines_eq, docLines_eq, List.map_map]
    exact List.map_congr_left fun text _ => by simp [docLineOf]
  rw [ended, he, docComment]

theorem ended_fieldLines (cls : EscapedClass) : ended eol (fieldLines cls) = field eol cls := by
  rw [fieldLines, ended_append, ended_docLines, ended_cons, ended_nil, field]
  simp only [String.append_assoc, String.append_empty]

theorem ended_values (classes : List EscapedClass) :
    ended eol (classes.map (value "")) = concat (classes.map (value eol)) := by
  rw [ended, List.map_map]
  refine congrArg concat (List.map_congr_left fun cls _ => ?_)
  simp [value, String.append_assoc]

theorem ended_structLines : ∀ classes : List EscapedClass,
    ended eol (structLines classes) = joined eol (classes.map (field eol))
  | [] => rfl
  | [cls] => ended_fieldLines eol cls
  | cls :: other :: rest => by
    have hr := ended_structLines (other :: rest)
    rw [structLines, ended_append, ended_cons, ended_fieldLines, hr, String.empty_append]
    · exact String.append_assoc.symm
    · nofun

/-- A module is its lines, whatever the line ending. -/
theorem text_eq_lines (classes : List EscapedClass) (ending : LineEnding) :
    text classes ending = ended ending.text (lines classes) := by
  rw [lines, ended_append, ended_append, ended_append, ended_append, ended_structLines,
    ended_values, headLines, middleLines]
  simp only [ended_cons, ended_nil]
  unfold text structText instanceText
  generalize (if classes.isEmpty then "" else "<'a>") = lifetime
  generalize ending.text = eol
  simp only [String.append_assoc, String.append_empty, String.empty_append]

theorem toList_ended (lines : List String) :
    (ended eol lines).toList = (lines.map String.toList).flatMap (· ++ eol.toList) := by
  rw [ended, toList_concat, List.flatMap_map, List.flatMap_map]
  simp only [String.toList_append]

end

/-! ## What the classes bring -/

/-- A property of texts that text on one line has, and that two texts with a character of a line
between them have if both have it. -/
structure Seamless (P : List Char → Prop) : Prop where
  fixed : ∀ {text : List Char}, (∀ c ∈ text, c ≠ '\n' ∧ c ≠ '\r') → P text
  joined : ∀ {u v : List Char} {c : Char}, P u → P v → c ≠ '\n' ∧ c ≠ '\r' → P (u ++ c :: v)

theorem seamless_unpaired : Seamless Unpaired where
  fixed hf hi := (hf '\n' (hi.subset (by simp))).1 rfl
  joined := by
    rintro u v c hu hv ⟨hn, hr⟩ hi
    rcases List.infix_append_iff.mp hi with hi | hi | ⟨a, b, hab, ha, hb⟩
    · exact hu hi
    · rcases List.infix_cons_iff.mp hi with hp | hi
      · exact hr (List.cons_prefix_cons.mp hp).1.symm
      · exact hv hi
    rcases b with _ | ⟨d, b⟩
    · rw [List.append_nil] at hab
      exact hu (hab ▸ ha.isInfix)
    · obtain ⟨rfl, -⟩ := List.cons_prefix_cons.mp hb
      have hm : d ∈ ['\r', '\n'] := hab ▸ by simp
      simp [hn, hr] at hm

theorem seamless_notMem : Seamless ('\n' ∉ ·) where
  fixed hf hm := (hf '\n' hm).1 rfl
  joined hu hv hc hm := by
    rcases List.mem_append.mp hm with hm | hm
    · exact hu hm
    · exact (List.mem_cons.mp hm).elim (fun he => hc.1 he.symm) hv

/-- The texts of a class that stand in a module as they are. -/
def textsOf (cls : EscapedClass) : List String :=
  cls.name :: cls.escaped :: cls.properties.flatMap fun occurrence =>
    occurrence.property :: occurrence.media.toList

namespace Seamless

variable {P : List Char → Prop} {u v : List Char} {cls : EscapedClass} {line : String}

theorem front (h : Seamless P) {text : List Char} (ht : ∀ c ∈ text, c ≠ '\n' ∧ c ≠ '\r')
    (hv : P v) : P (text ++ v) := by
  induction text with
  | nil => exact hv
  | cons c rest ih =>
    obtain ⟨hc, hr⟩ := List.forall_mem_cons.mp ht
    exact h.joined (h.fixed fun _ hm => absurd hm List.not_mem_nil) (ih hr) hc

theorem between (h : Seamless P) (text : String) (ht : text ≠ "" ∧ oneLine text) (hu : P u)
    (hv : P v) : P (u ++ (text.toList ++ v)) := by
  obtain ⟨c, rest, he⟩ := List.exists_cons_of_ne_nil (mt String.toList_eq_nil_iff.mp ht.1)
  have hc := oneLine_iff.mp ht.2
  rw [he] at hc ⊢
  obtain ⟨hc, hr⟩ := List.forall_mem_cons.mp hc
  exact h.joined hu (h.front hr hv) hc

theorem fixedLine (h : Seamless P) (text : String) (ht : oneLine text) : P text.toList :=
  h.fixed (oneLine_iff.mp ht)

theorem nil (h : Seamless P) : P [] := h.fixedLine "" (by decide)

theorem of_docLine (h : Seamless P) (hc : ∀ text ∈ textsOf cls, P text.toList)
    {occurrence : Occurrence} (ho : occurrence ∈ cls.properties) :
    P (docLine "" occurrence).toList := by
  have ht : ∀ text ∈ occurrence.property :: occurrence.media.toList, P text.toList :=
    fun text hm => hc text (List.mem_cons_of_mem _ (List.mem_cons_of_mem _
      (List.mem_flatMap.mpr ⟨occurrence, ho, hm⟩)))
  obtain ⟨hp, hm⟩ := List.forall_mem_cons.mp ht
  unfold docLine
  split
  · rename_i media he
    have hq : media ∈ occurrence.media := (Option.filter_eq_some_iff.mp he).1
    have hl := h.between ";    " (by decide) hp (hm media (Option.mem_toList.mpr hq))
    simpa [indent] using h.between "    /// " (by decide) h.nil hl
  · have hl := h.between ";" (by decide) hp h.nil
    simpa [indent] using h.between "    /// " (by decide) h.nil hl

theorem of_mem_fieldLines (h : Seamless P) (hc : ∀ text ∈ textsOf cls, P text.toList)
    (hl : line ∈ fieldLines cls) : P line.toList := by
  rcases List.mem_append.mp hl with hl | hl
  · obtain ⟨occurrence, ho, rfl⟩ := List.mem_map.mp (mem_of_mem_firstOccurrences hl)
    exact h.of_docLine hc ho
  · have he := h.between ": &'a str," (by decide) (hc cls.escaped (by simp [textsOf])) h.nil
    rw [List.mem_singleton.mp hl]
    simpa [indent] using h.between "    pub " (by decide) h.nil he

theorem of_mem_structLines (h : Seamless P) {classes : List EscapedClass}
    (hc : ∀ cls ∈ classes, ∀ text ∈ textsOf cls, P text.toList)
    (hl : line ∈ structLines classes) : P line.toList := by
  induction classes using structLines.induct with
  | case1 => cases hl
  | case2 cls => exact h.of_mem_fieldLines (hc cls List.mem_cons_self) hl
  | case3 cls rest hne ih =>
    obtain ⟨hc, hr⟩ := List.forall_mem_cons.mp hc
    rw [structLines.eq_3 cls rest hne, List.mem_append, List.mem_cons] at hl
    rcases hl with hl | rfl | hl
    · exact h.of_mem_fieldLines hc hl
    · exact h.nil
    · exact ih hr hl

theorem of_value (h : Seamless P) (hc : ∀ text ∈ textsOf cls, P text.toList) :
    P (value "" cls).toList := by
  have hn := h.between "\"," (by decide) (hc cls.name (by simp [textsOf])) h.nil
  have he := h.between ": \"" (by decide) (hc cls.escaped (by simp [textsOf])) hn
  simpa [value, indent] using h.between "    " (by decide) h.nil he

/-- A property of the texts that classes bring is one of the lines of their module. -/
theorem of_mem_lines (h : Seamless P) {classes : List EscapedClass}
    (hc : ∀ cls ∈ classes, ∀ text ∈ textsOf cls, P text.toList)
    (hl : line ∈ lines classes) : P line.toList := by
  have hh : ∀ text ∈ headLines classes, oneLine text := by
    unfold headLines
    cases classes.isEmpty <;> decide
  have hm : ∀ text ∈ middleLines, oneLine text := by decide
  simp only [lines, List.mem_append] at hl
  rcases hl with (((hl | hl) | hl) | hl) | hl
  · exact h.fixedLine line (hh line hl)
  · exact h.of_mem_structLines hc hl
  · exact h.fixedLine line (hm line hl)
  · obtain ⟨cls, hm, rfl⟩ := List.mem_map.mp hl
    exact h.of_value (hc cls hm)
  · rw [List.mem_singleton.mp hl]
    exact h.fixedLine _ (by decide)

end Seamless

/-! ## The two line endings -/

/-- Where the classes bring no pair `\r\n`, replacing the pairs in the module with such line endings
gives the module with line feeds. Where they bring no line feed either, each line feed of the former
stands behind a carriage return. -/
theorem emit_crLf_replace (classes : List EscapedClass)
    (h : ∀ cls ∈ classes, ∀ text ∈ textsOf cls, ¬ ['\r', '\n'] <:+: text.toList) :
    (emit classes .crLf).value.replace "\r\n" "\n" = (emit classes .lf).value ∧
      ((∀ cls ∈ classes, ∀ text ∈ textsOf cls, '\n' ∉ text.toList) →
        ∀ u v, (emit classes .crLf).value.toList = u ++ '\n' :: v → u.getLast? = some '\r') := by
  have ht (ending : LineEnding) : (emit classes ending).value.toList =
      ((lines classes).map String.toList).flatMap (· ++ ending.text.toList) := by
    rw [← toList_ended, ← text_eq_lines]
    rfl
  constructor
  · have hl : ∀ line ∈ (lines classes).map String.toList, Unpaired line :=
      List.forall_mem_map.mpr fun line => seamless_unpaired.of_mem_lines h
    apply String.toList_inj.mp
    rw [toList_replace, ht, ht]
    exact unixLines_lines hl
  · intro hn
    have hl : ∀ line ∈ (lines classes).map String.toList, '\n' ∉ line :=
      List.forall_mem_map.mpr fun line => seamless_notMem.of_mem_lines hn
    rw [ht]
    exact returned_lines hl

/-- Classes with carriage returns at the ends of their texts, and an occurrence that is there
twice. -/
def returnClasses : List EscapedClass :=
  [⟨⟨"a\r", [⟨"b\r", some "@media print\r"⟩, ⟨"c", none⟩, ⟨"c", some ""⟩]⟩, "a\r"⟩,
   ⟨⟨"\rd", []⟩, "\rd"⟩]

theorem emit_crLf_replace_returns :
    (∀ cls ∈ returnClasses, ∀ text ∈ textsOf cls, ¬ ['\r', '\n'] <:+: text.toList) ∧
    (∀ cls ∈ returnClasses, ∀ text ∈ textsOf cls, '\n' ∉ text.toList) ∧
    (emit returnClasses .crLf).value.replace "\r\n" "\n" = (emit returnClasses .lf).value ∧
      ∀ u v, (emit returnClasses .crLf).value.toList = u ++ '\n' :: v → u.getLast? = some '\r' :=
  have h : ∀ cls ∈ returnClasses, ∀ text ∈ textsOf cls, ¬ ['\r', '\n'] <:+: text.toList := by
    decide +kernel
  have hn : ∀ cls ∈ returnClasses, ∀ text ∈ textsOf cls, '\n' ∉ text.toList := by decide +kernel
  have he := emit_crLf_replace returnClasses h
  ⟨h, hn, he.1, he.2 hn⟩

end GeneratedModule

end ClassFields
