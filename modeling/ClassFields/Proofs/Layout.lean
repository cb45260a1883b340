import ClassFields.GeneratedModule
import ClassFields.Proofs.Acceptance

/-!
# The layout of generated modules

The generated text as a list of characters: what is fixed, and what stands in between of each class
(`toList_text`). A line of documentation is the text of its occurrence (`docText`) between a fixed
start and the end of the line, so the lines differ as their texts do (`docLines_eq`).
-/

namespace ClassFields

/-- The end of a line. -/
def IsEol (eol : List Char) : Prop := eol = ['\n'] ∨ eol = ['\r', '\n']

theorem LineEnding.isEol_text (ending : LineEnding) : IsEol ending.text.toList := by
  cases ending
  · exact .inl rfl
  · exact .inr rfl
  · exact .inl rfl

namespace GeneratedModule

/-! ## Documentation -/

/-- What a line of documentation says of an occurrence. -/
def docText (occurrence : Occurrence) : String :=
  match occurrence.mediaQuery? with
  | some media => " " ++ occurrence.property ++ ";" ++ indent ++ media
  | none => " " ++ occurrence.property ++ ";"

/-- What the lines of documentation say of a class. -/
def docTexts (cls : EscapedClass) : List String := firstOccurrences (cls.properties.map docText)

/-- A line of documentation that says something. -/
def docLineOf (eol text : String) : String := indent ++ "///" ++ text ++ eol

theorem docLine_eq (eol : String) (occurrence : Occurrence) :
    docLine eol occurrence = docLineOf eol (docText occurrence) := by
  apply String.toList_inj.mp
  unfold docLine docLineOf docText
  rcases occurrence.mediaQuery? with _ | media <;> simp

theorem docLineOf_inj {eol s t : String} (h : docLineOf eol s = docLineOf eol t) : s = t := by
  have := congrArg String.toList h
  simpa [docLineOf, String.toList_inj] using this

theorem firstOccurrences_map {f : String → String} (hf : ∀ s t, f s = f t → s = t) :
    ∀ l : List String, firstOccurrences (l.map f) = (firstOccurrences l).map f
  | [] => rfl
  | s :: l => by
    rw [List.map_cons, firstOccurrences, firstOccurrences, List.map_cons, firstOccurrences_map hf l,
      List.filter_map]
    refine congrArg (f s :: List.map f ·) (List.filter_congr fun t _ => ?_)
    by_cases h : t = s
    · simp [h]
    · exact (bne_iff_ne.mpr fun he => h (hf t s he)).trans (bne_iff_ne.mpr h).symm

theorem docLines_eq (eol : String) (cls : EscapedClass) :
    docLines eol cls = (docTexts cls).map (docLineOf eol) := by
  rw [docLines, docTexts, ← firstOccurrences_map fun s t => docLineOf_inj, List.map_map]
  exact congrArg firstOccurrences (List.map_congr_left fun o _ => docLine_eq eol o)

theorem mem_of_mem_firstOccurrences {text : String} :
    ∀ {l : List String}, text ∈ firstOccurrences l → text ∈ l
  | s :: l, h => by
    rcases List.mem_cons.mp h with rfl | h
    · exact List.mem_cons_self
    · exact List.mem_cons_of_mem _ (mem_of_mem_firstOccurrences (List.mem_filter.mp h).1)

/-- What documentation says starts with a blank. -/
theorem exists_cons_of_mem_docTexts {cls : EscapedClass} {text : String}
    (ht : text ∈ docTexts cls) : ∃ t, text.toList = ' ' :: t := by
  obtain ⟨o, -, rfl⟩ := List.mem_map.mp (mem_of_mem_firstOccurrences ht)
  unfold docText
  split <;> exact ⟨_, by simp only [String.toList_append, String.reduceToList]; rfl⟩

/-- What documentation says of an occurrence is on one line if the parts of the occurrence are. -/
theorem oneLine_docText (occurrence : Occurrence) :
    ClassFields.oneLine (docText occurrence) = occurrence.oneLine := by
  unfold docText Occurrence.oneLine ClassFields.oneLine
  rcases occurrence.mediaQuery? with _ | media <;> simp [indent]

theorem oneLine_of_mem_docTexts {cls : EscapedClass}
    (h : ∀ occurrence ∈ cls.properties, occurrence.oneLine) {text : String}
    (ht : text ∈ docTexts cls) : ClassFields.oneLine text := by
  obtain ⟨o, ho, rfl⟩ := List.mem_map.mp (mem_of_mem_firstOccurrences ht)
  rw [oneLine_docText]
  exact h o ho

/-! ## The text -/

/-- A line of documentation. -/
def docChars (eol : List Char) (text : String) : List Char :=
  "    ///".toList ++ (text.toList ++ eol)

/-- A field of the struct. -/
def fieldChars (eol : List Char) (cls : EscapedClass) : List Char :=
  (docTexts cls).flatMap (docChars eol) ++
    ("    pub ".toList ++ (cls.escaped.toList ++ ':' :: (" &'a str,".toList ++ eol)))

/-- The fields of the struct that come after another one. -/
def moreChars (eol : List Char) (classes : List EscapedClass) : List Char :=
  classes.flatMap fun cls => eol ++ fieldChars eol cls

/-- The fields of the struct. -/
def fieldsChars (eol : List Char) : List EscapedClass → List Char
  | [] => []
  | cls :: rest => fieldChars eol cls ++ moreChars eol rest

/-- The value of a field in the instance. -/
def valueChars (eol : List Char) (cls : EscapedClass) : List Char :=
  "    ".toList ++ (cls.escaped.toList ++ ':' :: (" \"".toList ++ (cls.name.toList ++
    '"' :: (',' :: eol))))

/-- What follows the fields of the struct. -/
def instanceChars (eol : List Char) (classes : List EscapedClass) : List Char :=
  '\x7d' :: (eol ++ (eol ++ ("pub const C: CssClasses = CssClasses \x7b".toList ++ (eol ++
    (classes.flatMap (valueChars eol) ++ ("\x7d;".toList ++ eol))))))

/-- What precedes the fields of the struct. -/
def headChars (eol : List Char) (classes : List EscapedClass) : List Char :=
  eol ++ (warning.toList ++ (eol ++ (eol ++ (attributes.toList ++ (eol ++
    ("pub struct CssClasses".toList ++ ((if classes.isEmpty then [] else "<'a>".toList) ++
      (" \x7b".toList ++ eol))))))))

/-! ### Before other text -/

section

variable {eol r : List Char}

theorem docChars_append (text : String) :
    docChars eol text ++ r = "    ///".toList ++ (text.toList ++ (eol ++ r)) := by
  unfold docChars
  simp only [List.append_assoc]

theorem fieldChars_append (cls : EscapedClass) :
    fieldChars eol cls ++ r = (docTexts cls).flatMap (docChars eol) ++ ("    pub ".toList ++
      (cls.escaped.toList ++ ':' :: (" &'a str,".toList ++ (eol ++ r)))) := by
  unfold fieldChars
  simp only [List.append_assoc, List.cons_append]

theorem valueChars_append (cls : EscapedClass) :
    valueChars eol cls ++ r = "    ".toList ++ (cls.escaped.toList ++ ':' :: (" \"".toList ++
      (cls.name.toList ++ '"' :: (',' :: (eol ++ r))))) := by
  unfold valueChars
  simp only [List.append_assoc, List.cons_append]

end

/-! ### Characters -/

theorem toList_concat (l : List String) : (concat l).toList = l.flatMap String.toList := by
  induction l with
  | nil => rfl
  | cons s l ih => rw [concat, String.toList_append, ih, List.flatMap_cons]

theorem toList_joined (sep s : String) (l : List String) :
    (joined sep (s :: l)).toList = s.toList ++ l.flatMap fun t => sep.toList ++ t.toList := by
  induction l generalizing s with
  | nil => simp [joined]
  | cons t l ih =>
    rw [joined, String.toList_append, String.toList_append, ih, List.flatMap_cons]
    · simp only [List.append_assoc]
    · nofun

theorem toList_docComment (eol : String) (cls : EscapedClass) :
    (docComment eol cls).toList = (docTexts cls).flatMap (docChars eol.toList) := by
  rw [docComment, toList_concat, docLines_eq, List.flatMap_map]
  refine congrArg (List.flatMap · _) (funext fun t => ?_)
  unfold docLineOf docChars
  simp only [String.toList_append, List.append_assoc]
  rfl

theorem toList_field (eol : String) (cls : EscapedClass) :
    (field eol cls).toList = fieldChars eol.toList cls := by
  unfold field fieldChars
  simp only [String.toList_append, toList_docComment, List.append_assoc]
  rfl

theorem toList_value (eol : String) (cls : EscapedClass) :
    (value eol cls).toList = valueChars eol.toList cls := by
  unfold value valueChars
  simp only [String.toList_append, List.append_assoc]
  rfl

theorem toList_fields (eol : String) (classes : List EscapedClass) :
    (joined eol (classes.map (field eol))).toList = fieldsChars eol.toList classes := by
  cases classes with
  | nil => rfl
  | cons cls rest =>
    rw [List.map_cons, toList_joined, toList_field, List.flatMap_map]
    simp only [toList_field]
    rfl

theorem toList_text (classes : List EscapedClass) (ending : LineEnding) :
    (text classes ending).toList =
      headChars ending.text.toList classes ++ (fieldsChars ending.text.toList classes ++
        instanceChars ending.text.toList classes) := by
  have hl : (if classes.isEmpty then "" else "<'a>").toList =
      if classes.isEmpty then [] else "<'a>".toList := by split <;> rfl
  have hs (rest : List Char) : "pub struct ".toList ++ (structName.toList ++ rest) =
      "pub struct CssClasses".toList ++ rest := rfl
  have hi (rest : List Char) : "pub const ".toList ++ (instanceName.toList ++ (": ".toList ++
      (structName.toList ++ (" = ".toList ++ (structName.toList ++ (" \x7b".toList ++ rest)))))) =
      "pub const C: CssClasses = CssClasses \x7b".toList ++ rest := rfl
  unfold text structText instanceText headChars instanceChars
  simp only [String.toList_append, toList_fields, toList_concat, List.flatMap_map, toList_value,
    List.append_assoc, hl, hs, hi]
  rfl

end GeneratedModule

end ClassFields
