import ClassFields.Proofs.Acceptance
import ClassFields.Proofs.Spelling

/-!
# Declared fields

`validate` compares escaped names as texts, but a name can be spelled in several ways. The names
that fields are declared with are different exactly if no two of the texts spell the same word
(`declared_nodup_iff`).
-/

namespace ClassFields

namespace FieldName

/-- A text that a word is read from, raw or not. -/
def SpellsWord (word text : List Char) : Prop := ∃ raw, Spells ⟨word, raw⟩ text

theorem spellsWord_iff {word text : List Char} {f : FieldName} (h : read? text = some f) :
    SpellsWord word text ↔ word = f.name := by
  constructor
  · rintro ⟨raw, hs⟩
    rw [← read?_eq_some_iff, h] at hs
    cases hs
    rfl
  · rintro rfl
    exact ⟨f.raw, read?_eq_some_iff.mp h⟩

end FieldName

/-- The name that the field of a class is declared with. -/
def EscapedClass.fieldName? (cls : EscapedClass) : Option FieldName :=
  FieldName.read? cls.escaped.toList

/-- Sound classes have field names. -/
theorem exists_fieldNames {classes : List EscapedClass} (h : ∀ cls ∈ classes, cls.Sound) :
    ∃ names : List FieldName, classes.map EscapedClass.fieldName? = names.map some := by
  induction classes with
  | nil => exact ⟨[], rfl⟩
  | cons cls rest ih =>
    obtain ⟨f, hf⟩ := (h cls List.mem_cons_self).exists_read?
    obtain ⟨names, hn⟩ := ih fun other ho => h other (List.mem_cons_of_mem _ ho)
    exact ⟨f :: names, by rw [List.map_cons, List.map_cons, hn, EscapedClass.fieldName?, hf]⟩

/-- Sound classes are declared with different words if no word is read from both escaped names. -/
theorem fieldName?_ne_iff {a b : EscapedClass} (ha : a.Sound) (hb : b.Sound) :
    (∀ word, ¬ (FieldName.SpellsWord word a.escaped.toList ∧
        FieldName.SpellsWord word b.escaped.toList)) ↔
      a.fieldName?.map FieldName.name ≠ b.fieldName?.map FieldName.name := by
  obtain ⟨f, hf⟩ := ha.exists_read?
  obtain ⟨g, hg⟩ := hb.exists_read?
  simp only [FieldName.spellsWord_iff hf, FieldName.spellsWord_iff hg, EscapedClass.fieldName?, hf,
    hg, Option.map_some, ne_eq, Option.some.injEq]
  constructor
  · intro h he
    exact h f.name ⟨rfl, he⟩
  · rintro h word ⟨rfl, he⟩
    exact h he

/-- The fields of accepted classes have names, which are different if and only if no two of the
escaped names are spellings of one word. -/
theorem declared_nodup_iff {classes : List EscapedClass} (h : validate classes = .ok ()) :
    ∃ names : List FieldName, classes.map EscapedClass.fieldName? = names.map some ∧
      ((names.map FieldName.name).Nodup ↔ classes.Pairwise fun a b => ∀ word,
        ¬ (FieldName.SpellsWord word a.escaped.toList ∧
          FieldName.SpellsWord word b.escaped.toList)) := by
  have hs := (validate_eq_ok_iff.mp h).1
  obtain ⟨names, hn⟩ := exists_fieldNames hs
  refine ⟨names, hn, ?_⟩
  calc (names.map FieldName.name).Nodup
    _ ↔ (names.map some).Pairwise fun x y => x.map FieldName.name ≠ y.map FieldName.name := by
      simp [List.Nodup, List.pairwise_map]
    _ ↔ classes.Pairwise fun a b =>
          a.fieldName?.map FieldName.name ≠ b.fieldName?.map FieldName.name := by
      rw [← hn, List.pairwise_map]
    _ ↔ _ := .symm <| List.Pairwise.iff_of_mem fun ha hb => fieldName?_ne_iff (hs _ ha) (hs _ hb)

/-- The classes of two names that the table without rules leaves alone. -/
def rawTwins : List EscapedClass := (EscapedClass.ofRecords .empty [⟨"a", []⟩, ⟨"r#a", []⟩]).value

theorem declared_nodup_iff_rawTwins : validate rawTwins = .ok () ∧
    ∃ names : List FieldName, rawTwins.map EscapedClass.fieldName? = names.map some ∧
      ((names.map FieldName.name).Nodup ↔ rawTwins.Pairwise fun a b => ∀ word,
        ¬ (FieldName.SpellsWord word a.escaped.toList ∧
          FieldName.SpellsWord word b.escaped.toList)) :=
  have h : validate rawTwins = .ok () := by decide +kernel
  ⟨h, declared_nodup_iff h⟩

/-- Two accepted classes may be declared with one word. -/
theorem rawTwins_declared : validate rawTwins = .ok () ∧
    rawTwins.map EscapedClass.fieldName? = [some ⟨['a'], false⟩, some ⟨['a'], true⟩] ∧
    ¬ (rawTwins.map fun cls => cls.fieldName?.map FieldName.name).Nodup := by
  decide +kernel

end ClassFields
