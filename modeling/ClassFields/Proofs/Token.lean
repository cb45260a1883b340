import ClassFields.Proofs.Spelling

/-!
# Tokens

What the text of a module is read as. `Token.step` takes a reader one character on, and `Token.run`
a text, so that texts one after another are read one after another (`run_append`). A text in which
anything else than the tokens of modules begins is not read.

A text that spells the name of a field does so by itself. In a module, where it goes on with a
colon, it is read as the name and the colon (`run_spellsInside`), or it is not read, or its last
comment goes on over the colon (`run_spelled`).
-/

namespace ClassFields

/-- A token of a module. Keywords are words, and signs are one character each. -/
inductive Token where
  | word (name : FieldName)
  | lifetime (name : List Char)
  | literal (value : List Char)
  | doc (text : List Char)
  | sign (c : Char)
  deriving DecidableEq, Repr

namespace Token

open FieldName Unicode

/-! ## Reading -/

/-- The blanks between the tokens of a module. -/
def whites : List Char :=
  ['\t', '\n', '\x0b', '\x0c', '\r', ' ', '\u0085', '\u200e', '\u200f', '\u2028', '\u2029']

/-- Whether a character is a blank between the tokens of a module. Not all of `isGap` are. -/
def isWhite (c : Char) : Bool := whites.contains c

/-- The signs that are tokens. -/
def isSign (c : Char) : Bool := "!#$%&()*+,-.:;<=>?@[]^\x7b|\x7d~".toList.contains c

/-- Where a reader of tokens is. -/
inductive Place where
  | between
  /-- After a slash. -/
  | slash
  /-- After two slashes. -/
  | slashes
  | line
  /-- In a documentation comment, with its text so far. -/
  | doc (text : List Char)
  /-- After a carriage return in a documentation comment. -/
  | docReturn (text : List Char)
  /-- After a slash and a star. -/
  | opening
  /-- After a slash and two stars. -/
  | openingStar
  /-- In a block comment that a number of further ones are open around, with the last character. -/
  | block (depth : Nat) (last : Char)
  | word (name : FieldName)
  /-- After the mark of a raw identifier. -/
  | rawMark
  /-- After a single quote. -/
  | quote
  | lifetime (name : List Char)
  | literal (value : List Char)
  /-- After a literal, where it may not go on with a suffix. -/
  | suffix
  deriving DecidableEq, Repr

/-- Reads the first character of a token, or one between tokens. -/
def start (c : Char) : Option (List Token × Place) :=
  if isWhite c then some ([], .between)
  else if c == '/' then some ([], .slash)
  else if c == '"' then some ([], .literal [])
  else if c == '\'' then some ([], .quote)
  else if isStart c then some ([], .word ⟨[c], false⟩)
  else if isSign c then some ([.sign c], .between)
  else none

/-- What is read, with tokens before it. -/
def ahead (ts : List Token) (r : Option (List Token × Place)) : Option (List Token × Place) :=
  r.map fun (us, p) => (ts ++ us, p)

/-- The place around a block comment that is closed. -/
def closed : Nat → Place
  | 0 => .between
  | depth + 1 => .block depth ' '

/-- Reads a character: the tokens that it ends, and the place after it. -/
def step : Place → Char → Option (List Token × Place)
  | .between, c => start c
  | .slash, c =>
    if c == '/' then some ([], .slashes)
    else if c == '*' then some ([], .opening)
    else ahead [.sign '/'] (start c)
  | .slashes, c =>
    if c == '\n' then some ([], .between)
    else if c == '/' then some ([], .doc [])
    else if c == '!' then none
    else some ([], .line)
  | .line, c => if c == '\n' then some ([], .between) else some ([], .line)
  | .doc text, c =>
    if c == '\n' then some ([.doc text], .between)
    else if c == '\r' then some ([], .docReturn text)
    else if text.isEmpty && c == '/' then some ([], .line)
    else some ([], .doc (text ++ [c]))
  | .docReturn text, c => if c == '\n' then some ([.doc text], .between) else none
  | .opening, c =>
    if c == '!' then none
    else if c == '*' then some ([], .openingStar)
    else some ([], .block 0 c)
  | .openingStar, c =>
    if c == '/' then some ([], .between)
    else if c == '*' then some ([], .block 0 c)
    else none
  | .block depth last, c =>
    if last == '/' && c == '*' then some ([], .block (depth + 1) ' ')
    else if last == '*' && c == '/' then some ([], closed depth)
    else some ([], .block depth c)
  | .word f, c =>
    if isXidContinue c then some ([], .word { f with name := f.name ++ [c] })
    else if c == '#' then (if f = ⟨['r'], false⟩ then some ([], .rawMark) else none)
    else if c == '"' || c == '\'' then none
    else ahead [.word f] (start c)
  | .rawMark, c => if isStart c then some ([], .word ⟨[c], true⟩) else none
  | .quote, c => if isStart c then some ([], .lifetime [c]) else none
  | .lifetime name, c =>
    if isXidContinue c then some ([], .lifetime (name ++ [c]))
    else if c == '\'' || c == '#' then none
    else ahead [.lifetime name] (start c)
  | .literal value, c =>
    if c == '"' then some ([.literal value], .suffix)
    else if c == '\\' || c == '\r' then none
    else some ([], .literal (value ++ [c]))
  | .suffix, c => if isStart c then none else start c

/-- Reads a text from a place: its tokens, and the place after it. -/
def run (p : Place) : List Char → Option (List Token × Place)
  | [] => some ([], p)
  | c :: rest => (step p c).bind fun (ts, q) => ahead ts (run q rest)

/-- The tokens that the end of a text ends. -/
def finish : Place → Option (List Token)
  | .between | .slashes | .line | .suffix => some []
  | .slash => some [.sign '/']
  | .doc text => some [.doc text]
  | .word f => some [.word f]
  | .lifetime name => some [.lifetime name]
  | .docReturn _ | .opening | .openingStar | .block _ _ | .rawMark | .quote | .literal _ => none

/-- The tokens of a file. A byte order mark may be at its start. -/
def ofText? (text : List Char) : Option (List Token) :=
  (run .between (afterMark text)).bind fun (ts, p) => (finish p).map (ts ++ ·)

/-! ## Runs -/

variable {p q : Place} {s t rest : List Char} {ts us : List Token}

@[simp]
theorem ahead_none : ahead ts none = none := rfl

@[simp]
theorem ahead_nil (r : Option (List Token × Place)) : ahead [] r = r := by
  rcases r with _ | ⟨us, p⟩ <;> rfl

theorem ahead_ahead (r : Option (List Token × Place)) :
    ahead ts (ahead us r) = ahead (ts ++ us) r := by
  rcases r with _ | ⟨vs, p⟩
  · rfl
  · simp [ahead]

theorem ahead_bind (r : Option (List Token × Place)) :
    (ahead ts r).bind (fun (us, p) => ahead us (run p rest)) =
      ahead ts (r.bind fun (us, p) => ahead us (run p rest)) := by
  rcases r with _ | ⟨us, p⟩
  · rfl
  · exact (ahead_ahead _).symm

theorem run_cons (p : Place) (c : Char) :
    run p (c :: rest) = (step p c).bind fun (ts, q) => ahead ts (run q rest) := rfl

/-- Texts one after another are read one after another. -/
theorem run_append (p : Place) (s t : List Char) :
    run p (s ++ t) = (run p s).bind fun (ts, q) => ahead ts (run q t) := by
  induction s generalizing p with
  | nil => exact (ahead_nil _).symm
  | cons c s ih =>
    rw [List.cons_append, run_cons, run_cons]
    rcases step p c with _ | ⟨ts, q⟩
    · rfl
    · simp only [Option.bind_some, ih]
      rcases run q s with _ | ⟨us, r⟩
      · rfl
      · exact ahead_ahead _

theorem run_append_of_some (h : run p s = some (ts, q)) : run p (s ++ t) = ahead ts (run q t) := by
  rw [run_append, h]
  rfl

theorem run_cons_of_some {c : Char} (h : step p c = some (ts, q)) :
    run p (c :: rest) = ahead ts (run q rest) := by
  rw [run_cons, h]
  rfl

/-- Goes on where one character is read and ends no token. -/
theorem run_cons_of_step {c : Char} (h : step p c = some ([], q)) :
    run p (c :: rest) = run q rest := by
  rw [run_cons_of_some h, ahead_nil]

/-! ## Blanks and comments -/

/-- The place of a reader of tokens where blanks and comments are skipped. -/
def ofPlace : FieldName.Place → Place
  | .between => .between
  | .line => .line
  | .block depth => .block depth ' '

theorem run_white {c : Char} (hc : isWhite c) : run .between (c :: rest) = run .between rest :=
  run_cons_of_step (by rw [step, start, if_pos hc])

theorem run_line_newline : run .line ('\n' :: rest) = run .between rest := run_cons_of_step rfl

theorem run_line_cons {c : Char} (hc : c ≠ '\n') : run .line (c :: rest) = run .line rest :=
  run_cons_of_step (by simp [step, hc])

theorem run_openLine (hd : isDocLine s = false) (hs : s ≠ []) :
    run .between ('/' :: '/' :: s) = run .line s := by
  refine (run_cons_of_step rfl).trans ((run_cons_of_step rfl).trans (?_ : run .slashes s = _))
  rcases s with _ | ⟨c, s⟩
  · exact absurd rfl hs
  by_cases hn : c = '\n'
  · subst hn
    rfl
  rw [run_line_cons hn]
  by_cases hc : c = '/'
  · subst hc
    rcases s with _ | ⟨d, s⟩
    · cases hd
    · obtain rfl : d = '/' := by simpa [isDocLine_cons_cons] using hd
      exact (run_cons_of_step rfl).trans <|
        (run_cons_of_step rfl).trans (run_line_cons (by decide)).symm
  · refine run_cons_of_step ?_
    have : c ≠ '!' := by
      rintro rfl
      cases hd
    simp [step, hn, hc, this]

theorem step_block_of_ne {depth : Nat} {c d : Char} (ho : (c == '/' && d == '*') = false)
    (hc : (c == '*' && d == '/') = false) :
    step (.block depth c) d = some ([], .block depth d) := by
  rw [step, ho, hc]
  rfl

/-- The last character does not matter if it does not open or close a comment with the next. -/
theorem run_block {depth : Nat} {c : Char} (hm : meets c s = false) (hs : s ≠ []) :
    run (.block depth c) s = run (.block depth ' ') s := by
  rcases s with _ | ⟨d, s⟩
  · exact absurd rfl hs
  · obtain ⟨ho, hc⟩ : (c == '/' && d == '*') = false ∧ (c == '*' && d == '/') = false :=
      Bool.or_eq_false_iff.mp hm
    rw [run_cons, run_cons, step_block_of_ne ho hc, step_block_of_ne rfl rfl]

theorem run_inBlock {depth : Nat} {c : Char} (hm : meets c s = false) (hs : s ≠ []) :
    run (.block depth ' ') (c :: s) = run (.block depth ' ') s :=
  (run_cons_of_step (step_block_of_ne rfl rfl)).trans (run_block hm hs)

theorem run_nest {depth : Nat} :
    run (.block depth ' ') ('/' :: '*' :: s) = run (.block (depth + 1) ' ') s :=
  (run_cons_of_step rfl).trans (run_cons_of_step rfl)

theorem run_close {depth : Nat} :
    run (.block depth ' ') ('*' :: '/' :: s) = run (closed depth) s :=
  (run_cons_of_step rfl).trans (run_cons_of_step rfl)

theorem run_openBlock (hd : isDocBlock s = false) (hs : s ≠ []) :
    run .between ('/' :: '*' :: s) = run (.block 0 ' ') s := by
  refine (run_cons_of_step rfl).trans ((run_cons_of_step rfl).trans (?_ : run .opening s = _))
  rcases s with _ | ⟨c, s⟩
  · exact absurd rfl hs
  have hb : c ≠ '!' := by
    rintro rfl
    cases hd
  by_cases hc : c = '*'
  · subst hc
    rcases s with _ | ⟨d, s⟩
    · cases hd
    · have hd' : d = '*' ∨ d = '/' := by
        simpa [isDocBlock_cons_cons, Classical.or_iff_not_imp_left] using hd
      rcases hd' with rfl | rfl <;> rfl
  · refine (run_cons_of_step ?_).trans (run_cons_of_step (step_block_of_ne rfl rfl)).symm
    simp [step, hb, hc]

/-- How a text goes on: after skipped text anyhow, but with a colon where a comment is open. -/
def GoesOn (q : FieldName.Place) (rest : List Char) : Prop := q = .between ∨ rest.head? = some ':'

theorem GoesOn.harmless {q : FieldName.Place} (h : GoesOn q rest) : Harmless q rest :=
  h.imp_right .inr

theorem GoesOn.append_ne_nil {blank : Char → Bool} {q : FieldName.Place} (h : GoesOn q rest)
    (hs : Skips blank .line s q) : s ++ rest ≠ [] := by
  intro he
  obtain ⟨rfl, rfl⟩ := List.append_eq_nil_iff.mp he
  cases hs
  simp [GoesOn] at h

theorem append_ne_nil_of_block {blank : Char → Bool} {depth : Nat} {q : FieldName.Place}
    (hs : Skips blank (.block depth) s q) : s ++ rest ≠ [] := by
  obtain ⟨c, t, rfl⟩ := hs.exists_cons_of_block
  exact List.cons_ne_nil c (t ++ rest)

/-- Blanks and comments between the tokens of a module are passed over. -/
theorem run_skips {p q : FieldName.Place} (h : Skips isWhite p s q) (hq : GoesOn q rest) :
    run (ofPlace p) (s ++ rest) = run (ofPlace q) rest := by
  induction h with
  | between => rfl
  | line => rfl
  | gap hc _ ih => exact (run_white hc).trans (ih hq)
  | openLine hd h ih =>
    rw [← h.isDocLine_append hq.harmless] at hd
    exact (run_openLine hd (hq.append_ne_nil h)).trans (ih hq)
  | openBlock hd h ih =>
    rw [← h.isDocBlock_append rest] at hd
    exact (run_openBlock hd (append_ne_nil_of_block h)).trans (ih hq)
  | newline _ ih => exact run_line_newline.trans (ih hq)
  | inLine hc _ ih => exact (run_line_cons hc).trans (ih hq)
  | nest _ ih => exact run_nest.trans (ih hq)
  | close _ ih => exact run_close.trans (ih hq)
  | unnest _ ih => exact run_close.trans (ih hq)
  | inBlock hm h ih =>
    rw [← meets_append h.exists_cons_of_block] at hm
    exact (run_inBlock hm (append_ne_nil_of_block h)).trans (ih hq)

/-- The blanks that are skipped around a name but not between the tokens of a module, and the byte
order mark, start no token either. -/
theorem start_eq_none {c : Char} (hc : c ∈ '\uFEFF' :: gaps) (hw : isWhite c = false) :
    start c = none := by
  have h : ('\uFEFF' :: gaps).all fun c => isWhite c || (start c).isNone := by decide +kernel
  simpa [hw] using List.all_eq_true.mp h c hc

theorem isGap_of_isWhite (c : Char) (h : isWhite c) : isGap c :=
  List.all_eq_true.mp (by decide : whites.all isGap) c (List.contains_iff_mem.mp h)

/-- What is skipped around a name is passed over in a module too, or it is not read there. -/
theorem skips_or_run_eq_none {p q : FieldName.Place} (h : Skips isGap p s q) :
    Skips isWhite p s q ∨ ∀ rest, GoesOn q rest → run (ofPlace p) (s ++ rest) = none := by
  induction h with
  | between => exact .inl .between
  | line => exact .inl .line
  | @gap c t q hc h ih =>
    cases hw : isWhite c with
    | true => exact ih.imp (.gap hw) fun hn rest hq => (run_white hw).trans (hn rest hq)
    | false =>
      refine .inr fun rest _ => ?_
      rw [List.cons_append, ofPlace, run_cons, step,
        start_eq_none (List.mem_cons_of_mem _ (mem_gaps hc)) hw]
      rfl
  | openLine hd h ih =>
    refine ih.imp (.openLine hd) fun hn rest hq => ?_
    rw [← h.isDocLine_append hq.harmless] at hd
    exact (run_openLine hd (hq.append_ne_nil h)).trans (hn rest hq)
  | openBlock hd h ih =>
    refine ih.imp (.openBlock hd) fun hn rest hq => ?_
    rw [← h.isDocBlock_append rest] at hd
    exact (run_openBlock hd (append_ne_nil_of_block h)).trans (hn rest hq)
  | newline _ ih => exact ih.imp .newline fun hn rest hq => run_line_newline.trans (hn rest hq)
  | inLine hc _ ih =>
    exact ih.imp (.inLine hc) fun hn rest hq => (run_line_cons hc).trans (hn rest hq)
  | nest _ ih => exact ih.imp .nest fun hn rest hq => run_nest.trans (hn rest hq)
  | close _ ih => exact ih.imp .close fun hn rest hq => run_close.trans (hn rest hq)
  | unnest _ ih => exact ih.imp .unnest fun hn rest hq => run_close.trans (hn rest hq)
  | inBlock hm h ih =>
    refine ih.imp (.inBlock hm) fun hn rest hq => ?_
    rw [← meets_append h.exists_cons_of_block] at hm
    exact (run_inBlock hm (append_ne_nil_of_block h)).trans (hn rest hq)

/-! ## Names -/

variable {f : FieldName} {text : List Char}

/-- The end of a word is read as the word, and then what follows. -/
theorem run_word (hr : EndsWord rest) (hn : rest ≠ []) :
    run (.word f) rest = ahead [.word f] (run .between rest) := by
  rcases rest with _ | ⟨c, rest⟩
  · exact absurd rfl hn
  · obtain ⟨hc, hs⟩ := hr c rfl
    have h : step (.word f) c = ahead [.word f] (start c) := by
      simp only [List.mem_cons, List.not_mem_nil, or_false, not_or] at hs
      simp [step, hc, hs]
    rw [run_cons, h, ahead_bind]
    rfl

theorem run_word_append {raw : Bool} {name : List Char} (ht : ∀ c ∈ t, isXidContinue c) :
    run (.word ⟨name, raw⟩) (t ++ rest) = run (.word ⟨name ++ t, raw⟩) rest := by
  induction t generalizing name with
  | nil => rw [List.append_nil, List.nil_append]
  | cons c t ih =>
    obtain ⟨hc, ht⟩ := List.forall_mem_cons.mp ht
    have h : step (.word ⟨name, raw⟩) c = some ([], .word ⟨name ++ [c], raw⟩) := if_pos hc
    rw [List.cons_append, run_cons_of_step h, ih ht, List.append_assoc, List.singleton_append]

/-- No word starts with a blank, a slash or a quote. -/
theorem isStart_apart {c : Char} (hc : c ∈ '/' :: '"' :: '\'' :: whites) : isStart c = false := by
  have h : ('/' :: '"' :: '\'' :: whites).all fun c => !isStart c := by decide +kernel
  simpa using List.all_eq_true.mp h c hc

theorem start_of_isStart {c : Char} (h : isStart c) : start c = some ([], .word ⟨[c], false⟩) := by
  have hn (d : Char) (hd : d ∈ '/' :: '"' :: '\'' :: whites) : c ≠ d := by
    rintro rfl
    rw [isStart_apart hd] at h
    cases h
  have hw : isWhite c = false := by
    refine Bool.eq_false_iff.mpr fun hw => hn c ?_ rfl
    simp only [List.mem_cons]
    exact .inr (.inr (.inr (List.contains_iff_mem.mp hw)))
  simp [start, hw, h, hn '/' (by decide), hn '"' (by decide), hn '\'' (by decide)]

/-- A name is read up to where its word ends. -/
theorem run_written (hf : f.WellFormed) :
    run .between (f.written ++ rest) = run (.word f) rest := by
  obtain ⟨⟨c, t, hn, hc, ht⟩, -⟩ := hf
  obtain ⟨name, raw⟩ := f
  obtain rfl : name = c :: t := hn
  cases raw with
  | true =>
    have hr : step .between 'r' = some ([], .word ⟨['r'], false⟩) :=
      start_of_isStart (by decide +kernel)
    have hh : step (.word ⟨['r'], false⟩) '#' = some ([], .rawMark) := by decide +kernel
    have hm : step .rawMark c = some ([], .word ⟨[c], true⟩) := if_pos hc
    exact (run_cons_of_step hr).trans <| (run_cons_of_step hh).trans <|
      (run_cons_of_step hm).trans (run_word_append ht)
  | false =>
    have hs : step .between c = some ([], .word ⟨[c], false⟩) := start_of_isStart hc
    exact (run_cons_of_step hs).trans (run_word_append ht)

end Token

namespace FieldName

/-- A text that spells a name wherever it stands: without a mark at the start, with the blanks
between tokens only, and with all comments closed. -/
def SpellsInside (f : FieldName) (text : List Char) : Prop :=
  f.WellFormed ∧ ∃ before after, text = before ++ (f.written ++ after) ∧
    Skips Token.isWhite .between before .between ∧ Skips Token.isWhite .between after .between

theorem SpellsInside.spells {f : FieldName} {text : List Char} (h : SpellsInside f text) :
    Spells f text := by
  obtain ⟨hf, before, after, rfl, hb, ha⟩ := h
  replace hb := hb.mono Token.isGap_of_isWhite
  refine ⟨hf, before, after, _, ?_, hb, ha.mono Token.isGap_of_isWhite⟩
  cases hb with
  | between =>
    obtain ⟨c, t, hw, -, -, hc⟩ := written_head hf
    rw [List.nil_append, hw]
    exact afterMark_cons hc
  | gap hc => exact afterMark_cons (ne_mark_of_isGap hc)
  | openLine => rfl
  | openBlock => rfl

end FieldName

namespace Token

open FieldName

variable {f : FieldName} {text : List Char}

/-- A text that spells a name also inside other text is read as the name there. -/
theorem run_spellsInside (h : SpellsInside f text) (rest : List Char) :
    run .between (text ++ ':' :: rest) = ahead [.word f, .sign ':'] (run .between rest) := by
  obtain ⟨hf, before, after, rfl, hb, ha⟩ := h
  have hs : step .between ':' = some ([.sign ':'], .between) := by decide +kernel
  calc run .between (before ++ (f.written ++ after) ++ ':' :: rest)
    _ = run .between (before ++ (f.written ++ (after ++ ':' :: rest))) := by
      simp only [List.append_assoc]
    _ = run .between (f.written ++ (after ++ ':' :: rest)) := run_skips hb (.inl rfl)
    _ = run (.word f) (after ++ ':' :: rest) := run_written hf
    _ = ahead [.word f] (run .between (after ++ ':' :: rest)) :=
      run_word (endsWord_of_skips isGap_of_isWhite ha endsWord_colon) (by simp)
    _ = ahead [.word f] (run .between (':' :: rest)) := congrArg _ (run_skips ha (.inl rfl))
    _ = ahead [.word f, .sign ':'] (run .between rest) := by
      rw [run_cons_of_some hs, ahead_ahead]
      rfl

/-- What a text that spells a name by itself is read as before a colon. -/
theorem run_spelled (h : Spells f text) :
    SpellsInside f text ∨ (∀ rest, run .between (text ++ ':' :: rest) = none) ∨
      ∀ rest, run .between (text ++ ':' :: rest) = ahead [.word f] (run .line rest) := by
  obtain ⟨c, t, rfl⟩ := h.exists_cons
  obtain ⟨hf, before, after, q, ht, hb, ha⟩ := h
  by_cases hc : c = '\uFEFF'
  · subst hc
    refine .inr (.inl fun rest => ?_)
    rw [List.cons_append, run_cons, step, start_eq_none List.mem_cons_self (by decide)]
    rfl
  rw [afterMark_cons hc] at ht
  rw [ht]
  simp only [List.append_assoc]
  rcases skips_or_run_eq_none hb with hb | hn
  · have hw (rest : List Char) : run .between (before ++ (f.written ++ (after ++ ':' :: rest))) =
        ahead [.word f] (run .between (after ++ ':' :: rest)) :=
      (run_skips hb (.inl rfl)).trans <| (run_written hf).trans <|
        run_word (endsWord_of_skips (fun _ => id) ha endsWord_colon) (by simp)
    simp only [hw]
    rcases skips_or_run_eq_none ha with ha | hn
    · rcases ha.place with rfl | rfl
      · exact .inl ⟨hf, before, after, rfl, hb, ha⟩
      · refine .inr (.inr fun rest => congrArg _ ?_)
        exact (run_skips ha (.inr rfl)).trans (run_line_cons (by decide))
    · refine .inr (.inl fun rest => ?_)
      rw [show run .between (after ++ ':' :: rest) = none from hn _ (.inr rfl), ahead_none]
  · exact .inr (.inl fun rest => hn _ (.inl rfl))

end Token

end ClassFields
