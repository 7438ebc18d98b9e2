import Helpdesk.Proofs.Condition.Phrase
import Helpdesk.Proofs.Text.Slice

/-!
# Helpdesk.Proofs.Condition.Spelling — the rewriting goes symbol by symbol.

The rules of the rewriting know nothing of symbols: each replaces what it finds in a text, and each
works on the result of the one before. A text is a row of symbols with gaps before them, and a
`Spelling` says how each symbol is written; every rule changes the spelling and nothing else
(`Rewrites`), because what stands after a symbol never completes another one (`Follows`).
-/
namespace Helpdesk.Condition

open Text (isWordChar)

/-! ## Spellings -/

/-- How the symbols are written; parentheses are always themselves. -/
structure Spelling where
  same : String
  differ : String
  both : String
  either : String
  negation : String
  word : String → String

namespace Spelling

/-- The characters of a symbol. -/
def of (sp : Spelling) : Sym → List Char
  | .word w => (sp.word w).toList
  | .negation => sp.negation.toList
  | .same => sp.same.toList
  | .differ => sp.differ.toList
  | .both => sp.both.toList
  | .either => sp.either.toList
  | .opening => ['(']
  | .closing => [')']

/-- A row of symbols, each after its gap. -/
def text (sp : Spelling) (row : List (List Char × Sym)) : List Char :=
  row.flatMap fun (gap, s) => gap ++ sp.of s

/-- The spelling that authors use. -/
def script : Spelling :=
  ⟨"===", "!==", "&&", "||", "!", id⟩

/-- The words after the rule for `true`. -/
def trueWord (w : String) : String :=
  if w = "true" then "True" else w

/-- The word of the condition language for a word. -/
def plainWord (w : String) : String :=
  if trueWord w = "false" then "False" else trueWord w

/-- The spelling of the condition language but for the words. -/
def wordsAs (word : String → String) : Spelling :=
  ⟨"==", "!=", " and ", " or ", " not ", word⟩

/-- The spelling of the condition language. -/
def plain : Spelling :=
  wordsAs plainWord

end Spelling

theorem PlainName.plainWord_eq {w : String} (h : PlainName w) : Spelling.plainWord w = w := by
  have hother := h.unreserved.2
  simp only [List.mem_cons, List.not_mem_nil, or_false, not_or] at hother
  simp [Spelling.plainWord, Spelling.trueWord, hother]

/-- What stands after a symbol: no word goes on after an operand, and no equals sign stands after
anything else. -/
def Follows (s : Sym) (rest : List Char) : Prop :=
  ∀ c ∈ rest.head?, if s.ends then isWordChar c = false else c ≠ '='

/-- Symbols are told apart by how they begin. -/
def Spelling.Apart (sp : Spelling) : Prop :=
  ∀ s : Sym, s.Known → ∃ c rest, sp.of s = c :: rest ∧
    if s.begins then c ≠ '=' else isWordChar c = false

/-- The operators are spelled in one of their two ways, and words as words. -/
structure Spelling.Usual (sp : Spelling) : Prop where
  word : ∀ w, (Sym.word w).Known → isWord (sp.word w).toList = true
  same : sp.same = "===" ∨ sp.same = "=="
  differ : sp.differ = "!==" ∨ sp.differ = "!="
  both : sp.both = "&&" ∨ sp.both = " and "
  either : sp.either = "||" ∨ sp.either = " or "
  negation : sp.negation = "!" ∨ sp.negation = " not "

theorem Spelling.Usual.apart {sp : Spelling} (h : sp.Usual) : sp.Apart := by
  obtain ⟨hword, hsame, hdiffer, hboth, heither, hnegation⟩ := h
  intro s hs
  cases s with
  | word w =>
    obtain ⟨c, rest, hspelled⟩ := List.exists_cons_of_ne_nil (isWord_iff.mp (hword w hs)).1
    refine ⟨c, rest, hspelled, ?_⟩
    show c ≠ '='
    rintro rfl
    apply notMem_of_isWord (a := '=') (hword w hs) (by decide)
    rw [hspelled]
    exact List.mem_cons_self
  | same => rcases hsame with h | h <;> simp only [of, h] <;> exact ⟨_, _, rfl, by decide⟩
  | differ => rcases hdiffer with h | h <;> simp only [of, h] <;> exact ⟨_, _, rfl, by decide⟩
  | both => rcases hboth with h | h <;> simp only [of, h] <;> exact ⟨_, _, rfl, by decide⟩
  | either => rcases heither with h | h <;> simp only [of, h] <;> exact ⟨_, _, rfl, by decide⟩
  | negation => rcases hnegation with h | h <;> simp only [of, h] <;> exact ⟨_, _, rfl, by decide⟩
  | opening => exact ⟨'(', [], rfl, by decide⟩
  | closing => exact ⟨')', [], rfl, by decide⟩

/-- The characters of operators that stand in no gap and in no word. -/
def marks : List Char :=
  ['=', '!', '&', '|', '(', ')']

theorem wordless_of_mem_marks {a : Char} (h : a ∈ marks) :
    isWordChar a = false ∧ isGap a = false := by
  simp only [marks, List.mem_cons, List.not_mem_nil, or_false] at h
  rcases h with rfl | rfl | rfl | rfl | rfl | rfl <;> decide

/-- A text is made of gaps, words and marks. -/
theorem Spelling.Usual.mem_text {sp : Spelling} (h : sp.Usual) {row : List (List Char × Sym)}
    (hgaps : ∀ t ∈ row, ∀ c ∈ t.1, isGap c = true) (hknown : ∀ t ∈ row, t.2.Known) :
    ∀ c ∈ sp.text row, isGap c = true ∨ isWordChar c = true ∨ c ∈ marks := by
  have hoperators : ∀ s ∈ ["===", "==", "!==", "!=", "&&", " and ", "||", " or ", "!", " not "],
      ∀ c ∈ s.toList, isGap c = true ∨ isWordChar c = true ∨ c ∈ marks := by
    intro s hs c hc
    have hall : ["===", "==", "!==", "!=", "&&", " and ", "||", " or ", "!", " not "].all (fun s =>
      s.toList.all fun c => isGap c || isWordChar c || marks.contains c) = true := by decide
    simpa [or_assoc] using List.all_eq_true.mp (List.all_eq_true.mp hall s hs) c hc
  obtain ⟨hword, hsame, hdiffer, hboth, heither, hnegation⟩ := h
  intro c hc
  obtain ⟨⟨gap, s⟩, hmem, hc⟩ := List.mem_flatMap.mp hc
  rcases List.mem_append.mp hc with hc | hc
  · exact Or.inl (hgaps _ hmem c hc)
  · cases s with
    | word w => exact Or.inr (Or.inl ((isWord_iff.mp (hword w (hknown _ hmem))).2 c hc))
    | same => exact hoperators sp.same (by rcases hsame with h | h <;> simp [h]) c hc
    | differ => exact hoperators sp.differ (by rcases hdiffer with h | h <;> simp [h]) c hc
    | both => exact hoperators sp.both (by rcases hboth with h | h <;> simp [h]) c hc
    | either => exact hoperators sp.either (by rcases heither with h | h <;> simp [h]) c hc
    | negation => exact hoperators sp.negation (by rcases hnegation with h | h <;> simp [h]) c hc
    | opening => exact Or.inr (Or.inr (List.mem_singleton.mp hc ▸ by decide))
    | closing => exact Or.inr (Or.inr (List.mem_singleton.mp hc ▸ by decide))

/-- A row of symbols whose gaps are gaps. -/
structure Row (row : List (List Char × Sym)) : Prop where
  gaps : ∀ t ∈ row, ∀ c ∈ t.1, isGap c = true
  known : ∀ t ∈ row, t.2.Known
  chain : (row.map Prod.snd).IsChain Sym.Alternate

theorem Row.tail {t : List Char × Sym} {row : List (List Char × Sym)} (h : Row (t :: row)) :
    Row row :=
  ⟨fun u hu => h.gaps u (List.mem_cons_of_mem t hu), fun u hu => h.known u (List.mem_cons_of_mem t hu),
    h.chain.tail⟩

theorem Row.follows {t : List Char × Sym} {row : List (List Char × Sym)} (h : Row (t :: row))
    {sp : Spelling} (hsp : sp.Apart) : Follows t.2 (sp.text row) := by
  rcases row with _ | ⟨⟨gap, s⟩, row⟩
  · intro c hc
    cases hc
  have hmem : (gap, s) ∈ t :: (gap, s) :: row := List.mem_cons_of_mem t List.mem_cons_self
  intro c hc
  rcases gap with _ | ⟨g, gap⟩
  · obtain ⟨d, rest, hspelled, hfirst⟩ := hsp s (h.known _ hmem)
    have hcd : c = d := by
      simpa [Spelling.text, hspelled, eq_comm] using hc
    have halternate : t.2.ends = !s.begins := (List.isChain_cons.mp h.chain).1 s rfl
    rw [hcd]
    rcases hbegins : s.begins
    · rw [hbegins] at hfirst halternate
      simpa [halternate] using hfirst
    · rw [hbegins] at hfirst halternate
      simpa [halternate] using hfirst
  · have hcg : c = g := by
      simpa [Spelling.text, eq_comm] using hc
    have hgap : isGap c = true := hcg ▸ h.gaps _ hmem g List.mem_cons_self
    split
    · exact isWordChar_gap hgap
    · rintro rfl
      exact absurd hgap (by decide)

/-! ## Rules -/

/-- A rule that changes one spelling into another. -/
structure Rewrites (rule : List Char → List Char) (sp new : Spelling) : Prop where
  nil : rule [] = []
  gap : ∀ c rest, isGap c = true → rule (c :: rest) = c :: rule rest
  sym : ∀ s rest, s.Known → Follows s rest → rule (sp.of s ++ rest) = new.of s ++ rule rest

/-- **A rule changes the spelling** of a whole row and leaves its gaps alone. -/
theorem Rewrites.text {rule : List Char → List Char} {sp new : Spelling} (h : Rewrites rule sp new)
    (hsp : sp.Apart) {row : List (List Char × Sym)} (hrow : Row row) :
    rule (sp.text row) = new.text row := by
  have hgaps : ∀ gap rest, (∀ c ∈ gap, isGap c = true) → rule (gap ++ rest) = gap ++ rule rest := by
    intro gap rest hgap
    induction gap with
    | nil => rfl
    | cons c gap ih =>
      obtain ⟨hc, hgap⟩ := List.forall_mem_cons.mp hgap
      rw [List.cons_append, h.gap _ _ hc, ih hgap]
      rfl
  induction row with
  | nil => exact h.nil
  | cons t row ih =>
    show rule ((t.1 ++ sp.of t.2) ++ sp.text row) = (t.1 ++ new.of t.2) ++ new.text row
    rw [List.append_assoc, hgaps _ _ (hrow.gaps t List.mem_cons_self),
      h.sym _ _ (hrow.known t List.mem_cons_self) (hrow.follows hsp), ih hrow.tail, List.append_assoc]

/-! ### Symbols -/

section Symbols

variable {a : Char} {symbol new rest : List Char}

theorem replaceFrom_of_ne {c : Char} (h : c ≠ a) :
    replaceFrom (a :: symbol) new 0 (c :: rest) = c :: replaceFrom (a :: symbol) new 0 rest := by
  rw [replaceFrom, Text.stripWord, if_neg h.symm]
  rfl

theorem replaceFrom_of_none {c : Char} (h : Text.stripWord (a :: symbol) (c :: rest) = none) :
    replaceFrom (a :: symbol) new 0 (c :: rest) = c :: replaceFrom (a :: symbol) new 0 rest := by
  rw [replaceFrom, h]
  rfl

theorem replaceFrom_append {cs : List Char} (h : a ∉ cs) :
    replaceFrom (a :: symbol) new 0 (cs ++ rest) = cs ++ replaceFrom (a :: symbol) new 0 rest := by
  induction cs with
  | nil => rfl
  | cons c cs ih =>
    rw [List.mem_cons, not_or] at h
    obtain ⟨hc, hcs⟩ := h
    rw [List.cons_append, replaceFrom_of_ne (Ne.symm hc), ih hcs]
    rfl

theorem replaceFrom_self :
    replaceFrom (a :: symbol) new 0 ((a :: symbol) ++ rest) =
      new ++ replaceFrom (a :: symbol) new 0 rest := by
  have hskip : ∀ cs : List Char, replaceFrom (a :: symbol) new cs.length (cs ++ rest) =
      replaceFrom (a :: symbol) new 0 rest := by
    intro cs
    induction cs with
    | nil => rfl
    | cons c cs ih => exact ih
  rw [List.cons_append, replaceFrom, ← List.cons_append, Text.stripWord_eq_some_iff.mpr rfl]
  exact congrArg (new ++ ·) (hskip symbol)

end Symbols

theorem Follows.noEquals {s : Sym} {rest : List Char} (h : Follows s rest) (hs : s.ends = false) :
    rest.head? ≠ some '=' := by
  intro hhead
  have := h '=' hhead
  rw [hs] at this
  exact this rfl

/-- A word that goes on with an equals sign is not at the front of what does not. -/
theorem stripWord_eq_none (front : List Char) {rest more : List Char} (h : rest.head? ≠ some '=') :
    Text.stripWord (front ++ '=' :: more) (front ++ rest) = none := by
  apply Option.eq_none_iff_forall_ne_some.mpr
  intro tail hstrip
  rw [Text.stripWord_eq_some_iff, List.append_assoc] at hstrip
  apply h
  rw [List.append_cancel_left hstrip]
  rfl

/-- A rule that replaces a symbol leaves gaps and words alone; `hsym` is what it does to the rest. -/
theorem rewrites_symbol {a : Char} {symbol new : List Char} {sp next : Spelling} (ha : a ∈ marks)
    (hword : sp.word = id) (hnext : next.word = id)
    (hsym : ∀ s rest, (∀ w, s ≠ .word w) → Follows s rest →
      replaceFrom (a :: symbol) new 0 (sp.of s ++ rest) =
        next.of s ++ replaceFrom (a :: symbol) new 0 rest) :
    Rewrites (replaceFrom (a :: symbol) new 0) sp next where
  nil := rfl
  gap c rest hc := by
    refine replaceFrom_of_ne ?_
    rintro rfl
    rw [(wordless_of_mem_marks ha).2] at hc
    cases hc
  sym s rest hs hfollows := by
    cases s with
    | word w =>
      simp only [Spelling.of, hword, hnext, id]
      exact replaceFrom_append (notMem_of_isWord hs.word.1 (wordless_of_mem_marks ha).1)
    | _ => exact hsym _ _ (by simp) hfollows

/-- The spellings of a row after so many rules; the last rule finds nothing to replace. -/
def stage : Nat → Spelling
  | 0 => .script
  | 1 => ⟨"==", "!==", "&&", "||", "!", id⟩
  | 2 => ⟨"==", "!=", "&&", "||", "!", id⟩
  | 3 => ⟨"==", "!=", " and ", "||", "!", id⟩
  | 4 => ⟨"==", "!=", " and ", " or ", "!", id⟩
  | 5 => .wordsAs id
  | 6 => .wordsAs Spelling.trueWord
  | _ => .plain

theorem rewrites_same : Rewrites (replaceSymbol "===" "==") (stage 0) (stage 1) := by
  apply rewrites_symbol (by decide) rfl rfl
  intro s rest hword hfollows
  cases s with
  | word w => exact absurd rfl (hword w)
  | same => exact replaceFrom_self
  | differ =>
    -- What follows begins an operand, so two equals signs are all there is.
    show replaceFrom ['=', '=', '='] ['=', '='] 0 ('!' :: '=' :: '=' :: rest) =
      '!' :: '=' :: '=' :: replaceFrom ['=', '=', '='] ['=', '='] 0 rest
    rw [replaceFrom_of_ne (by decide), replaceFrom_of_none, replaceFrom_of_none]
    · exact stripWord_eq_none ['='] (hfollows.noEquals rfl)
    · exact stripWord_eq_none ['=', '='] (hfollows.noEquals rfl)
  | _ => exact replaceFrom_append (by decide)

theorem rewrites_differ : Rewrites (replaceSymbol "!==" "!=") (stage 1) (stage 2) := by
  apply rewrites_symbol (by decide) rfl rfl
  intro s rest hword hfollows
  cases s with
  | word w => exact absurd rfl (hword w)
  | differ => exact replaceFrom_self
  | negation =>
    show replaceFrom ['!', '=', '='] ['!', '='] 0 ('!' :: rest) =
      '!' :: replaceFrom ['!', '=', '='] ['!', '='] 0 rest
    rw [replaceFrom_of_none]
    exact stripWord_eq_none ['!'] (hfollows.noEquals rfl)
  | _ => exact replaceFrom_append (by decide)

theorem rewrites_both : Rewrites (replaceSymbol "&&" " and ") (stage 2) (stage 3) := by
  apply rewrites_symbol (by decide) rfl rfl
  intro s rest hword _
  cases s with
  | word w => exact absurd rfl (hword w)
  | both => exact replaceFrom_self
  | _ => exact replaceFrom_append (by decide)

theorem rewrites_either : Rewrites (replaceSymbol "||" " or ") (stage 3) (stage 4) := by
  apply rewrites_symbol (by decide) rfl rfl
  intro s rest hword _
  cases s with
  | word w => exact absurd rfl (hword w)
  | either => exact replaceFrom_self
  | _ => exact replaceFrom_append (by decide)

theorem replaceNot_append {cs : List Char} (h : '!' ∉ cs) (rest : List Char) :
    replaceNot (cs ++ rest) = cs ++ replaceNot rest := by
  induction cs with
  | nil => rfl
  | cons c cs ih =>
    rw [List.mem_cons, not_or] at h
    obtain ⟨hc, hcs⟩ := h
    rw [List.cons_append, replaceNot, if_neg (fun hboth => hc hboth.1.symm), ih hcs]
    rfl

theorem rewrites_negation : Rewrites replaceNot (stage 4) (stage 5) where
  nil := rfl
  gap c rest hc := by
    show replaceNot ([c] ++ rest) = [c] ++ replaceNot rest
    apply replaceNot_append
    rintro hmem
    rw [← List.mem_singleton.mp hmem] at hc
    exact absurd hc (by decide)
  sym s rest hs hfollows := by
    cases s with
    | word w => exact replaceNot_append (notMem_of_isWord hs.word.1 (by decide)) rest
    | negation =>
      show replaceNot ('!' :: rest) = _
      rw [replaceNot, if_pos ⟨rfl, hfollows.noEquals rfl⟩]
      rfl
    | differ =>
      show replaceNot ('!' :: (['='] ++ rest)) = '!' :: (['='] ++ replaceNot rest)
      rw [replaceNot, if_neg (fun hboth => hboth.2 rfl), replaceNot_append (by decide)]
    | _ => exact replaceNot_append (by decide) rest

/-! ### Words -/

section Words

variable {words : List (List Char)} {new : List Char}

/-- A character that stands in no word begins none. -/
theorem replaceWordsFrom_of_not_wordChar (hwords : ∀ word ∈ words, isWord word = true) {c : Char}
    (hc : isWordChar c = false) (joined : Bool) (rest : List Char) :
    replaceWordsFrom words new joined 0 (c :: rest) =
      c :: replaceWordsFrom words new false 0 rest := by
  have hnone : (words.find? fun word => !joined && wordAt word (c :: rest)) = none := by
    apply List.find?_eq_none.mpr
    intro word hword hat
    obtain ⟨hne, hwordy⟩ := isWord_iff.mp (hwords word hword)
    obtain ⟨d, tail, rfl⟩ := List.exists_cons_of_ne_nil hne
    rw [Bool.and_eq_true] at hat
    have hdc : d ≠ c := by
      rintro rfl
      rw [hwordy d List.mem_cons_self] at hc
      cases hc
    rw [wordAt, Text.stripWord, if_neg hdc] at hat
    cases hat.2
  rw [replaceWordsFrom, hnone, hc]

/-- Inside a word nothing is replaced. -/
theorem replaceWordsFrom_joined {cs : List Char} (hcs : ∀ c ∈ cs, isWordChar c = true)
    (rest : List Char) :
    replaceWordsFrom words new true 0 (cs ++ rest) = cs ++ replaceWordsFrom words new true 0 rest := by
  induction cs with
  | nil => rfl
  | cons c cs ih =>
    obtain ⟨hc, hcs⟩ := List.forall_mem_cons.mp hcs
    have hnone : (words.find? fun word => !true && wordAt word (c :: (cs ++ rest))) = none := by
      simp
    rw [List.cons_append, replaceWordsFrom, hnone, hc, ih hcs]
    rfl

theorem replaceWordsFrom_skip {cs : List Char} (hcs : ∀ c ∈ cs, isWordChar c = true)
    (rest : List Char) :
    replaceWordsFrom words new true cs.length (cs ++ rest) =
      replaceWordsFrom words new true 0 rest := by
  induction cs with
  | nil => rfl
  | cons c cs ih =>
    obtain ⟨hc, hcs⟩ := List.forall_mem_cons.mp hcs
    show replaceWordsFrom words new (isWordChar c) cs.length (cs ++ rest) = _
    rw [hc]
    exact ih hcs

/-- Where no word goes on it makes no difference that one stands before. -/
theorem replaceWordsFrom_true (hwords : ∀ word ∈ words, isWord word = true) {rest : List Char}
    (hrest : ∀ c ∈ rest.head?, isWordChar c = false) :
    replaceWordsFrom words new true 0 rest = replaceWordsFrom words new false 0 rest := by
  rcases rest with _ | ⟨c, rest⟩
  · rfl
  · have hc := hrest c rfl
    rw [replaceWordsFrom_of_not_wordChar hwords hc, replaceWordsFrom_of_not_wordChar hwords hc]

theorem takeWhile_append_eq {p : Char → Bool} {w rest : List Char} (hw : ∀ c ∈ w, p c = true)
    (hrest : ∀ c ∈ rest.head?, p c = false) : (w ++ rest).takeWhile p = w := by
  rw [List.takeWhile_append_of_pos hw]
  rcases rest with _ | ⟨c, rest⟩
  · simp
  · simp [hrest c rfl]

/-- A whole word stands at the front of a word exactly when it is that word. -/
theorem wordAt_iff {word w rest : List Char} (hword : ∀ c ∈ word, isWordChar c = true)
    (hw : ∀ c ∈ w, isWordChar c = true) (hrest : ∀ c ∈ rest.head?, isWordChar c = false) :
    wordAt word (w ++ rest) = true ↔ word = w := by
  constructor
  · intro hat
    -- Both are all that comes before the first character that stands in no word.
    obtain ⟨tail, hstrip, htail⟩ : ∃ tail, Text.stripWord word (w ++ rest) = some tail ∧
        ∀ c ∈ tail.head?, isWordChar c = false := by
      unfold wordAt at hat
      split at hat
      · rename_i hstrip
        exact ⟨[], hstrip, fun c hc => by cases hc⟩
      · rename_i d more hstrip
        refine ⟨d :: more, hstrip, ?_⟩
        intro c hc
        cases hc
        simpa using hat
      · cases hat
    rw [← takeWhile_append_eq hword htail, ← Text.stripWord_eq_some_iff.mp hstrip,
      takeWhile_append_eq hw hrest]
  · rintro rfl
    rw [wordAt, Text.stripWord_eq_some_iff.mpr rfl]
    rcases rest with _ | ⟨c, rest⟩
    · rfl
    · simp [hrest c rfl]

/-- A word is replaced as a whole or not at all. -/
theorem replaceWordsFrom_word (hwords : ∀ word ∈ words, isWord word = true) {w rest : List Char}
    (hw : isWord w = true) (hrest : ∀ c ∈ rest.head?, isWordChar c = false) :
    replaceWordsFrom words new false 0 (w ++ rest) =
      (if w ∈ words then new else w) ++ replaceWordsFrom words new false 0 rest := by
  obtain ⟨hne, hwordy⟩ := isWord_iff.mp hw
  rw [← replaceWordsFrom_true hwords hrest]
  obtain ⟨c, cs, rfl⟩ := List.exists_cons_of_ne_nil hne
  obtain ⟨hc, hcs⟩ := List.forall_mem_cons.mp hwordy
  rw [List.cons_append, replaceWordsFrom, hc]
  rcases hfind : words.find? fun word => !false && wordAt word (c :: (cs ++ rest)) with _ | word
  · have hnone : c :: cs ∉ words := by
      intro hmem
      apply List.find?_eq_none.mp hfind _ hmem
      rw [Bool.not_false, Bool.true_and]
      exact (wordAt_iff hwordy hwordy hrest).mpr rfl
    rw [if_neg hnone]
    exact congrArg (c :: ·) (replaceWordsFrom_joined hcs rest)
  · have hmem := List.mem_of_find?_eq_some hfind
    have hat : wordAt word (c :: (cs ++ rest)) = true := by simpa using List.find?_some hfind
    obtain rfl := (wordAt_iff (isWord_iff.mp (hwords word hmem)).2 hwordy hrest).mp hat
    rw [if_pos hmem]
    exact congrArg (new ++ ·) (replaceWordsFrom_skip hcs rest)

end Words

section Texts

variable {words : List String} {new : String}

theorem replaceWords_of_not_wordChar (hwords : ∀ w ∈ words, isWord w.toList = true) {c : Char}
    (hc : isWordChar c = false) (rest : List Char) :
    replaceWords words new (c :: rest) = c :: replaceWords words new rest :=
  replaceWordsFrom_of_not_wordChar (List.forall_mem_map.mpr hwords) hc false rest

theorem replaceWords_word (hwords : ∀ w ∈ words, isWord w.toList = true) {w : String}
    (hw : isWord w.toList = true) {rest : List Char} (hrest : ∀ c ∈ rest.head?, isWordChar c = false) :
    replaceWords words new (w.toList ++ rest) =
      (if w ∈ words then new else w).toList ++ replaceWords words new rest := by
  have hmem : w.toList ∈ words.map String.toList ↔ w ∈ words :=
    List.mem_map_of_injective fun _ _ => String.toList_injective
  show replaceWordsFrom _ _ false 0 (w.toList ++ rest) = _
  rw [replaceWordsFrom_word (List.forall_mem_map.mpr hwords) hw hrest]
  by_cases hin : w ∈ words
  · rw [if_pos (hmem.mpr hin), if_pos hin]
    rfl
  · rw [if_neg fun h => hin (hmem.mp h), if_neg hin]
    rfl

/-- A word between blanks that is none of the words stays. -/
theorem replaceWords_spaced (hwords : ∀ w ∈ words, isWord w.toList = true) {w : String}
    (hw : isWord w.toList = true) (hspared : w ∉ words) (rest : List Char) :
    replaceWords words new (' ' :: (w.toList ++ ' ' :: rest)) =
      ' ' :: (w.toList ++ ' ' :: replaceWords words new rest) := by
  have hblank : ∀ c ∈ (' ' :: rest).head?, isWordChar c = false := by
    intro c hc
    cases hc
    decide
  rw [replaceWords_of_not_wordChar hwords (by decide), replaceWords_word hwords hw hblank,
    if_neg hspared, replaceWords_of_not_wordChar hwords (by decide)]

end Texts

/-- The operators of the condition language that are words. -/
def wordOperators : List String :=
  ["and", "or", "not"]

/-- A rule for words leaves gaps and operators alone. -/
theorem rewrites_words {words : List String} {new : String} {word next : String → String}
    (hwords : ∀ w ∈ words, isWord w.toList = true) (hspared : ∀ w ∈ wordOperators, w ∉ words)
    (hword : ∀ w, (Sym.word w).Known → isWord (word w).toList = true)
    (hnext : ∀ w, (Sym.word w).Known → next w = if word w ∈ words then new else word w) :
    Rewrites (replaceWords words new) (.wordsAs word) (.wordsAs next) := by
  have hother : ∀ {c : Char} (rest : List Char), isWordChar c = false →
      replaceWords words new (c :: rest) = c :: replaceWords words new rest :=
    fun rest hc => replaceWords_of_not_wordChar hwords hc rest
  have hmarks : ∀ a b : Char, isWordChar a = false → isWordChar b = false → ∀ rest : List Char,
      replaceWords words new (a :: b :: rest) = a :: b :: replaceWords words new rest := by
    intro a b ha hb rest
    rw [hother _ ha, hother _ hb]
  have hspaced : ∀ w ∈ wordOperators, ∀ rest : List Char,
      replaceWords words new (' ' :: (w.toList ++ ' ' :: rest)) =
        ' ' :: (w.toList ++ ' ' :: replaceWords words new rest) := by
    intro w hw rest
    have hall : ∀ w ∈ wordOperators, isWord w.toList = true := by decide
    exact replaceWords_spaced hwords (hall w hw) (hspared w hw) rest
  refine ⟨rfl, fun c rest hc => hother rest (isWordChar_gap hc), ?_⟩
  intro s rest hs hfollows
  cases s with
  | word w =>
    show replaceWords words new ((word w).toList ++ rest) = (next w).toList ++ _
    rw [replaceWords_word hwords (hword w hs) hfollows, hnext w hs]
  | negation =>
    show replaceWords words new (" not ".toList ++ rest) = " not ".toList ++ _
    rw [show " not ".toList = ' ' :: ("not".toList ++ [' ']) by decide]
    exact hspaced "not" (by decide) rest
  | both =>
    show replaceWords words new (" and ".toList ++ rest) = " and ".toList ++ _
    rw [show " and ".toList = ' ' :: ("and".toList ++ [' ']) by decide]
    exact hspaced "and" (by decide) rest
  | either =>
    show replaceWords words new (" or ".toList ++ rest) = " or ".toList ++ _
    rw [show " or ".toList = ' ' :: ("or".toList ++ [' ']) by decide]
    exact hspaced "or" (by decide) rest
  | same =>
    show replaceWords words new ("==".toList ++ rest) = "==".toList ++ _
    exact hmarks '=' '=' (by decide) (by decide) rest
  | differ =>
    show replaceWords words new ("!=".toList ++ rest) = "!=".toList ++ _
    exact hmarks '!' '=' (by decide) (by decide) rest
  | opening => exact hother rest (by decide)
  | closing => exact hother rest (by decide)

/-! ### All rules -/

theorem usual_stage (n : Nat) : (stage n).Usual := by
  have hid : ∀ w, (Sym.word w).Known → isWord w.toList = true := fun w hw => hw.word.1
  have htrue : ∀ w, (Sym.word w).Known → isWord (Spelling.trueWord w).toList = true := by
    intro w hw
    unfold Spelling.trueWord
    split
    · decide
    · exact hid w hw
  have hplain : ∀ w, (Sym.word w).Known → isWord (Spelling.plainWord w).toList = true := by
    intro w hw
    unfold Spelling.plainWord
    split
    · decide
    · exact htrue w hw
  rcases n with _ | _ | _ | _ | _ | _ | _ | n
  · exact ⟨hid, by decide, by decide, by decide, by decide, by decide⟩
  · exact ⟨hid, by decide, by decide, by decide, by decide, by decide⟩
  · exact ⟨hid, by decide, by decide, by decide, by decide, by decide⟩
  · exact ⟨hid, by decide, by decide, by decide, by decide, by decide⟩
  · exact ⟨hid, by decide, by decide, by decide, by decide, by decide⟩
  · exact ⟨hid, by decide, by decide, by decide, by decide, by decide⟩
  · exact ⟨htrue, by decide, by decide, by decide, by decide, by decide⟩
  · exact ⟨hplain, Or.inr rfl, Or.inr rfl, Or.inr rfl, Or.inr rfl, Or.inr rfl⟩

theorem Spelling.usual_script : Spelling.script.Usual :=
  usual_stage 0

theorem Spelling.usual_plain : Spelling.plain.Usual :=
  usual_stage 7

theorem rewrites_true : Rewrites (replaceWords ["true"] "True") (stage 5) (stage 6) := by
  apply rewrites_words
  · decide
  · decide
  · exact (usual_stage 5).word
  · intro w _
    simp [Spelling.trueWord]

theorem rewrites_false : Rewrites (replaceWords ["false"] "False") (stage 6) (stage 7) := by
  apply rewrites_words
  · decide
  · decide
  · exact (usual_stage 6).word
  · intro w _
    simp [Spelling.plainWord]

/-- No word of a script stands for nothing. -/
theorem rewrites_nothing :
    Rewrites (replaceWords ["null", "undefined"] "None") (stage 7) (stage 7) := by
  apply rewrites_words
  · decide
  · decide
  · exact (usual_stage 7).word
  · intro w hw
    have hother : Spelling.plainWord w ∉ ["null", "undefined"] := by
      unfold Spelling.plainWord
      split
      · decide
      · unfold Spelling.trueWord
        split
        · decide
        · exact hw.word.2
    rw [if_neg hother]

/-- **The rules take a row** from the spelling of its author to the spelling of the condition
language. -/
theorem rewriteCode_text {row : List (List Char × Sym)} (hrow : Row row) :
    rewriteCode (Spelling.script.text row) = Spelling.plain.text row := by
  have hsame := rewrites_same.text (usual_stage 0).apart hrow
  have hdiffer := rewrites_differ.text (usual_stage 1).apart hrow
  have hboth := rewrites_both.text (usual_stage 2).apart hrow
  have heither := rewrites_either.text (usual_stage 3).apart hrow
  have hnegation := rewrites_negation.text (usual_stage 4).apart hrow
  have htrue := rewrites_true.text (usual_stage 5).apart hrow
  have hfalse := rewrites_false.text (usual_stage 6).apart hrow
  have hnothing := rewrites_nothing.text (usual_stage 7).apart hrow
  simp only [rewriteCode, rules, List.foldl_cons, List.foldl_nil]
  show replaceWords ["null", "undefined"] "None" (replaceWords ["false"] "False" (replaceWords ["true"]
    "True" (replaceNot (replaceSymbol "||" " or " (replaceSymbol "&&" " and " (replaceSymbol "!==" "!="
      (replaceSymbol "===" "==" ((stage 0).text row)))))))) = (stage 7).text row
  rw [hsame, hdiffer, hboth, heither, hnegation, htrue, hfalse, hnothing]

end Helpdesk.Condition
