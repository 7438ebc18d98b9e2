import Helpdesk.Proofs.Condition.Writing
import Mathlib.Data.List.Find

/-!
# Helpdesk.Proofs.Condition.Literals — what stands in quotes survives the rewriting.

A condition is written as code and literals in turn: fragments of code have no quotes, and a literal
runs from a quote to the next one of its kind, where a backslash takes the next character with it. Cut
into pieces, a condition gives back exactly these fragments and literals, whatever the literals hold.
The rules work on one fragment at a time. They bring in no quotes and hand outer blanks on as they are,
so that it makes no difference whether blanks are trimmed before the rules or after them.
-/
namespace Helpdesk.Condition

open Text (isBlank isWordChar trimChars dropLeading dropTrailing)

/-! ## Code and literals in turn -/

/-- Code without quotes. -/
structure Fragment where
  chars : List Char
  unquoted : ∀ c ∈ chars, ¬ IsQuote c

/-- What may stand between two quotes: every character but the quote and the backslash as it is, and
every one but a line feed behind a backslash. -/
inductive Quotable (quote : Char) : List Char → Prop where
  | nil : Quotable quote []
  | plain {c : Char} {cs : List Char} :
      c ≠ quote → c ≠ '\\' → Quotable quote cs → Quotable quote (c :: cs)
  | escaped {c : Char} {cs : List Char} :
      c ≠ '\n' → Quotable quote cs → Quotable quote ('\\' :: c :: cs)

structure Literal where
  quote : Char
  body : List Char
  isQuote : IsQuote quote
  quotable : Quotable quote body

/-- A literal with its quotes. -/
def Literal.chars (l : Literal) : List Char :=
  l.quote :: (l.body ++ [l.quote])

/-- Fragments with a literal between each and the next. -/
inductive Alternation where
  | code (f : Fragment)
  | literal (f : Fragment) (l : Literal) (rest : Alternation)

namespace Alternation

/-- The characters of an alternation. -/
def chars : Alternation → List Char
  | .code f => f.chars
  | .literal f l rest => f.chars ++ (l.chars ++ rest.chars)

/-- An alternation as a condition. -/
def text (a : Alternation) : String :=
  String.ofList a.chars

/-- The fragments, in order. -/
def fragments : Alternation → List Fragment
  | .code f => [f]
  | .literal f _ rest => f :: rest.fragments

/-- The literals, in order. -/
def literals : Alternation → List Literal
  | .code _ => []
  | .literal _ l rest => l :: rest.literals

/-- The pieces that an alternation is meant to be cut into. -/
def pieces : Alternation → List Piece
  | .code f => [.code f.chars]
  | .literal f l rest => .code f.chars :: .literal l.chars :: rest.pieces

end Alternation

/-! ## Cutting into pieces -/

theorem IsQuote.ne_backslash {c : Char} (h : IsQuote c) : c ≠ '\\' := by
  rintro rfl
  rcases h with h | h <;> cases h

theorem IsQuote.not_isBlank {c : Char} (h : IsQuote c) : isBlank c = false := by
  rcases h with rfl | rfl <;> decide

/-- A literal is closed by the first quote of its kind that no backslash takes. -/
theorem closeLiteral_append {quote : Char} {body : List Char} (hquote : IsQuote quote)
    (hbody : Quotable quote body) (rest : List Char) :
    closeLiteral quote (body ++ quote :: rest) = some (body ++ [quote], rest) := by
  induction hbody with
  | nil => simp [closeLiteral, hquote.ne_backslash]
  | plain hne hplain _ ih => simp [closeLiteral, hne, hplain, ih]
  | escaped hne _ ih => simp [closeLiteral, hne, ih]

/-- A literal is one piece. -/
theorem piecesFrom_literal (l : Literal) (code rest : List Char) :
    piecesFrom code (l.chars ++ rest) =
      .code code.reverse :: .literal l.chars :: piecesFrom [] rest := by
  have hclose := closeLiteral_append l.isQuote l.quotable rest
  have hquote : l.quote = '"' ∨ l.quote = '\'' := l.isQuote
  show piecesFrom code (l.quote :: ((l.body ++ [l.quote]) ++ rest)) = _
  rw [List.append_assoc, List.singleton_append, piecesFrom, if_pos hquote]
  split
  · rename_i body after hfound
    cases hclose.symm.trans hfound
    rfl
  · rename_i hnone
    cases hclose.symm.trans hnone

/-- **An alternation is cut into its own pieces.** -/
theorem pieces_chars (a : Alternation) : pieces a.chars = a.pieces := by
  induction a with
  | code f => exact pieces_of_unquoted f.unquoted
  | literal f l rest ih =>
    show piecesFrom [] (f.chars ++ (l.chars ++ rest.chars)) = _
    rw [piecesFrom_append f.unquoted, piecesFrom_literal, List.append_nil, List.reverse_reverse]
    exact congrArg (fun more => .code f.chars :: .literal l.chars :: more) ih

/-! ## Rules and blanks -/

/-- What every rule keeps to: it hands outer blanks on as they are and brings in no quotes. -/
structure Modest (rule : List Char → List Char) : Prop where
  leading : ∀ {c : Char} (cs : List Char), isBlank c = true → rule (c :: cs) = c :: rule cs
  trailing : ∀ {c : Char} (cs : List Char), isBlank c = true → rule (cs ++ [c]) = rule cs ++ [c]
  quotes : ∀ {c : Char} {cs : List Char}, IsQuote c → c ∈ rule cs → c ∈ cs

theorem Modest.foldl {rules : List (List Char → List Char)} (h : ∀ rule ∈ rules, Modest rule) :
    Modest fun cs => rules.foldl (fun code rule => rule code) cs := by
  induction rules with
  | nil => exact ⟨fun _ _ => rfl, fun _ _ => rfl, fun _ hmem => hmem⟩
  | cons rule rules ih =>
    obtain ⟨hrule, hrules⟩ := List.forall_mem_cons.mp h
    have hrest := ih hrules
    constructor
    · intro c cs hc
      rw [List.foldl_cons, hrule.leading cs hc]
      exact hrest.leading (rule cs) hc
    · intro c cs hc
      rw [List.foldl_cons, hrule.trailing cs hc]
      exact hrest.trailing (rule cs) hc
    · intro c cs hc hmem
      exact hrule.quotes hc (hrest.quotes hc hmem)

section Written

variable {new cs rest : List Char} {c d : Char}

/-! A rule writes its own text or keeps a character, and goes on with what is left. -/

theorem mem_of_written (hrest : c ∈ rest → c ∈ new ∨ c ∈ cs) (h : c ∈ new ++ rest) :
    c ∈ new ∨ c ∈ d :: cs := by
  rcases List.mem_append.mp h with hnew | hleft
  · exact Or.inl hnew
  · exact (hrest hleft).imp_right (List.mem_cons_of_mem _)

theorem mem_of_kept (hrest : c ∈ rest → c ∈ new ∨ c ∈ cs) (h : c ∈ d :: rest) :
    c ∈ new ∨ c ∈ d :: cs := by
  rcases List.mem_cons.mp h with rfl | hleft
  · exact Or.inr List.mem_cons_self
  · exact (hrest hleft).imp_right (List.mem_cons_of_mem _)

end Written

section Symbols

variable {a : Char} {symbol new : List Char}

theorem replaceFrom_concat {c : Char} (hc : c ∉ a :: symbol) {skip : Nat} {cs : List Char}
    (hskip : skip ≤ cs.length) :
    replaceFrom (a :: symbol) new skip (cs ++ [c]) = replaceFrom (a :: symbol) new skip cs ++ [c] := by
  -- What is skipped belongs to a match, and no match takes the blank behind the text.
  induction cs generalizing skip with
  | nil =>
    obtain rfl : skip = 0 := Nat.le_zero.mp hskip
    exact replaceFrom_of_ne fun hca => hc (hca ▸ List.mem_cons_self)
  | cons d cs ih =>
    rcases skip with _ | skip
    · have hstrip : Text.stripWord (a :: symbol) (d :: (cs ++ [c])) = _ :=
        Text.stripWord_concat hc (d :: cs)
      rw [List.cons_append, replaceFrom, replaceFrom, hstrip, Option.isSome_map]
      split
      · rename_i hsome
        obtain ⟨rest, hrest⟩ := Option.isSome_iff_exists.mp hsome
        have hlength := congrArg List.length (Text.stripWord_eq_some_iff.mp hrest)
        simp only [List.length_cons, List.length_append] at hlength
        rw [ih (by simp only [List.length_cons]; omega), List.append_assoc]
      · rw [ih (Nat.zero_le _)]
        rfl
    · exact ih (Nat.le_of_succ_le_succ hskip)

theorem mem_replaceFrom {symbol : List Char} {skip : Nat} {cs : List Char} {c : Char}
    (h : c ∈ replaceFrom symbol new skip cs) : c ∈ new ∨ c ∈ cs := by
  induction cs generalizing skip with
  | nil => simp [replaceFrom] at h
  | cons d cs ih =>
    rcases skip with _ | skip
    · rw [replaceFrom] at h
      split at h
      · exact mem_of_written ih h
      · exact mem_of_kept ih h
    · exact (ih h).imp_right (List.mem_cons_of_mem _)

theorem modest_symbol (hblanks : ∀ c ∈ a :: symbol, isBlank c = false)
    (hquotes : ∀ c ∈ new, ¬ IsQuote c) : Modest (replaceFrom (a :: symbol) new 0) := by
  have hnotMem : ∀ {c : Char}, isBlank c = true → c ∉ a :: symbol := by
    intro c hc hmem
    rw [hblanks c hmem] at hc
    cases hc
  constructor
  · intro c cs hc
    exact replaceFrom_of_ne fun hca => hnotMem hc (hca ▸ List.mem_cons_self)
  · intro c cs hc
    exact replaceFrom_concat (hnotMem hc) (Nat.zero_le _)
  · intro c cs hc hmem
    exact (mem_replaceFrom hmem).resolve_left fun hnew => hquotes c hnew hc

end Symbols

theorem mem_replaceNot {cs : List Char} {c : Char} (h : c ∈ replaceNot cs) :
    c ∈ " not ".toList ∨ c ∈ cs := by
  induction cs with
  | nil => exact Or.inr h
  | cons d cs ih =>
    rw [replaceNot] at h
    split at h
    · exact mem_of_written ih h
    · exact mem_of_kept ih h

theorem replaceNot_concat {c : Char} (hmark : c ≠ '!') (hequals : c ≠ '=') (cs : List Char) :
    replaceNot (cs ++ [c]) = replaceNot cs ++ [c] := by
  induction cs with
  | nil =>
    have hmem : '!' ∉ [c] := fun h => hmark (List.mem_singleton.mp h).symm
    exact replaceNot_append hmem []
  | cons d cs ih =>
    have hhead : (cs ++ [c]).head? = some '=' ↔ cs.head? = some '=' := by
      rcases cs with _ | ⟨e, cs⟩
      · simp [hequals]
      · rfl
    rw [List.cons_append, replaceNot, replaceNot, ih]
    simp only [ne_eq, hhead]
    split
    · rw [List.append_assoc]
    · rfl

theorem modest_not : Modest replaceNot where
  leading {c} cs hc := by
    have hnotMem : '!' ∉ [c] := by
      intro hmem
      rw [← List.mem_singleton.mp hmem] at hc
      cases hc
    exact replaceNot_append hnotMem cs
  trailing cs hc := by
    refine replaceNot_concat ?_ ?_ cs
    · rintro rfl
      cases hc
    · rintro rfl
      cases hc
  quotes hc hmem := by
    refine (mem_replaceNot hmem).resolve_left ?_
    rcases hc with rfl | rfl <;> decide

section Words

variable {words : List (List Char)} {new : List Char}

/-- A whole word ends where a blank follows as where the text ends. -/
theorem wordAt_concat {word : List Char} {c : Char} (hc : isWordChar c = false) (hword : c ∉ word)
    (cs : List Char) : wordAt word (cs ++ [c]) = wordAt word cs := by
  unfold wordAt
  rw [Text.stripWord_concat hword]
  rcases Text.stripWord word cs with _ | _ | ⟨d, rest⟩
  · rfl
  · simp [hc]
  · rfl

theorem replaceWordsFrom_concat (hwords : ∀ word ∈ words, isWord word = true) {c : Char}
    (hc : isWordChar c = false) {joined : Bool} {skip : Nat} {cs : List Char}
    (hskip : skip ≤ cs.length) :
    replaceWordsFrom words new joined skip (cs ++ [c]) =
      replaceWordsFrom words new joined skip cs ++ [c] := by
  induction cs generalizing joined skip with
  | nil =>
    obtain rfl : skip = 0 := Nat.le_zero.mp hskip
    exact replaceWordsFrom_of_not_wordChar hwords hc joined []
  | cons d cs ih =>
    rcases skip with _ | skip
    · have hsame : ∀ word ∈ words, wordAt word (d :: (cs ++ [c])) = wordAt word (d :: cs) :=
        fun word hword => wordAt_concat hc (notMem_of_isWord (hwords word hword) hc) (d :: cs)
      have hfind : (words.find? fun word => !joined && wordAt word (d :: (cs ++ [c]))) =
          words.find? fun word => !joined && wordAt word (d :: cs) :=
        List.find?_congr fun word hword => by rw [hsame word hword]
      rw [List.cons_append, replaceWordsFrom, replaceWordsFrom, hfind]
      rcases hfound : words.find? fun word => !joined && wordAt word (d :: cs) with _ | word
      · simp only [ih (Nat.zero_le _)]
        rfl
      · -- The word that was found stands in the text, so it is no longer than the text.
        have hat : wordAt word (d :: cs) = true := by
          have := List.find?_some hfound
          simp only [Bool.and_eq_true] at this
          exact this.2
        have hlength : word.length ≤ cs.length + 1 := by
          unfold wordAt at hat
          rcases hstrip : Text.stripWord word (d :: cs) with _ | rest
          · rw [hstrip] at hat
            cases hat
          · have := congrArg List.length (Text.stripWord_eq_some_iff.mp hstrip)
            simp only [List.length_cons, List.length_append] at this
            omega
        simp only [ih (show word.length - 1 ≤ cs.length by omega), List.append_assoc]
    · exact ih (Nat.le_of_succ_le_succ hskip)

theorem mem_replaceWordsFrom {joined : Bool} {skip : Nat} {cs : List Char} {c : Char}
    (h : c ∈ replaceWordsFrom words new joined skip cs) : c ∈ new ∨ c ∈ cs := by
  induction cs generalizing joined skip with
  | nil => simp [replaceWordsFrom] at h
  | cons d cs ih =>
    rcases skip with _ | skip
    · rw [replaceWordsFrom] at h
      split at h
      · exact mem_of_written ih h
      · exact mem_of_kept ih h
    · exact (ih h).imp_right (List.mem_cons_of_mem _)

theorem modest_words {words : List String} {new : String}
    (hwords : ∀ word ∈ words, isWord word.toList = true) (hquotes : ∀ c ∈ new.toList, ¬ IsQuote c) :
    Modest (replaceWords words new) := by
  have hchars : ∀ word ∈ words.map String.toList, isWord word = true := by
    intro word hword
    obtain ⟨w, hw, rfl⟩ := List.mem_map.mp hword
    exact hwords w hw
  constructor
  · intro c cs hc
    exact replaceWordsFrom_of_not_wordChar hchars (isWordChar_of_isBlank hc) false cs
  · intro c cs hc
    exact replaceWordsFrom_concat hchars (isWordChar_of_isBlank hc) (Nat.zero_le _)
  · intro c cs hc hmem
    exact (mem_replaceWordsFrom hmem).resolve_left fun hnew => hquotes c hnew hc

end Words

theorem modest_rewriteCode : Modest rewriteCode := by
  have hblanks : ∀ symbol ∈ ["===", "!==", "&&", "||"], ∀ c ∈ symbol.toList, isBlank c = false := by
    have hmarks : isBlank '=' = false ∧ isBlank '!' = false ∧ isBlank '&' = false ∧
        isBlank '|' = false := by decide
    simp [hmarks]
  have hquotes : ∀ new ∈ ["==", "!=", " and ", " or ", "True", "False", "None"],
      ∀ c ∈ new.toList, ¬ IsQuote c := by
    simp [IsQuote]
  refine Modest.foldl ?_
  simp only [rules, List.forall_mem_cons]
  refine ⟨modest_symbol (hblanks "===" ?_) (hquotes _ ?_),
    modest_symbol (hblanks "!==" ?_) (hquotes _ ?_), modest_symbol (hblanks "&&" ?_) (hquotes _ ?_),
    modest_symbol (hblanks "||" ?_) (hquotes _ ?_), modest_not, modest_words ?_ (hquotes _ ?_),
    modest_words ?_ (hquotes _ ?_), modest_words ?_ (hquotes _ ?_), List.forall_mem_nil _⟩
  all_goals decide

/-! ## Blanks around code -/

section Blanks

variable {rule : List Char → List Char} {blanks : List Char}

theorem Modest.append_left (h : Modest rule) (hblanks : ∀ c ∈ blanks, isBlank c = true)
    (cs : List Char) : rule (blanks ++ cs) = blanks ++ rule cs := by
  induction blanks with
  | nil => rfl
  | cons c blanks ih =>
    obtain ⟨hc, hblanks⟩ := List.forall_mem_cons.mp hblanks
    rw [List.cons_append, h.leading _ hc, ih hblanks]
    rfl

theorem Modest.append_right (h : Modest rule) (hblanks : ∀ c ∈ blanks, isBlank c = true)
    (cs : List Char) : rule (cs ++ blanks) = rule cs ++ blanks := by
  induction blanks generalizing cs with
  | nil => rw [List.append_nil, List.append_nil]
  | cons c blanks ih =>
    obtain ⟨hc, hblanks⟩ := List.forall_mem_cons.mp hblanks
    rw [List.append_cons, ih hblanks, h.trailing _ hc, ← List.append_cons]

end Blanks

namespace Fragment

/-- The code after the rules. -/
def rewritten (f : Fragment) : Fragment :=
  ⟨rewriteCode f.chars, fun _ hc hquote => f.unquoted _ (modest_rewriteCode.quotes hquote hc) hquote⟩

/-- The code without leading blanks. -/
def trimLeft (f : Fragment) : Fragment :=
  ⟨dropLeading isBlank f.chars, fun _ hc => f.unquoted _ ((List.dropWhile_subset _) hc)⟩

/-- The code without trailing blanks. -/
def trimRight (f : Fragment) : Fragment :=
  ⟨dropTrailing isBlank f.chars,
    fun _ hc => f.unquoted _ ((Text.dropTrailing_isPrefix _ _).subset hc)⟩

/-- Code as a condition of its own. -/
def text (f : Fragment) : String :=
  String.ofList f.chars

theorem exists_rewritten_trimLeft (f : Fragment) :
    ∃ blanks, (∀ c ∈ blanks, isBlank c = true) ∧
      f.rewritten.chars = blanks ++ f.trimLeft.rewritten.chars := by
  have hblanks : ∀ c ∈ f.chars.takeWhile isBlank, isBlank c = true :=
    fun _ hc => List.mem_takeWhile_imp hc
  have hchars : f.chars = f.chars.takeWhile isBlank ++ dropLeading isBlank f.chars :=
    List.takeWhile_append_dropWhile.symm
  refine ⟨_, hblanks, ?_⟩
  show rewriteCode f.chars = _
  conv_lhs => rw [hchars]
  exact modest_rewriteCode.append_left hblanks _

theorem exists_rewritten_trimRight (f : Fragment) :
    ∃ blanks, (∀ c ∈ blanks, isBlank c = true) ∧
      f.rewritten.chars = f.trimRight.rewritten.chars ++ blanks := by
  obtain ⟨blanks, hchars, hblanks⟩ := Text.exists_eq_dropTrailing_append isBlank f.chars
  refine ⟨blanks, hblanks, ?_⟩
  show rewriteCode f.chars = _
  conv_lhs => rw [hchars]
  exact modest_rewriteCode.append_right hblanks _

/-- Trimming leaves nothing of the blanks that were taken off one end before. -/
theorem trim_text_trimLeft (f : Fragment) : Text.trim f.trimLeft.text = Text.trim f.text := by
  have hchars : f.chars = f.chars.takeWhile isBlank ++ dropLeading isBlank f.chars :=
    List.takeWhile_append_dropWhile.symm
  have hsame : trimChars (dropLeading isBlank f.chars) = trimChars f.chars := by
    conv_rhs => rw [hchars]
    exact (Text.trimBy_append_left (fun _ hc => List.mem_takeWhile_imp hc) _).symm
  simp only [Text.trim, text, trimLeft, String.toList_ofList, hsame]

theorem trim_text_trimRight (f : Fragment) : Text.trim f.trimRight.text = Text.trim f.text := by
  obtain ⟨blanks, hchars, hblanks⟩ := Text.exists_eq_dropTrailing_append isBlank f.chars
  have hsame : trimChars (dropTrailing isBlank f.chars) = trimChars f.chars := by
    conv_rhs => rw [hchars]
    exact (Text.trimBy_append_right hblanks _).symm
  simp only [Text.trim, text, trimRight, String.toList_ofList, hsame]

end Fragment

namespace Alternation

/-- The alternation with its code after the rules. -/
def rewritten : Alternation → Alternation
  | .code f => .code f.rewritten
  | .literal f l rest => .literal f.rewritten l rest.rewritten

/-- The alternation without leading blanks. -/
def trimLeft : Alternation → Alternation
  | .code f => .code f.trimLeft
  | .literal f l rest => .literal f.trimLeft l rest

/-- The alternation without trailing blanks. -/
def trimRight : Alternation → Alternation
  | .code f => .code f.trimRight
  | .literal f l rest => .literal f l rest.trimRight

/-- The alternation without outer blanks. -/
def trimmed (a : Alternation) : Alternation :=
  a.trimLeft.trimRight

theorem flatMap_rewrite_pieces (a : Alternation) :
    a.pieces.flatMap Piece.rewrite = a.rewritten.chars := by
  induction a with
  | code f => exact List.append_nil _
  | literal f l rest ih =>
    show rewriteCode f.chars ++ (l.chars ++ rest.pieces.flatMap Piece.rewrite) = _
    rw [ih]
    rfl

/-! A literal begins and ends with a quote, so trimming goes no further than the outer code. -/

theorem dropLeading_chars (a : Alternation) : dropLeading isBlank a.chars = a.trimLeft.chars := by
  cases a with
  | code f => rfl
  | literal f l rest =>
    refine Text.dropLeading_append_of_head ?_ f.chars
    rintro _ ⟨⟩
    exact l.isQuote.not_isBlank

theorem dropTrailing_chars (a : Alternation) : dropTrailing isBlank a.chars = a.trimRight.chars := by
  induction a with
  | code f => rfl
  | literal f l rest ih =>
    have hlast : ∀ c ∈ (f.chars ++ l.chars).getLast?, isBlank c = false := by
      intro c hc
      rw [Literal.chars, ← List.cons_append, ← List.append_assoc, List.getLast?_concat] at hc
      cases hc
      exact l.isQuote.not_isBlank
    show dropTrailing isBlank (f.chars ++ (l.chars ++ rest.chars)) = _
    rw [← List.append_assoc, Text.dropTrailing_append_of_last hlast, ih, List.append_assoc]
    rfl

theorem trimChars_chars (a : Alternation) : trimChars a.chars = a.trimmed.chars := by
  show dropTrailing isBlank (dropLeading isBlank a.chars) = _
  rw [dropLeading_chars, dropTrailing_chars]
  rfl

/-! ### Trimming before and after the rules -/

theorem exists_rewritten_trimLeft (a : Alternation) :
    ∃ blanks, (∀ c ∈ blanks, isBlank c = true) ∧
      a.rewritten.chars = blanks ++ a.trimLeft.rewritten.chars := by
  cases a with
  | code f => exact f.exists_rewritten_trimLeft
  | literal f l rest =>
    obtain ⟨blanks, hblanks, hchars⟩ := f.exists_rewritten_trimLeft
    refine ⟨blanks, hblanks, ?_⟩
    show f.rewritten.chars ++ (l.chars ++ rest.rewritten.chars) =
      blanks ++ (f.trimLeft.rewritten.chars ++ (l.chars ++ rest.rewritten.chars))
    rw [hchars, List.append_assoc]

theorem exists_rewritten_trimRight (a : Alternation) :
    ∃ blanks, (∀ c ∈ blanks, isBlank c = true) ∧
      a.rewritten.chars = a.trimRight.rewritten.chars ++ blanks := by
  induction a with
  | code f => exact f.exists_rewritten_trimRight
  | literal f l rest ih =>
    obtain ⟨blanks, hblanks, hrest⟩ := ih
    refine ⟨blanks, hblanks, ?_⟩
    show f.rewritten.chars ++ (l.chars ++ rest.rewritten.chars) =
      (f.rewritten.chars ++ (l.chars ++ rest.trimRight.rewritten.chars)) ++ blanks
    rw [hrest]
    simp only [List.append_assoc]

/-- It makes no difference to the result whether outer blanks are there when the rules are applied. -/
theorem trimChars_rewritten_trimmed (a : Alternation) :
    trimChars a.trimmed.rewritten.chars = trimChars a.rewritten.chars := by
  obtain ⟨lead, hlead, hleft⟩ := a.exists_rewritten_trimLeft
  obtain ⟨trail, htrail, hright⟩ := a.trimLeft.exists_rewritten_trimRight
  rw [hleft, hright]
  show Text.trimBy isBlank _ = Text.trimBy isBlank _
  rw [Text.trimBy_append_left hlead, Text.trimBy_append_right htrail]
  rfl

/-- **The rewriting of an alternation** is the alternation with its code rewritten and trimmed. -/
theorem rewrite_text (a : Alternation) : rewrite a.text = a.rewritten.trimmed.text := by
  show String.ofList (trimChars
    ((Condition.pieces (trimChars (String.ofList a.chars).toList)).flatMap Piece.rewrite)) = _
  rw [String.toList_ofList, trimChars_chars, pieces_chars, flatMap_rewrite_pieces,
    trimChars_rewritten_trimmed, trimChars_chars]
  rfl

/-! ### What is left of the parts -/

theorem literals_trimRight (a : Alternation) : a.trimRight.literals = a.literals := by
  induction a with
  | code f => rfl
  | literal f l rest ih => exact congrArg (l :: ·) ih

theorem literals_rewritten (a : Alternation) : a.rewritten.literals = a.literals := by
  induction a with
  | code f => rfl
  | literal f l rest ih => exact congrArg (l :: ·) ih

theorem literals_trimmed (a : Alternation) : a.trimmed.literals = a.literals := by
  rw [trimmed, literals_trimRight]
  cases a <;> rfl

theorem fragments_rewritten (a : Alternation) :
    a.rewritten.fragments = a.fragments.map Fragment.rewritten := by
  induction a with
  | code f => rfl
  | literal f l rest ih => exact congrArg (f.rewritten :: ·) ih

theorem trim_fragments_trimRight (a : Alternation) :
    (a.trimRight.fragments.map fun f => Text.trim f.text) =
      a.fragments.map fun f => Text.trim f.text := by
  induction a with
  | code f => exact congrArg ([·]) f.trim_text_trimRight
  | literal f l rest ih => exact congrArg (Text.trim f.text :: ·) ih

theorem trim_fragments_trimmed (a : Alternation) :
    (a.trimmed.fragments.map fun f => Text.trim f.text) =
      a.fragments.map fun f => Text.trim f.text := by
  rw [trimmed, trim_fragments_trimRight]
  cases a with
  | code f => exact congrArg ([·]) f.trim_text_trimLeft
  | literal f l rest => exact congrArg (· :: rest.fragments.map _) f.trim_text_trimLeft

/-- Code on its own is rewritten by the rules and trimmed. -/
theorem rewrite_fragment (f : Fragment) : rewrite f.text = Text.trim f.rewritten.text := by
  have hcode : rewrite f.text = String.ofList (code f).rewritten.trimmed.chars := rewrite_text (.code f)
  rw [hcode, ← trimChars_chars, Text.trim, Fragment.text, String.toList_ofList]
  rfl

end Alternation

/-- **What stands in quotes survives the rewriting**: the literals come out as they went in and in their
order, and the code between them by the rules alone. Outer blanks apart, each fragment becomes what
rewriting makes of it on its own. -/
theorem literals_survive_rewriting (a : Alternation) :
    rewrite a.text = a.rewritten.trimmed.text ∧
      a.rewritten.trimmed.literals = a.literals ∧
      a.rewritten.fragments = a.fragments.map Fragment.rewritten ∧
      (a.rewritten.trimmed.fragments.map fun f => Text.trim f.text) =
        a.fragments.map fun f => rewrite f.text := by
  refine ⟨a.rewrite_text, ?_, a.fragments_rewritten, ?_⟩
  · rw [Alternation.literals_trimmed, Alternation.literals_rewritten]
  · simp only [Alternation.rewrite_fragment]
    rw [Alternation.trim_fragments_trimmed, Alternation.fragments_rewritten, List.map_map]
    rfl

/-- An operator in quotes, next to a quote of the other kind, stays as it is. -/
example : rewrite " a === 'b || \"c' && !d " = "a == 'b || \"c'  and   not d" := by cbv

end Helpdesk.Condition
