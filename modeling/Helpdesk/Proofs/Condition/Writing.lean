import Helpdesk.Proofs.Condition.Spelling
import Helpdesk.Proofs.Text.Blank

/-!
# Helpdesk.Proofs.Condition.Writing — how a written script is rewritten.

Authors set their scripts as they like: with blanks around them and gaps between their symbols, and
with line ends in the gaps while a parenthesis is open. A writing has no quotes, so that all of it is
code, and the blanks around it are trimmed before and after the rules.
-/
namespace Helpdesk.Condition

open Text (isWordChar)

/-- The characters that literals are quoted by. -/
def IsQuote (c : Char) : Prop :=
  c = '"' ∨ c = '\''

/-- Code is read up to the next quote. -/
theorem piecesFrom_append {cs : List Char} (h : ∀ c ∈ cs, ¬ IsQuote c) (code rest : List Char) :
    piecesFrom code (cs ++ rest) = piecesFrom (cs.reverse ++ code) rest := by
  induction cs generalizing code with
  | nil => rfl
  | cons c cs ih =>
    obtain ⟨hc, hcs⟩ := List.forall_mem_cons.mp h
    have hquote : ¬ (c = '"' ∨ c = '\'') := hc
    rw [List.cons_append, piecesFrom, if_neg hquote, ih hcs]
    simp

/-- Code without quotes is one piece. -/
theorem pieces_of_unquoted {cs : List Char} (h : ∀ c ∈ cs, ¬ IsQuote c) : pieces cs = [.code cs] := by
  have hcode := piecesFrom_append h [] []
  rw [List.append_nil, List.append_nil] at hcode
  rw [pieces, hcode, piecesFrom, List.reverse_reverse]

theorem pieces_of_notMem {cs : List Char} (hdouble : '"' ∉ cs) (hsingle : '\'' ∉ cs) :
    pieces cs = [.code cs] := by
  apply pieces_of_unquoted
  rintro c hc (rfl | rfl)
  · exact hdouble hc
  · exact hsingle hc

/-! ### Blanks around a text -/

theorem isWordChar_of_isBlank {c : Char} (h : Text.isBlank c = true) : isWordChar c = false := by
  have hall : ∀ n ∈ [9, 10, 11, 12, 13, 28, 29, 30, 31, 32, 0x85, 0xa0, 0x1680, 0x2000, 0x2001, 0x2002,
      0x2003, 0x2004, 0x2005, 0x2006, 0x2007, 0x2008, 0x2009, 0x200a, 0x2028, 0x2029, 0x202f, 0x205f,
      0x3000], isWordChar (Char.ofNat n) = false := by decide +kernel
  rw [← Char.ofNat_toNat c]
  apply hall
  simp only [Text.isBlank, Bool.or_eq_true, Bool.and_eq_true, decide_eq_true_eq, beq_iff_eq] at h
  simp only [List.mem_cons, List.not_mem_nil, or_false]
  omega

/-- What an operand begins or ends with is not blank. -/
theorem not_isBlank_of_mem {c : Char} (h : isWordChar c = true ∨ c ∈ marks) :
    Text.isBlank c = false := by
  rcases h with h | h
  · rw [← Bool.not_eq_true]
    intro hblank
    rw [isWordChar_of_isBlank hblank] at h
    cases h
  · simp only [marks, List.mem_cons, List.not_mem_nil, or_false] at h
    rcases h with rfl | rfl | rfl | rfl | rfl | rfl <;> decide

/-- Trimming takes off the blanks around a text that does not begin or end with one. -/
theorem trimChars_surround {lead cs trail : List Char} (hlead : ∀ c ∈ lead, Text.isBlank c = true)
    (htrail : ∀ c ∈ trail, Text.isBlank c = true)
    (hfirst : ∃ c ∈ cs.head?, Text.isBlank c = false)
    (hlast : ∃ c ∈ cs.getLast?, Text.isBlank c = false) :
    Text.trimChars (lead ++ cs ++ trail) = cs := by
  obtain ⟨a, ha, hafter⟩ := hfirst
  obtain ⟨b, hb, hbefore⟩ := hlast
  rw [Text.trimChars, Text.trimBy_append_right htrail, Text.trimBy_append_left hlead]
  refine Text.trimBy_eq_self_iff.mpr ⟨?_, ?_⟩
  · intro c hc
    cases ha.symm.trans hc
    exact hafter
  · intro c hc
    cases hb.symm.trans hc
    exact hbefore

/-- An operand does not begin with a blank, but for a negation that is a word. -/
theorem Spelling.Usual.first {sp : Spelling} (h : sp.Usual) {s : Sym} (hs : s.Known)
    (hbegins : s.begins = true) (hnot : s ≠ .negation ∨ sp.negation = "!") :
    ∃ c ∈ (sp.of s).head?, isWordChar c = true ∨ c ∈ marks := by
  cases s with
  | word w =>
    obtain ⟨hne, hwordy⟩ := isWord_iff.mp (h.word w hs)
    obtain ⟨c, rest, hspelled⟩ := List.exists_cons_of_ne_nil hne
    refine ⟨c, congrArg List.head? hspelled, Or.inl ?_⟩
    apply hwordy
    rw [hspelled]
    exact List.mem_cons_self
  | negation =>
    refine ⟨'!', ?_, Or.inr (by decide)⟩
    rw [of, hnot.resolve_left (fun hne => hne rfl)]
    rfl
  | opening => exact ⟨'(', rfl, Or.inr (by decide)⟩
  | _ => cases hbegins

theorem Spelling.Usual.last {sp : Spelling} (h : sp.Usual) {s : Sym} (hs : s.Known)
    (hends : s.ends = true) : ∃ c ∈ (sp.of s).getLast?, isWordChar c = true ∨ c ∈ marks := by
  cases s with
  | word w =>
    obtain ⟨hne, hwordy⟩ := isWord_iff.mp (h.word w hs)
    exact ⟨_, List.getLast?_eq_getLast_of_ne_nil hne, Or.inl (hwordy _ (List.getLast_mem hne))⟩
  | closing => exact ⟨')', rfl, Or.inr (by decide)⟩
  | _ => cases hends

/-- How many parentheses are open after a symbol. -/
def Sym.openAfter (n : Nat) : Sym → Nat
  | .opening => n + 1
  | .closing => n - 1
  | _ => n

/-- Gaps hold separators, and line ends only while parentheses are open. -/
def Gapped : Nat → List (List Char × Sym) → Prop
  | _, [] => True
  | n, (gap, s) :: row =>
    (∀ c ∈ gap, isSeparator c = true ∨ 0 < n ∧ isLineEnd c = true) ∧ Gapped (s.openAfter n) row

theorem Gapped.isGap {row : List (List Char × Sym)} {n : Nat} (h : Gapped n row) :
    ∀ t ∈ row, ∀ c ∈ t.1, isGap c = true := by
  induction row generalizing n with
  | nil => exact fun t ht => absurd ht List.not_mem_nil
  | cons first row ih =>
    refine List.forall_mem_cons.mpr ⟨?_, ih h.2⟩
    intro c hc
    rcases h.1 c hc with hseparator | ⟨_, hend⟩
    · simp [Condition.isGap, hseparator]
    · simp [Condition.isGap, hend]

/-- A script as its author has written it: symbols with gaps between them, and blanks around. -/
structure Writing where
  lead : List Char
  row : List (List Char × Sym)
  trail : List Char

namespace Writing

/-- The text of a writing. -/
def text (w : Writing) : String :=
  String.ofList (w.lead ++ Spelling.script.text w.row ++ w.trail)

/-- A writing of a script. -/
structure Of (w : Writing) (s : Script .disjunction) : Prop where
  lead : ∀ c ∈ w.lead, Text.isBlank c = true
  trail : ∀ c ∈ w.trail, Text.isBlank c = true
  symbols : w.row.map Prod.snd = s.syms
  /-- What stands before the first symbol is the lead. -/
  begins : ∀ t ∈ w.row.head?, t.1 = []
  gaps : Gapped 0 w.row

variable {w : Writing} {s : Script .disjunction}

theorem Of.isRow (h : w.Of s) (hnames : ∀ id ∈ s.names, PlainName id) : Row w.row where
  gaps := h.gaps.isGap
  known t ht := s.known hnames t.2 (h.symbols ▸ List.mem_map_of_mem ht)
  chain := h.symbols ▸ s.phrase.chain

theorem Of.exists_row (h : w.Of s) : ∃ first rest, w.row = ([], first) :: rest ∧ first.begins = true := by
  obtain ⟨first, hfirst, hbegins⟩ := s.phrase.first
  rw [← h.symbols] at hfirst
  rcases hrow : w.row with _ | ⟨⟨gap, t⟩, rest⟩
  · rw [hrow] at hfirst
    cases hfirst
  · rw [hrow] at hfirst
    obtain rfl : t = first := Option.some.inj hfirst
    obtain rfl : gap = [] := h.begins (gap, t) (by rw [hrow]; rfl)
    exact ⟨t, rest, rfl, hbegins⟩

/-- The first character, unless the script begins with a negation that has a blank before it. -/
theorem Of.text_first (h : w.Of s) (hnames : ∀ id ∈ s.names, PlainName id) {first : Sym}
    {rest : List (List Char × Sym)} (hcons : w.row = ([], first) :: rest) (hbegins : first.begins = true)
    {sp : Spelling} (hsp : sp.Usual) (hnot : first ≠ .negation ∨ sp.negation = "!") :
    ∃ c ∈ (sp.text w.row).head?, isWordChar c = true ∨ c ∈ marks := by
  have hknown : first.Known := (h.isRow hnames).known ([], first) (hcons ▸ List.mem_cons_self)
  obtain ⟨c, hc, hkind⟩ := hsp.first hknown hbegins hnot
  refine ⟨c, ?_, hkind⟩
  have htext : sp.text w.row = sp.of first ++ sp.text rest := by rw [hcons]; rfl
  rw [htext, List.head?_append, show (sp.of first).head? = some c from hc]
  rfl

theorem Of.text_last (h : w.Of s) (hnames : ∀ id ∈ s.names, PlainName id) {sp : Spelling}
    (hsp : sp.Usual) : ∃ c ∈ (sp.text w.row).getLast?, isWordChar c = true ∨ c ∈ marks := by
  obtain ⟨last, hlast, hends⟩ := s.phrase.last
  rw [← h.symbols] at hlast
  rcases List.eq_nil_or_concat w.row with hnil | ⟨init, ⟨gap, t⟩, hrow⟩
  · rw [hnil] at hlast
    cases hlast
  · rw [hrow, List.concat_eq_append, List.map_append, List.map_singleton, List.getLast?_concat] at hlast
    obtain rfl : t = last := Option.some.inj hlast
    have hknown : t.Known := by
      apply (h.isRow hnames).known (gap, t)
      rw [hrow, List.concat_eq_append]
      exact List.mem_append_right _ (List.mem_singleton_self _)
    obtain ⟨c, hc, hsolid⟩ := hsp.last hknown hends
    refine ⟨c, ?_, hsolid⟩
    have htext : sp.text w.row = sp.text init ++ gap ++ sp.of t := by
      simp [Spelling.text, hrow]
    rw [htext, List.getLast?_append, show (sp.of t).getLast? = some c from hc]
    rfl

theorem exists_not_isBlank {first : Option Char} (h : ∃ c ∈ first, isWordChar c = true ∨ c ∈ marks) :
    ∃ c ∈ first, Text.isBlank c = false := by
  obtain ⟨c, hc, hkind⟩ := h
  exact ⟨c, hc, not_isBlank_of_mem hkind⟩

/-- A script holds no quotes, so that all of it is code. -/
theorem Of.toList_rewrite_text (h : w.Of s) (hnames : ∀ id ∈ s.names, PlainName id) :
    (rewrite w.text).toList = Text.trimChars (Spelling.plain.text w.row) := by
  have hrow := h.isRow hnames
  obtain ⟨first, rest, hcons, hbegins⟩ := h.exists_row
  have htrimmed : Text.trimChars w.text.toList = Spelling.script.text w.row := by
    rw [text, String.toList_ofList]
    apply trimChars_surround h.lead h.trail
    · exact exists_not_isBlank (h.text_first hnames hcons hbegins Spelling.usual_script (Or.inr rfl))
    · exact exists_not_isBlank (h.text_last hnames Spelling.usual_script)
  have hquoteless : ∀ c : Char, isGap c = false → isWordChar c = false → c ∉ marks →
      c ∉ Spelling.script.text w.row := by
    intro c hgap hword hmark hc
    rcases Spelling.usual_script.mem_text hrow.gaps hrow.known c hc with hc | hc | hc
    · exact absurd hc (by rw [hgap]; decide)
    · exact absurd hc (by rw [hword]; decide)
    · exact hmark hc
  rw [rewrite, String.toList_ofList, htrimmed,
    pieces_of_notMem (hquoteless _ (by decide) (by decide) (by decide))
      (hquoteless _ (by decide) (by decide) (by decide)), List.flatMap_singleton, Piece.rewrite,
    rewriteCode_text hrow]

/-- **A written script is rewritten** to its symbols in the spelling of the condition language, but
for the blank that a negation at its beginning would have. -/
theorem Of.rewrite_text (h : w.Of s) (hnames : ∀ id ∈ s.names, PlainName id) :
    ∃ lead, (∀ c ∈ lead, c = ' ') ∧ Spelling.plain.text w.row = lead ++ (rewrite w.text).toList ∧
      ∃ c ∈ (rewrite w.text).toList.head?, isWordChar c = true ∨ c ∈ marks := by
  obtain ⟨first, rest, hcons, hbegins⟩ := h.exists_row
  have hlast := exists_not_isBlank (h.text_last hnames Spelling.usual_plain)
  rw [h.toList_rewrite_text hnames]
  by_cases hnot : first = .negation
  · -- The blank before the word for a negation is trimmed.
    obtain ⟨inner, hinner⟩ : ∃ inner, Spelling.plain.text w.row = [' '] ++ 'n' :: inner := by
      rw [hcons, hnot]
      exact ⟨_, rfl⟩
    have htrim : Text.trimChars (Spelling.plain.text w.row) = 'n' :: inner := by
      rw [hinner, ← List.append_nil ([' '] ++ 'n' :: inner)]
      apply trimChars_surround
      · simp [Text.isBlank]
      · simp
      · exact ⟨'n', rfl, by decide⟩
      · obtain ⟨c, hc, hblank⟩ := hlast
        refine ⟨c, ?_, hblank⟩
        have hends : ([' '] ++ 'n' :: inner).getLast? = some c := hinner ▸ hc
        rwa [List.singleton_append, List.getLast?_cons_cons] at hends
    refine ⟨[' '], by simp, ?_, 'n', ?_, Or.inl (by decide)⟩
    · rw [htrim, hinner]
    · rw [htrim]
      rfl
  · have hhead := h.text_first hnames hcons hbegins Spelling.usual_plain (Or.inl hnot)
    have htrim : Text.trimChars (Spelling.plain.text w.row) = Spelling.plain.text w.row := by
      have hsurround : Text.trimChars ([] ++ Spelling.plain.text w.row ++ []) =
          Spelling.plain.text w.row :=
        trimChars_surround (by simp) (by simp) (exists_not_isBlank hhead) hlast
      rwa [List.nil_append, List.append_nil] at hsurround
    rw [htrim]
    exact ⟨[], by simp, rfl, hhead⟩

end Writing

end Helpdesk.Condition
