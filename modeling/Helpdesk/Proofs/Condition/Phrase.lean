import Helpdesk.Proofs.Condition.Script
import Mathlib.Data.List.Chain

/-!
# Helpdesk.Proofs.Condition.Phrase — what stands next to what in a script.

Symbols that end an operand are followed by symbols that do not begin one, and the other way round
(`Alternate`): no word stands after a word, and neither an exclamation mark nor a comparison is
followed by anything that begins with an equals sign. The names of a script are words of letters,
digits and underscores that mean nothing else (`PlainName`).
-/
namespace Helpdesk.Condition

open Text (isWordChar)

/-! ## Symbols in a row -/

namespace Sym

/-- Whether an operand can begin with a symbol. -/
def begins : Sym → Bool
  | .word _ | .negation | .opening => true
  | _ => false

/-- Whether an operand can end with a symbol. -/
def ends : Sym → Bool
  | .word _ | .closing => true
  | _ => false

/-- A symbol that may stand before another one. -/
def Alternate (a b : Sym) : Prop :=
  a.ends = !b.begins

end Sym

/-- A row of symbols that begins and ends as an operand does. -/
structure Phrase (ss : List Sym) : Prop where
  first : ∃ s ∈ ss.head?, s.begins = true
  last : ∃ s ∈ ss.getLast?, s.ends = true
  chain : ss.IsChain Sym.Alternate

namespace Phrase

variable {ss ts : List Sym} {s : Sym}

theorem word (w : String) : Phrase [.word w] :=
  ⟨⟨.word w, rfl, rfl⟩, ⟨.word w, rfl, rfl⟩, .singleton _⟩

/-- A symbol that begins an operand and does not end it may stand before a phrase. -/
theorem cons (h : Phrase ss) (hbegins : s.begins = true) (hends : s.ends = false) :
    Phrase (s :: ss) := by
  obtain ⟨⟨first, hfirst, hfirstBegins⟩, ⟨last, hlast, hlastEnds⟩, hchain⟩ := h
  refine ⟨⟨s, rfl, hbegins⟩, ⟨last, ?_, hlastEnds⟩, ?_⟩
  · cases ss with
    | nil => cases hlast
    | cons t ss => exact hlast
  · refine List.isChain_cons.mpr ⟨?_, hchain⟩
    intro t ht
    cases hfirst.symm.trans ht
    rw [Sym.Alternate, hends, hfirstBegins]
    rfl

/-- An operator joins two phrases. -/
theorem join (hs : Phrase ss) (ht : Phrase ts) (hbegins : s.begins = false)
    (hends : s.ends = false) : Phrase (ss ++ s :: ts) := by
  obtain ⟨⟨first, hfirst, hfirstBegins⟩, ⟨last, hlast, hlastEnds⟩, hchain⟩ := hs
  obtain ⟨⟨second, hsecond, hsecondBegins⟩, ⟨end_, hend, hendEnds⟩, htail⟩ := ht
  refine ⟨⟨first, ?_, hfirstBegins⟩, ⟨end_, ?_, hendEnds⟩, ?_⟩
  · cases ss with
    | nil => cases hfirst
    | cons t ss => exact hfirst
  · cases ts with
    | nil => cases hend
    | cons t ts =>
      rw [List.getLast?_append, List.getLast?_cons_cons, show (t :: ts).getLast? = some end_ from hend]
      rfl
  · refine List.isChain_append.mpr ⟨hchain, List.isChain_cons.mpr ⟨?_, htail⟩, ?_⟩
    · intro t ht
      cases hsecond.symm.trans ht
      rw [Sym.Alternate, hends, hsecondBegins]
      rfl
    · intro a ha b hb
      cases hlast.symm.trans ha
      cases hb
      rw [Sym.Alternate, hlastEnds, hbegins]
      rfl

/-- Parentheses make a phrase of a phrase. -/
theorem group (h : Phrase ss) : Phrase (.opening :: (ss ++ [.closing])) := by
  refine cons ?_ rfl rfl
  obtain ⟨⟨first, hfirst, hfirstBegins⟩, ⟨last, hlast, hlastEnds⟩, hchain⟩ := h
  refine ⟨⟨first, ?_, hfirstBegins⟩, ⟨.closing, ?_, rfl⟩, ?_⟩
  · cases ss with
    | nil => cases hfirst
    | cons t ss => exact hfirst
  · rw [List.getLast?_concat]
    rfl
  · refine List.isChain_append.mpr ⟨hchain, .singleton _, ?_⟩
    intro a ha b hb
    cases hlast.symm.trans ha
    cases hb
    exact hlastEnds

theorem negations (h : Phrase ss) (marks : Nat) :
    Phrase (List.replicate marks .negation ++ ss) := by
  induction marks with
  | zero => exact h
  | succ marks ih => exact ih.cons rfl rfl

end Phrase

theorem Script.phrase {l : Level} (s : Script l) : Phrase s.syms := by
  induction s with
  | name w => exact .word w
  | truth b => exact .word _
  | group e ih => exact ih.group
  | negated marks e ih => exact ih.negations marks
  | compared l differ marks r ihl ihr =>
    cases differ
    · exact ihl.join (ihr.negations marks) rfl rfl
    · exact ihl.join (ihr.negations marks) rfl rfl
  | equality e ih => exact ih
  | both l r ihl ihr => exact ihl.join ihr rfl rfl
  | conjunction e ih => exact ih
  | either l r ihl ihr => exact ihl.join ihr rfl rfl

/-! ## Gaps and words -/

/-- Whether a character ends a line. -/
def isLineEnd (c : Char) : Bool :=
  c == '\n' || c == '\r'

/-- Whether a character can stand between symbols. -/
def isGap (c : Char) : Bool :=
  isSeparator c || isLineEnd c

theorem separator_cases {c : Char} (h : isSeparator c = true) : c = ' ' ∨ c = '\t' ∨ c = '\x0c' := by
  simp only [isSeparator, Bool.or_eq_true, beq_iff_eq] at h
  rcases h with (rfl | rfl) | hfeed
  · exact Or.inl rfl
  · exact Or.inr (Or.inl rfl)
  · exact Or.inr (Or.inr (Char.toNat_inj.mp hfeed))

theorem lineEnd_cases {c : Char} (h : isLineEnd c = true) : c = '\n' ∨ c = '\r' := by
  simpa [isLineEnd] using h

theorem gap_cases {c : Char} (h : isGap c = true) :
    (c = ' ' ∨ c = '\t' ∨ c = '\x0c') ∨ c = '\n' ∨ c = '\r' :=
  (Bool.or_eq_true ..).mp h |>.imp separator_cases lineEnd_cases

theorem isWordChar_gap {c : Char} (h : isGap c = true) : isWordChar c = false := by
  rcases gap_cases h with (rfl | rfl | rfl) | rfl | rfl <;> decide

/-- Whether a text is one word. -/
def isWord (cs : List Char) : Bool :=
  !cs.isEmpty && cs.all isWordChar

theorem isWord_iff {cs : List Char} :
    isWord cs = true ↔ cs ≠ [] ∧ ∀ c ∈ cs, isWordChar c = true := by
  simp [isWord]

/-- Words hold none of the characters that operators are made of. -/
theorem notMem_of_isWord {cs : List Char} (h : isWord cs = true) {a : Char}
    (ha : isWordChar a = false) : a ∉ cs := by
  intro hmem
  have := (isWord_iff.mp h).2 a hmem
  rw [ha] at this
  cases this

/-- A name that is no keyword, is written with letters, digits and underscores, and has no other
spelling. -/
structure PlainName (w : String) : Prop where
  isName : Text.isName w.toList = true
  wordy : ∀ c ∈ w.toList, isWordChar c = true
  unreserved : w ∉ Parser.keywords ∧ w ∉ ["true", "false", "null", "undefined"]
  settled : Text.compatible w = w

/-- A symbol that scripts with plain names are made of. -/
def Sym.Known : Sym → Prop
  | .word w => PlainName w ∨ w = "true" ∨ w = "false"
  | _ => True

/-- A word of a script is one word, and it does not stand for nothing. -/
theorem Sym.Known.word {w : String} (h : (Sym.word w).Known) :
    isWord w.toList = true ∧ w ∉ ["null", "undefined"] := by
  rcases h with hname | rfl | rfl
  · refine ⟨isWord_iff.mpr ⟨?_, hname.wordy⟩, ?_⟩
    · intro hnil
      have := hname.isName
      rw [hnil] at this
      cases this
    · intro hmem
      apply hname.unreserved.2
      simp only [List.mem_cons, List.not_mem_nil, or_false] at hmem ⊢
      rcases hmem with rfl | rfl
      · exact Or.inr (Or.inr (Or.inl rfl))
      · exact Or.inr (Or.inr (Or.inr rfl))
  · exact ⟨by decide, by decide⟩
  · exact ⟨by decide, by decide⟩

theorem Script.known {l : Level} (s : Script l) (h : ∀ w ∈ s.names, PlainName w) :
    ∀ a ∈ s.syms, a.Known := by
  have hmarks : ∀ marks : Nat, ∀ a ∈ List.replicate marks Sym.negation, a.Known := by
    intro marks a ha
    rw [List.eq_of_mem_replicate ha]
    trivial
  induction s with
  | name w => exact List.forall_mem_singleton.mpr (Or.inl (h w (List.mem_singleton_self w)))
  | truth b =>
    refine List.forall_mem_singleton.mpr ?_
    cases b
    · exact Or.inr (Or.inr rfl)
    · exact Or.inr (Or.inl rfl)
  | group e ih =>
    refine List.forall_mem_cons.mpr ⟨trivial, ?_⟩
    exact List.forall_mem_append.mpr ⟨ih h, List.forall_mem_singleton.mpr trivial⟩
  | negated marks e ih => exact List.forall_mem_append.mpr ⟨hmarks marks, ih h⟩
  | compared l differ marks r ihl ihr =>
    obtain ⟨hl, hr⟩ := List.forall_mem_append.mp h
    refine List.forall_mem_append.mpr ⟨ihl hl, List.forall_mem_cons.mpr ⟨?_, ?_⟩⟩
    · cases differ <;> trivial
    · exact List.forall_mem_append.mpr ⟨hmarks marks, ihr hr⟩
  | equality e ih => exact ih h
  | both l r ihl ihr =>
    obtain ⟨hl, hr⟩ := List.forall_mem_append.mp h
    exact List.forall_mem_append.mpr ⟨ihl hl, List.forall_mem_cons.mpr ⟨trivial, ihr hr⟩⟩
  | conjunction e ih => exact ih h
  | either l r ihl ihr =>
    obtain ⟨hl, hr⟩ := List.forall_mem_append.mp h
    exact List.forall_mem_append.mpr ⟨ihl hl, List.forall_mem_cons.mpr ⟨trivial, ihr hr⟩⟩

end Helpdesk.Condition
