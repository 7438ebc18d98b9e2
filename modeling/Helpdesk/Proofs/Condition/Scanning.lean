import Helpdesk.Proofs.Condition.Writing

/-!
# Helpdesk.Proofs.Condition.Scanning — the tokens of a written script.

What the scanner does with the rest of a text depends on the brackets that are open, and on hardly
anything else: `Scans` relates open brackets and a text to its tokens, and `Scans.scan_eq` says that
the scanner finds them. A script in the spelling of the condition language has one token for each of its
symbols, because each symbol is followed by something that does not go on with it.
-/
namespace Helpdesk.Condition

open Text (isWordChar)

/-- What the scanner takes a symbol of the condition language for. -/
def Sym.token : Sym → Token
  | .word w => .word (Spelling.plainWord w)
  | .negation => .word "not"
  | .same => .symbol "=="
  | .differ => .symbol "!="
  | .both => .word "and"
  | .either => .word "or"
  | .opening => .symbol "("
  | .closing => .symbol ")"

/-! ## Scanning -/

/-- A character that begins a token and nothing else. -/
def isSolid (c : Char) : Bool :=
  !isSeparator c && !isLineEnd c && c != '#' && c != '\\'

/-- So many brackets open, a text has these tokens. -/
inductive Scans : List Char → List Char → List Token → Prop
  | done : Scans [] [] []
  | separator {brackets cs : List Char} {tokens : List Token} {c : Char} (hc : isSeparator c = true)
      (h : Scans brackets cs tokens) : Scans brackets (c :: cs) tokens
  | lineEnd {bracket : Char} {brackets cs : List Char} {tokens : List Token} {c : Char}
      (hc : isLineEnd c = true) (h : Scans (bracket :: brackets) cs tokens) :
      Scans (bracket :: brackets) (c :: cs) tokens
  | token {brackets after cs rest : List Char} {t : Token} {tokens : List Token} {c : Char}
      (hc : isSolid c = true) (hends : '\r' ∉ cs)
      (hread : readToken (c :: (cs ++ unifyLineEnds rest)) = some (t, unifyLineEnds rest))
      (hbrackets : bracketsAfter brackets t = some after) (h : Scans after rest tokens) :
      Scans brackets (c :: (cs ++ rest)) (t :: tokens)

theorem unifyLineEnds_cons {c : Char} (hc : c ≠ '\r') (cs : List Char) :
    unifyLineEnds (c :: cs) = c :: unifyLineEnds cs := by
  rw [unifyLineEnds]
  · rintro _ rfl
    exact absurd rfl hc
  · exact hc

theorem unifyLineEnds_append {cs : List Char} (h : '\r' ∉ cs) (rest : List Char) :
    unifyLineEnds (cs ++ rest) = cs ++ unifyLineEnds rest := by
  induction cs with
  | nil => rfl
  | cons c cs ih =>
    rw [List.mem_cons, not_or] at h
    rw [List.cons_append, unifyLineEnds_cons (Ne.symm h.1), ih h.2]
    rfl

/-- A carriage return takes a line feed after it along. -/
theorem unifyLineEnds_return (cs : List Char) : unifyLineEnds ('\r' :: cs) =
    '\n' :: unifyLineEnds (if cs.head? = some '\n' then cs.tail else cs) := by
  split
  · rename_i hfeed
    obtain ⟨rest, rfl⟩ := List.head?_eq_some_iff.mp hfeed
    rw [unifyLineEnds]
    rfl
  · rename_i hfeed
    rw [unifyLineEnds]
    rintro rest rfl
    exact hfeed rfl

/-- A line end is one line feed more, unless it is the first half of one. -/
theorem unifyLineEnds_of_isLineEnd {c : Char} (hc : isLineEnd c = true) (cs : List Char) :
    unifyLineEnds (c :: cs) = '\n' :: unifyLineEnds cs ∨
      unifyLineEnds (c :: cs) = unifyLineEnds cs := by
  rcases lineEnd_cases hc with rfl | rfl
  · exact Or.inl (unifyLineEnds_cons (by decide) cs)
  · rw [unifyLineEnds_return]
    split
    · rename_i hfeed
      obtain ⟨rest, rfl⟩ := List.head?_eq_some_iff.mp hfeed
      exact Or.inr (unifyLineEnds_cons (by decide) rest).symm
    · exact Or.inl rfl

theorem length_unifyLineEnds_le (cs : List Char) : (unifyLineEnds cs).length ≤ cs.length := by
  fun_induction unifyLineEnds cs with
  | case1 => exact Nat.le_refl _
  | case2 rest ih => exact Nat.succ_le_succ (Nat.le_succ_of_le ih)
  | case3 rest _ ih => exact Nat.succ_le_succ ih
  | case4 c rest _ _ ih => exact Nat.succ_le_succ ih

/-- The scanner stands in a line, or brackets are open, so that it makes no difference. -/
def Inside (place : Place) (brackets : List Char) : Prop :=
  place = .inLine ∨ brackets ≠ []

theorem scan_of_separator {fuel : Nat} {place : Place} {brackets cs : List Char} {c : Char}
    (hc : isSeparator c = true) (hplace : Inside place brackets) :
    ∃ next, Inside next brackets ∧
      scan (fuel + 1) place false brackets (c :: cs) = scan fuel next false brackets cs := by
  cases place with
  | inLine =>
    refine ⟨.inLine, Or.inl rfl, ?_⟩
    show (if isSeparator c = true then _ else _) = _
    exact if_pos hc
  | lineStart columns =>
    refine ⟨.lineStart (if c.toNat = 12 then 0 else columns + 1), Or.inr ?_, ?_⟩
    · exact hplace.resolve_left (by simp)
    · show (if isSeparator c = true then _ else _) = _
      exact if_pos hc

theorem scan_of_lineFeed {fuel : Nat} {place : Place} {brackets cs : List Char}
    (hopen : brackets ≠ []) : scan (fuel + 1) place false brackets ('\n' :: cs) =
      scan fuel (.lineStart 0) false brackets cs := by
  show scan fuel (.lineStart 0) (false || !(decide (place ≠ .inLine) || !brackets.isEmpty)) brackets
    cs = _
  have hsome : brackets.isEmpty = false := by simpa using hopen
  rw [hsome, Bool.not_false, Bool.or_true, Bool.not_true, Bool.or_false]

theorem scan_of_solid {fuel : Nat} {place : Place} {brackets after cs rest : List Char} {t : Token}
    {tokens : List Token} {c : Char} (hc : isSolid c = true)
    (hplace : Inside place brackets ∨ place = .lineStart 0)
    (hread : readToken (c :: cs) = some (t, rest)) (hbrackets : bracketsAfter brackets t = some after)
    (h : scan fuel .inLine false after rest = some tokens) :
    scan (fuel + 1) place false brackets (c :: cs) = some (t :: tokens) := by
  simp only [isSolid, isLineEnd, Bool.and_eq_true, Bool.not_eq_true', bne_iff_ne, ne_eq,
    Bool.or_eq_false_iff, beq_eq_false_iff_ne] at hc
  obtain ⟨⟨⟨hseparator, hlineFeed, _⟩, hcomment⟩, hjoin⟩ := hc
  -- The character is none of those that the scanner asks for before it reads a token.
  show (if isSeparator c = true then _ else if c = '#' then _ else if c = '\n' then _ else
    if c = '\\' then _ else _) = _
  rw [hseparator, if_neg (by decide), if_neg hcomment, if_neg hlineFeed, if_neg hjoin]
  cases place with
  | inLine => simp [hread, hbrackets, h]
  | lineStart columns =>
    have hindented : (brackets.isEmpty && decide (0 < columns)) = false := by
      rcases hplace with (hline | hopen) | hstart
      · cases hline
      · simp [hopen]
      · obtain rfl : columns = 0 := by simpa using hstart
        simp
    show (if (brackets.isEmpty && decide (0 < columns) || false) = true then none else _) = _
    rw [hindented]
    simp [hread, hbrackets, h]

/-- **The scanner finds the tokens** of a text. -/
theorem Scans.scan_eq {brackets cs : List Char} {tokens : List Token} (h : Scans brackets cs tokens)
    {fuel : Nat} (hfuel : (unifyLineEnds cs).length < fuel) {place : Place}
    (hplace : Inside place brackets) :
    scan fuel place false brackets (unifyLineEnds cs) = some tokens := by
  induction h generalizing fuel place with
  | done =>
    rcases fuel with _ | fuel
    · cases hfuel
    · rfl
  | @separator brackets cs tokens c hc _ ih =>
    have hsame : c ≠ '\r' := by
      rintro rfl
      exact absurd hc (by decide)
    rw [unifyLineEnds_cons hsame] at hfuel ⊢
    rcases fuel with _ | fuel
    · cases hfuel
    · obtain ⟨next, hnext, hscan⟩ := scan_of_separator hc hplace
      rw [hscan]
      exact ih (Nat.lt_of_succ_lt_succ hfuel) hnext
  | @lineEnd bracket brackets cs tokens c hc _ ih =>
    have hopen : bracket :: brackets ≠ [] := List.cons_ne_nil _ _
    rcases unifyLineEnds_of_isLineEnd hc cs with hunified | hunified
    · rw [hunified] at hfuel ⊢
      rcases fuel with _ | fuel
      · cases hfuel
      · rw [scan_of_lineFeed hopen]
        exact ih (Nat.lt_of_succ_lt_succ hfuel) (Or.inr hopen)
    · -- The first half of a line end is gone already, and costs no fuel.
      rw [hunified] at hfuel ⊢
      exact ih hfuel hplace
  | @token brackets after cs rest t tokens c hc hends hread hbrackets _ ih =>
    have hsame : c ≠ '\r' := by
      rintro rfl
      exact absurd hc (by decide)
    rw [unifyLineEnds_cons hsame, unifyLineEnds_append hends] at hfuel ⊢
    rcases fuel with _ | fuel
    · cases hfuel
    · apply scan_of_solid hc (Or.inl hplace) hread hbrackets
      apply ih
      · simp only [List.length_cons, List.length_append] at hfuel
        omega
      · exact Or.inl rfl

/-- Blanks before the first token make no difference outside brackets. -/
theorem Scans.of_append {lead cs : List Char} {tokens : List Token}
    (hlead : ∀ c ∈ lead, c = ' ') (h : Scans [] (lead ++ cs) tokens) : Scans [] cs tokens := by
  induction lead with
  | nil => exact h
  | cons c lead ih =>
    obtain ⟨hc, hrest⟩ := List.forall_mem_cons.mp hlead
    apply ih hrest
    generalize htext : c :: lead ++ cs = text at h
    cases h with
    | done => cases htext
    | separator _ h =>
      obtain ⟨_, rfl⟩ := List.cons.inj htext
      exact h
    | token hsolid =>
      obtain ⟨rfl, _⟩ := List.cons.inj htext
      rw [hc] at hsolid
      exact absurd hsolid (by decide)

/-- The tokens of a text that does not begin with a blank. -/
theorem Scans.tokens?_eq {cs : List Char} {tokens : List Token} (h : Scans [] cs tokens)
    (hfirst : ∀ c ∈ cs.head?, isSeparator c = false) : tokens? cs = some tokens := by
  cases h with
  | done => rfl
  | @separator _ cs _ c hc =>
    rw [hfirst c rfl] at hc
    cases hc
  | @token _ after cs rest t tokens c hc hends hread hbrackets h =>
    have hsame : c ≠ '\r' := by
      rintro rfl
      exact absurd hc (by decide)
    have hshort := length_unifyLineEnds_le rest
    show scan ((c :: (cs ++ rest)).length + 1) (.lineStart 0) false [] (unifyLineEnds _) = _
    rw [unifyLineEnds_cons hsame, unifyLineEnds_append hends]
    apply scan_of_solid hc (Or.inr rfl) hread hbrackets
    apply h.scan_eq
    · simp only [List.length_cons, List.length_append]
      omega
    · exact Or.inl rfl

/-! ## Tokens -/

theorem runsOn_of_isWordChar {c : Char} (h : isWordChar c = true) : runsOn c = true := by
  by_cases hwide : 128 ≤ c.toNat
  · simp [runsOn, hwide]
  · have hall : ∀ n < 128, isWordChar (Char.ofNat n) = true → runsOn (Char.ofNat n) = true := by
      decide +kernel
    rw [← Char.ofNat_toNat c] at h ⊢
    exact hall c.toNat (by omega) h

theorem not_isDigit_of_isName {c : Char} {cs : List Char} (h : Text.isName (c :: cs) = true) :
    c.isDigit = false := by
  have hall : ∀ n < 128, Text.nameStarts.has (Char.ofNat n) = true →
      (Char.ofNat n).isDigit = false := by decide +kernel
  rw [Text.isName, Bool.and_eq_true] at h
  by_cases hwide : 128 ≤ c.toNat
  · rw [← Bool.not_eq_true]
    intro hdigit
    have hle : c.toNat ≤ '9'.toNat := (Char.isDigit_iff_toNat.mp hdigit).2
    have hnine : '9'.toNat = 57 := rfl
    omega
  · rw [← Char.ofNat_toNat c] at h ⊢
    exact hall c.toNat (by omega) h.1

/-- No word goes on in a text, and no quotation begins there. -/
def Breaks (rest : List Char) : Prop :=
  ∀ c ∈ rest.head?, runsOn c = false ∧ c ≠ '"' ∧ c ≠ '\''

theorem Breaks.unifyLineEnds {rest : List Char} (h : Breaks rest) : Breaks (unifyLineEnds rest) := by
  rcases rest with _ | ⟨c, rest⟩
  · exact h
  · by_cases hreturn : c = '\r'
    · rw [hreturn, unifyLineEnds_return]
      intro d hd
      cases hd
      decide
    · rw [unifyLineEnds_cons hreturn]
      exact h

/-- A name is read as far as it goes. -/
theorem readToken_word {w rest : List Char} (hname : Text.isName w = true)
    (hwordy : ∀ c ∈ w, isWordChar c = true) (hrest : Breaks rest) :
    readToken (w ++ rest) = some (.word (String.ofList w), rest) := by
  obtain ⟨c, cs, rfl⟩ : ∃ c cs, w = c :: cs := by
    cases w with
    | nil => cases hname
    | cons c cs => exact ⟨c, cs, rfl⟩
  have hruns : ∀ d ∈ c :: cs, runsOn d = true := fun d hd => runsOn_of_isWordChar (hwordy d hd)
  have hc := hruns c List.mem_cons_self
  have hquote : ¬ (c = '\'' ∨ c = '"') := by
    rintro (rfl | rfl)
    · exact absurd hc (by decide)
    · exact absurd hc (by decide)
  have hpoint : (c == '.') = false := by
    rw [beq_eq_false_iff_ne]
    rintro rfl
    exact absurd hc (by decide)
  have htaken : (c :: cs ++ rest).takeWhile runsOn = c :: cs :=
    takeWhile_append_eq hruns fun d hd => (hrest d hd).1
  have hleft : (c :: cs ++ rest).drop (c :: cs).length = rest := List.drop_left
  have hread : readWord (c :: cs ++ rest) = some (.word (String.ofList (c :: cs)), rest) := by
    rw [readWord, htaken, hleft]
    rcases rest with _ | ⟨d, rest⟩
    · simp [hname]
    · obtain ⟨_, hdouble, hsingle⟩ := hrest d rfl
      simp [hname, hdouble, hsingle]
  show (if c = '\'' ∨ c = '"' then _ else if (c.isDigit || (c == '.' && _)) = true then _ else
    if runsOn c = true then readWord (c :: cs ++ rest) else _) = _
  rw [if_neg hquote, not_isDigit_of_isName hname, hpoint, Bool.false_and, Bool.or_self,
    if_neg (by decide), if_pos hc, hread]

/-- A word is one token. -/
theorem Scans.word {brackets rest : List Char} {tokens : List Token} {w : String}
    (hname : Text.isName w.toList = true) (hword : isWord w.toList = true) (hrest : Breaks rest)
    (h : Scans brackets rest tokens) : Scans brackets (w.toList ++ rest) (.word w :: tokens) := by
  obtain ⟨hne, hwordy⟩ := isWord_iff.mp hword
  obtain ⟨c, cs, hcons⟩ := List.exists_cons_of_ne_nil hne
  have hread := readToken_word hname hwordy hrest.unifyLineEnds
  have hends := notMem_of_isWord (a := '\r') hword (by decide)
  have hsolid : isSolid c = true := by
    have hc : isWordChar c = true := hwordy c (hcons ▸ List.mem_cons_self)
    have hgap : isGap c = false := by
      rw [← Bool.not_eq_true]
      intro hgap
      rw [isWordChar_gap hgap] at hc
      cases hc
    have hother : c ≠ '#' ∧ c ≠ '\\' := by
      constructor
      · rintro rfl
        exact absurd hc (by decide)
      · rintro rfl
        exact absurd hc (by decide)
    rw [isGap, Bool.or_eq_false_iff] at hgap
    simp [isSolid, hgap, hother]
  rw [String.ofList_toList, hcons] at hread
  rw [hcons] at hends ⊢
  exact .token hsolid (fun hmem => hends (List.mem_cons_of_mem c hmem)) hread rfl h

/-! ## Rows -/

/-- Parentheses are closed in the order of their opening, and never are too many of them open. -/
def Nested : Nat → List Sym → Prop
  | n, [] => n = 0
  | n, .opening :: ss => n < maxBrackets ∧ Nested (n + 1) ss
  | n, .closing :: ss => 0 < n ∧ Nested (n - 1) ss
  | n, _ :: ss => Nested n ss

theorem Nested.negations {n : Nat} {ss : List Sym} (h : Nested n ss) (marks : Nat) :
    Nested n (List.replicate marks .negation ++ ss) := by
  induction marks with
  | zero => exact h
  | succ marks ih => exact ih

/-- The parentheses of a script are closed where it ends. -/
theorem Script.nested {l : Level} (s : Script l) {n : Nat} (hn : n + s.brackets ≤ maxBrackets)
    {ss : List Sym} (h : Nested n ss) : Nested n (s.syms ++ ss) := by
  induction s generalizing n ss with
  | name w => exact h
  | truth b => exact h
  | group e ih =>
    have hdeep : n + (e.brackets + 1) ≤ maxBrackets := hn
    show n < maxBrackets ∧ Nested (n + 1) (e.syms ++ [.closing] ++ ss)
    rw [List.append_assoc]
    exact ⟨by omega, ih (by omega) ⟨by omega, h⟩⟩
  | negated marks e ih =>
    show Nested n (List.replicate marks .negation ++ e.syms ++ ss)
    rw [List.append_assoc]
    exact (ih hn h).negations marks
  | compared l differ marks r ihl ihr =>
    have hdeep : n + max l.brackets r.brackets ≤ maxBrackets := hn
    have hright := (ihr (by omega) h).negations marks
    show Nested n (l.syms ++ _ :: (List.replicate marks .negation ++ r.syms) ++ ss)
    rw [List.append_assoc, List.cons_append, List.append_assoc]
    apply ihl (by omega)
    cases differ
    · exact hright
    · exact hright
  | equality e ih => exact ih hn h
  | both l r ihl ihr =>
    have hdeep : n + max l.brackets r.brackets ≤ maxBrackets := hn
    show Nested n (l.syms ++ .both :: r.syms ++ ss)
    rw [List.append_assoc]
    exact ihl (by omega) (ihr (by omega) h)
  | conjunction e ih => exact ih hn h
  | either l r ihl ihr =>
    have hdeep : n + max l.brackets r.brackets ≤ maxBrackets := hn
    show Nested n (l.syms ++ .either :: r.syms ++ ss)
    rw [List.append_assoc]
    exact ihl (by omega) (ihr (by omega) h)

theorem plainWord_isName {w : String} (h : (Sym.word w).Known) :
    Text.isName (Spelling.plainWord w).toList = true := by
  rcases h with hname | rfl | rfl
  · rw [hname.plainWord_eq]
    exact hname.isName
  · decide +kernel
  · decide +kernel

/-- So many open parentheses. -/
def parentheses (n : Nat) : List Char :=
  List.replicate n '('

theorem Scans.gap {n : Nat} {gap cs : List Char} {tokens : List Token}
    (hgap : ∀ c ∈ gap, isSeparator c = true ∨ 0 < n ∧ isLineEnd c = true)
    (h : Scans (parentheses n) cs tokens) : Scans (parentheses n) (gap ++ cs) tokens := by
  induction gap with
  | nil => exact h
  | cons c gap ih =>
    obtain ⟨hc, hrest⟩ := List.forall_mem_cons.mp hgap
    rcases hc with hseparator | ⟨hopen, hend⟩
    · exact .separator hseparator (ih hrest)
    · obtain ⟨m, rfl⟩ := Nat.exists_eq_succ_of_ne_zero (Nat.ne_of_gt hopen)
      exact .lineEnd hend (ih hrest)

/-- A word operator is one token between separators. -/
theorem Scans.spaced {brackets rest : List Char} {tokens : List Token} {w : String}
    (hname : Text.isName w.toList = true) (hword : isWord w.toList = true)
    (h : Scans brackets rest tokens) :
    Scans brackets (' ' :: (w.toList ++ ' ' :: rest)) (.word w :: tokens) := by
  have hbreaks : Breaks (' ' :: rest) := by
    intro c hc
    cases hc
    decide
  exact .separator (by decide) (.word hname hword hbreaks (.separator (by decide) h))

/-- Nothing goes on with a symbol that ends an operand. -/
theorem Row.breaks {t : List Char × Sym} {row : List (List Char × Sym)} (h : Row (t :: row))
    (hends : t.2.ends = true) : Breaks (Spelling.plain.text row) := by
  have husual := Spelling.usual_plain
  intro c hc
  have hword : isWordChar c = false := by
    have hfollows := h.follows husual.apart c hc
    rwa [if_pos hends] at hfollows
  have hmem : c ∈ Spelling.plain.text row := List.mem_of_mem_head? hc
  rcases husual.mem_text h.tail.gaps h.tail.known c hmem with hgap | hnot | hmark
  · rcases gap_cases hgap with (rfl | rfl | rfl) | rfl | rfl <;> decide
  · rw [hword] at hnot
    cases hnot
  · simp only [marks, List.mem_cons, List.not_mem_nil, or_false] at hmark
    rcases hmark with rfl | rfl | rfl | rfl | rfl | rfl <;> decide

/-- **Each symbol of a row is one token**. -/
theorem scans_text {row : List (List Char × Sym)} {n : Nat} (hrow : Row row) (hgaps : Gapped n row)
    (hnested : Nested n (row.map Prod.snd)) :
    Scans (parentheses n) (Spelling.plain.text row) (row.map fun t => t.2.token) := by
  induction row generalizing n with
  | nil =>
    obtain rfl : n = 0 := hnested
    exact .done
  | cons t row ih =>
    obtain ⟨gap, s⟩ := t
    obtain ⟨hgap, hrest⟩ := hgaps
    have htext : Spelling.plain.text ((gap, s) :: row) =
        gap ++ (Spelling.plain.of s ++ Spelling.plain.text row) := List.append_assoc ..
    rw [htext]
    apply Scans.gap hgap
    cases s with
    | word w =>
      have hknown : (Sym.word w).Known := hrow.known _ List.mem_cons_self
      apply Scans.word (plainWord_isName hknown) (Spelling.usual_plain.word w hknown) (hrow.breaks rfl)
      exact ih hrow.tail hrest hnested
    | negation =>
      show Scans _ (" not ".toList ++ _) _
      rw [show " not ".toList = ' ' :: ("not".toList ++ [' ']) by decide]
      exact .spaced (w := "not") (by decide +kernel) (by decide) (ih hrow.tail hrest hnested)
    | both =>
      show Scans _ (" and ".toList ++ _) _
      rw [show " and ".toList = ' ' :: ("and".toList ++ [' ']) by decide]
      exact .spaced (w := "and") (by decide +kernel) (by decide) (ih hrow.tail hrest hnested)
    | either =>
      show Scans _ (" or ".toList ++ _) _
      rw [show " or ".toList = ' ' :: ("or".toList ++ [' ']) by decide]
      exact .spaced (w := "or") (by decide +kernel) (by decide) (ih hrow.tail hrest hnested)
    | same =>
      show Scans _ ('=' :: (['='] ++ _)) _
      exact .token (by decide) (by decide) rfl rfl (ih hrow.tail hrest hnested)
    | differ =>
      show Scans _ ('!' :: (['='] ++ _)) _
      exact .token (by decide) (by decide) rfl rfl (ih hrow.tail hrest hnested)
    | opening =>
      obtain ⟨hfew, hnested⟩ := hnested
      -- One more may be open, since the whole row is not nested deeper than that.
      have hbrackets : bracketsAfter (parentheses n) (.symbol "(") = some (parentheses (n + 1)) := by
        show (if maxBrackets ≤ (parentheses n).length then none else some (parentheses (n + 1))) = _
        rw [parentheses, List.length_replicate, if_neg (Nat.not_le_of_lt hfew)]
      show Scans _ ('(' :: ([] ++ _)) _
      exact .token (by decide) (by decide) rfl hbrackets (ih hrow.tail hrest hnested)
    | closing =>
      obtain ⟨hopen, hnested⟩ := hnested
      obtain ⟨m, rfl⟩ := Nat.exists_eq_succ_of_ne_zero (Nat.ne_of_gt hopen)
      show Scans _ (')' :: ([] ++ _)) _
      exact .token (by decide) (by decide) rfl rfl (ih hrow.tail hrest hnested)

/-! ## Written scripts -/

/-- A token takes up a character or more. -/
theorem Scans.length_le {brackets cs : List Char} {tokens : List Token}
    (h : Scans brackets cs tokens) : tokens.length ≤ cs.length := by
  induction h with
  | done => exact Nat.le_refl _
  | separator _ _ ih => exact Nat.le_succ_of_le ih
  | lineEnd _ _ ih => exact Nat.le_succ_of_le ih
  | token _ _ _ _ _ ih =>
    simp only [List.length_cons, List.length_append]
    omega

namespace Writing

variable {w : Writing} {s : Script .disjunction}

/-- **The tokens of a written script** are its symbols. -/
theorem Of.scans (h : w.Of s) (hnames : ∀ id ∈ s.names, PlainName id)
    (hbrackets : s.brackets ≤ maxBrackets) :
    Scans [] (rewrite w.text).toList (s.syms.map Sym.token) := by
  obtain ⟨lead, hlead, htext, -⟩ := h.rewrite_text hnames
  have hnested : Nested 0 (w.row.map Prod.snd) := by
    have hclosed : Nested 0 (s.syms ++ []) := s.nested (by omega) rfl
    rwa [List.append_nil, ← h.symbols] at hclosed
  have hscans := scans_text (h.isRow hnames) h.gaps hnested
  rw [htext] at hscans
  rw [← h.symbols, List.map_map]
  exact hscans.of_append hlead

theorem Of.tokens?_eq (h : w.Of s) (hnames : ∀ id ∈ s.names, PlainName id)
    (hbrackets : s.brackets ≤ maxBrackets) :
    tokens? (rewrite w.text).toList = some (s.syms.map Sym.token) := by
  obtain ⟨-, -, -, c, hc, hkind⟩ := h.rewrite_text hnames
  apply (h.scans hnames hbrackets).tokens?_eq
  intro d hd
  cases hc.symm.trans hd
  rw [← Bool.not_eq_true]
  intro hseparator
  have hblank := not_isBlank_of_mem hkind
  rcases separator_cases hseparator with rfl | rfl | rfl <;> exact absurd hblank (by decide)

theorem Of.null_notMem (h : w.Of s) (hnames : ∀ id ∈ s.names, PlainName id) :
    '\x00' ∉ (rewrite w.text).toList := by
  have hrow := h.isRow hnames
  obtain ⟨lead, -, htext, -⟩ := h.rewrite_text hnames
  intro hmem
  have hplain : '\x00' ∈ Spelling.plain.text w.row := htext ▸ List.mem_append_right lead hmem
  rcases Spelling.usual_plain.mem_text hrow.gaps hrow.known _ hplain with hc | hc | hc
  · exact absurd hc (by decide)
  · exact absurd hc (by decide)
  · exact absurd hc (by decide)

end Writing

end Helpdesk.Condition
