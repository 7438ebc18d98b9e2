import Helpdesk.Proofs.Condition.Scanning

/-!
# Helpdesk.Proofs.Condition.Descent — the descent reads a script as its tree.

Each level of the descent asks only for the next token before it goes on, goes down or stops. So
what it does with the symbols of a script is settled by what they begin with and by what stands
after them: `Reads` says that a step takes up some symbols and leaves whatever may follow them, and
for each level there is a lemma that makes it from the level below. Connectives are read by a loop,
whose state after so many operands is what a `Chain` describes.
-/
namespace Helpdesk.Condition

/-! ## Steps -/

namespace Parser

variable {α β : Type} {tokens rest : List Token}

theorem run_bind {p : Parser α} {f : α → Parser β} {a : α} (h : p.run tokens = some (a, rest)) :
    (p >>= f).run tokens = (f a).run rest := by
  rw [StateT.run_bind, h]
  rfl

section Acceptance

variable {s : String}

theorem atWord_of_ne (h : tokens.head? ≠ some (.word s)) :
    (atWord s).run tokens = some (false, tokens) := by
  rcases tokens with _ | ⟨t, tokens⟩
  · rfl
  · cases t with
    | word w =>
      have hne : (w == s) = false := by
        rw [beq_eq_false_iff_ne]
        rintro rfl
        exact h rfl
      show some (w == s, _) = _
      rw [hne]
    | _ => rfl

theorem acceptWord_of_ne (h : tokens.head? ≠ some (.word s)) :
    (acceptWord s).run tokens = some (false, tokens) := by
  rw [acceptWord, run_bind (atWord_of_ne h)]
  rfl

theorem acceptWord_self : (acceptWord s).run (.word s :: rest) = some (true, rest) := by
  have hat : (atWord s).run (.word s :: rest) = some (true, .word s :: rest) := by
    show some (s == s, _) = _
    rw [beq_self_eq_true]
  rw [acceptWord, run_bind hat]
  rfl

theorem acceptSymbol_of_ne (h : tokens.head? ≠ some (.symbol s)) :
    (acceptSymbol s).run tokens = some (false, tokens) := by
  have hat : (atSymbol s).run tokens = some (false, tokens) := by
    rcases tokens with _ | ⟨t, tokens⟩
    · rfl
    · cases t with
      | symbol t =>
        have hne : (t == s) = false := by
          rw [beq_eq_false_iff_ne]
          rintro rfl
          exact h rfl
        show some (t == s, _) = _
        rw [hne]
      | _ => rfl
  rw [acceptSymbol, run_bind hat]
  rfl

/-- What is done when a word does not come next. -/
theorem acceptWord_else {p q : Parser β} (h : tokens.head? ≠ some (.word s)) :
    (acceptWord s >>= fun isNext => if isNext = true then p else q).run tokens = q.run tokens := by
  rw [run_bind (acceptWord_of_ne h)]
  rfl

/-- What is done when a word comes next. -/
theorem acceptWord_then {p q : Parser β} :
    (acceptWord s >>= fun isNext => if isNext = true then p else q).run (.word s :: rest) =
      p.run rest := by
  rw [run_bind acceptWord_self]
  rfl

/-- What is done when a symbol does not come next. -/
theorem acceptSymbol_else {p q : Parser β} (h : tokens.head? ≠ some (.symbol s)) :
    (acceptSymbol s >>= fun isNext => if isNext = true then p else q).run tokens =
      q.run tokens := by
  rw [run_bind (acceptSymbol_of_ne h)]
  rfl

/-- No name with a symbol after it comes next where the symbol does not occur. -/
theorem atNameThen_of_ne (h : ∀ t ∈ tokens, t ≠ .symbol s) :
    (atNameThen s).run tokens = some (false, tokens) := by
  rcases tokens with _ | ⟨first, _ | ⟨second, tokens⟩⟩
  · rfl
  · cases first <;> rfl
  · cases first with
    | word w =>
      cases second with
      | symbol t =>
        have hne : (t == s) = false := by
          rw [beq_eq_false_iff_ne]
          rintro rfl
          exact h (.symbol t) (List.mem_cons_of_mem _ List.mem_cons_self) rfl
        show some (!keywords.contains w && t == s, _) = _
        rw [hne, Bool.and_false]
      | _ => rfl
    | _ => rfl

end Acceptance

theorem peek_run (tokens : List Token) : peek.run tokens = some (tokens.head?, tokens) := rfl

theorem acceptOperator_of_lookup {level : Nat} {t : String} (h : (operators level).lookup t = none) :
    (acceptOperator level).run (.symbol t :: rest) = some (none, .symbol t :: rest) := by
  rw [acceptOperator, run_bind (peek_run _)]
  simp only [List.head?_cons, h]
  rfl

theorem iterateUpTo_of_none {step : α → Parser (Option α)} {a : α}
    (h : (step a).run tokens = some (none, tokens)) (n : Nat) :
    (iterateUpTo step n a).run tokens = some (a, tokens) := by
  cases n with
  | zero => rfl
  | succ n =>
    rw [iterateUpTo, run_bind h]
    rfl

theorem iterateUpTo_of_some {step : α → Parser (Option α)} {a b : α}
    (h : (step a).run tokens = some (some b, rest)) (n : Nat) :
    (iterateUpTo step (n + 1) a).run tokens = (iterateUpTo step n b).run rest := by
  rw [iterateUpTo, run_bind h]

theorem iterate_run (step : α → Parser (Option α)) (a : α) (tokens : List Token) :
    (iterate step a).run tokens = (iterateUpTo step (tokens.length + 1) a).run tokens := rfl

theorem iterate_once {step : α → Parser (Option α)} {a b : α}
    (hfirst : (step a).run tokens = some (some b, rest))
    (hsecond : (step b).run rest = some (none, rest)) :
    (iterate step a).run tokens = some (b, rest) := by
  rw [iterate_run, iterateUpTo_of_some hfirst, iterateUpTo_of_none hsecond]

theorem iterate_of_none {step : α → Parser (Option α)} {a : α}
    (h : (step a).run tokens = some (none, tokens)) :
    (iterate step a).run tokens = some (a, tokens) :=
  iterateUpTo_of_none h _

end Parser

open Helpdesk.Condition.Parser

/-! ## What stands before and after -/

/-- The symbols that may stand after a script of a level. -/
def Level.admits : Level → Sym → Bool
  | .primary, s => !s.begins
  | .equality, .both | .equality, .either | .equality, .closing => true
  | .conjunction, .either | .conjunction, .closing => true
  | .disjunction, .closing => true
  | _, _ => false

/-- What stands here may stand after a script of a level. -/
def Stops (l : Level) (rest : List Sym) : Prop :=
  ∀ s ∈ rest.head?, l.admits s = true

section Stops

variable {l : Level} {rest : List Sym}

theorem Stops.primary (h : Stops l rest) : Stops .primary rest := by
  intro s hs
  have := h s hs
  cases l <;> cases s <;> first | rfl | cases this

theorem Stops.equality (h : Stops .conjunction rest) : Stops .equality rest := by
  intro s hs
  have := h s hs
  cases s <;> first | rfl | cases this

theorem Stops.conjunction (h : Stops .disjunction rest) : Stops .conjunction rest := by
  intro s hs
  have := h s hs
  cases s <;> first | rfl | cases this

theorem stops_nil : Stops l [] := by
  intro s hs
  cases hs

theorem stops_cons {s : Sym} (h : l.admits s = true) : Stops l (s :: rest) := by
  intro t ht
  cases ht
  exact h

theorem Stops.append {ss : List Sym} (h : Stops l ss) (hrest : Stops l rest) :
    Stops l (ss ++ rest) := by
  cases ss with
  | nil => exact hrest
  | cons s ss => exact stops_cons (h s rfl)

/-- A token at the front is the token of the first symbol. -/
theorem exists_of_head? {ss : List Sym} {t : Token} (h : (ss.map Sym.token).head? = some t) :
    ∃ s ∈ ss.head?, s.token = t := by
  rw [List.head?_map] at h
  exact Option.map_eq_some_iff.mp h

theorem Stops.head?_ne_word (h : Stops .primary rest) {w : String} (hw : w ∉ ["and", "or"]) :
    (rest.map Sym.token).head? ≠ some (.word w) := by
  intro hhead
  obtain ⟨s, hs, htoken⟩ := exists_of_head? hhead
  have hadmitted := h s hs
  cases s with
  | both =>
    cases htoken
    exact hw (by decide)
  | either =>
    cases htoken
    exact hw (by decide)
  | word w => cases hadmitted
  | negation => cases hadmitted
  | _ => cases htoken

theorem Stops.head?_ne_symbol (h : Stops .primary rest) {t : String} (ht : t ∉ ["==", "!=", ")"]) :
    (rest.map Sym.token).head? ≠ some (.symbol t) := by
  intro hhead
  obtain ⟨s, hs, htoken⟩ := exists_of_head? hhead
  have hadmitted := h s hs
  cases s with
  | same =>
    cases htoken
    exact ht (by decide)
  | differ =>
    cases htoken
    exact ht (by decide)
  | closing =>
    cases htoken
    exact ht (by decide)
  | opening => cases hadmitted
  | _ => cases htoken

theorem Stops.head?_ne_and (h : Stops .conjunction rest) :
    (rest.map Sym.token).head? ≠ some (.word "and") := by
  intro hhead
  obtain ⟨s, hs, htoken⟩ := exists_of_head? hhead
  have hadmitted := h s hs
  cases s with
  | either => exact absurd (Token.word.inj htoken) (by decide)
  | closing => cases htoken
  | _ => cases hadmitted

theorem Stops.head?_ne_or (h : Stops .disjunction rest) :
    (rest.map Sym.token).head? ≠ some (.word "or") := by
  intro hhead
  obtain ⟨s, hs, htoken⟩ := exists_of_head? hhead
  have hadmitted := h s hs
  cases s with
  | closing => cases htoken
  | _ => cases hadmitted

end Stops

/-- Symbols that begin as an operand does. -/
def Opens (ss : List Sym) : Prop :=
  ∃ s ∈ ss.head?, s.begins = true ∧ s.Known

section Opens

variable {ss rest : List Sym}

/-- The token that an operand begins with. -/
theorem Opens.head?_cases (h : Opens ss) {t : Token}
    (hhead : ((ss ++ rest).map Sym.token).head? = some t) :
    (∃ w, PlainName w ∧ t = .word w) ∨ t = .word "True" ∨ t = .word "False" ∨
      ss.head? = some .negation ∧ t = .word "not" ∨ t = .symbol "(" := by
  obtain ⟨s, hs, hbegins, hknown⟩ := h
  obtain ⟨first, hfirst, rfl⟩ := exists_of_head? hhead
  rw [List.head?_append, show ss.head? = some s from hs] at hfirst
  cases hfirst
  cases s with
  | word w =>
    rcases hknown with hname | rfl | rfl
    · exact Or.inl ⟨w, hname, congrArg Token.word hname.plainWord_eq⟩
    · exact Or.inr (Or.inl rfl)
    · exact Or.inr (Or.inr (Or.inl rfl))
  | negation => exact Or.inr (Or.inr (Or.inr (Or.inl ⟨hs, rfl⟩)))
  | opening => exact Or.inr (Or.inr (Or.inr (Or.inr rfl)))
  | _ => cases hbegins

/-- An operand begins with no keyword but a constant or a negation. -/
theorem Opens.head?_ne_word (h : Opens ss) {w : String} (hw : w ∈ keywords)
    (hother : w ∉ ["True", "False", "not"]) :
    ((ss ++ rest).map Sym.token).head? ≠ some (.word w) := by
  intro hhead
  rcases h.head?_cases hhead with ⟨v, hname, hv⟩ | hv | hv | ⟨_, hv⟩ | hv
  · cases hv
    exact hname.unreserved.1 hw
  · cases hv
    exact hother (by decide)
  · cases hv
    exact hother (by decide)
  · cases hv
    exact hother (by decide)
  · cases hv

theorem Opens.head?_ne_symbol (h : Opens ss) {t : String} (ht : t ≠ "(") :
    ((ss ++ rest).map Sym.token).head? ≠ some (.symbol t) := by
  intro hhead
  rcases h.head?_cases hhead with ⟨_, _, hv⟩ | hv | hv | ⟨_, hv⟩ | hv
  · cases hv
  · cases hv
  · cases hv
  · cases hv
  · exact ht (Token.symbol.inj hv)

/-- What is no negation does not begin with the word for one. -/
theorem Opens.head?_ne_not (h : Opens ss) (hnot : ss.head? ≠ some .negation) :
    ((ss ++ rest).map Sym.token).head? ≠ some (.word "not") := by
  intro hhead
  rcases h.head?_cases hhead with ⟨v, hname, hv⟩ | hv | hv | ⟨hnegation, _⟩ | hv
  · cases hv
    exact hname.unreserved.1 (by decide)
  · exact absurd (Token.word.inj hv) (by decide)
  · exact absurd (Token.word.inj hv) (by decide)
  · exact hnot hnegation
  · cases hv

end Opens

/-! ## Levels of the descent -/

/-- A step reads some symbols as an expression, whatever stands after them that may. -/
def Reads (l : Level) (p : Parser Expr) (ss : List Sym) (e : Expr) : Prop :=
  ∀ rest, Stops l rest → p.run ((ss ++ rest).map Sym.token) = some (e, rest.map Sym.token)

section Reads

variable {fuel : Nat} {ss ts : List Sym} {e f : Expr}

/-- No look-up and no call stands after an operand. -/
theorem reads_lookups (h : Reads .primary (atom fuel) ss e) :
    Reads .primary (lookups (fuel + 1)) ss e := by
  intro rest hrest
  rw [lookups, run_bind (h rest hrest)]
  apply iterate_of_none
  rw [acceptSymbol_else (hrest.head?_ne_symbol (by decide)),
    acceptSymbol_else (hrest.head?_ne_symbol (by decide)),
    acceptSymbol_else (hrest.head?_ne_symbol (by decide))]
  rfl

/-- No sign stands before an operand, and no power after it. -/
theorem reads_signed (hopens : Opens ss) (h : Reads .primary (lookups fuel) ss e) :
    Reads .primary (signed (fuel + 1)) ss e := by
  intro rest hrest
  rw [signed, acceptSymbol_else (hopens.head?_ne_symbol (by decide)),
    acceptSymbol_else (hopens.head?_ne_symbol (by decide)),
    acceptSymbol_else (hopens.head?_ne_symbol (by decide)),
    run_bind (acceptWord_of_ne (hopens.head?_ne_word (by decide) (by decide))),
    run_bind (h rest hrest), acceptSymbol_else (hrest.head?_ne_symbol (by decide))]
  rfl

/-- The symbols of scripts are no operators of arithmetic. -/
theorem lookup_operators (level : Nat) {t : String} (ht : t ∈ ["==", "!=", ")"]) :
    (operators level).lookup t = none := by
  have hall : ∀ level < 6, ∀ t ∈ ["==", "!=", ")"], (operators level).lookup t = none := by decide
  by_cases hlast : level < 6
  · exact hall level hlast t ht
  · have hsame : operators level = operators 5 := by
      obtain ⟨n, rfl⟩ := Nat.exists_eq_add_of_le (Nat.le_of_not_lt hlast)
      rw [Nat.add_comm]
      rfl
    rw [hsame]
    exact hall 5 (by decide) t ht

/-- No operator of arithmetic stands after an operand. -/
theorem acceptOperator_of_stops {rest : List Sym} (h : Stops .primary rest) (level : Nat) :
    (acceptOperator level).run (rest.map Sym.token) = some (none, rest.map Sym.token) := by
  rcases rest with _ | ⟨s, rest⟩
  · rfl
  · have hadmitted := h s rfl
    cases s with
    | same => exact acceptOperator_of_lookup (lookup_operators level (by decide))
    | differ => exact acceptOperator_of_lookup (lookup_operators level (by decide))
    | closing => exact acceptOperator_of_lookup (lookup_operators level (by decide))
    | word w => cases hadmitted
    | opening => cases hadmitted
    | _ => rfl

/-- All levels of arithmetic pass an operand on. -/
theorem reads_arithmetic (h : Reads .primary (signed fuel) ss e) (level above : Nat)
    (hlevel : level + above = lastLevel + 1) :
    Reads .primary (arithmetic (fuel + above + 1) level) ss e := by
  induction above generalizing level with
  | zero =>
    intro rest hrest
    rw [arithmetic, if_pos (by omega)]
    exact h rest hrest
  | succ above ih =>
    intro rest hrest
    have hbelow : (arithmetic (fuel + (above + 1)) (level + 1)).run _ = _ :=
      ih (level + 1) (by omega) rest hrest
    rw [arithmetic, if_neg (by omega), run_bind hbelow]
    apply iterate_of_none
    rw [run_bind (acceptOperator_of_stops hrest level)]
    rfl

end Reads

/-! ## Comparisons and negations -/

section Inversion

variable {fuel : Nat} {ss ts : List Sym} {e f : Expr}

theorem acceptComparison_of_stops {rest : List Sym} (h : Stops .equality rest) :
    acceptComparison.run (rest.map Sym.token) = some (none, rest.map Sym.token) := by
  rcases rest with _ | ⟨s, rest⟩
  · rfl
  · have hadmitted := h s rfl
    cases s with
    | both => rfl
    | either => rfl
    | closing => rfl
    | _ => cases hadmitted

theorem acceptComparison_of_comparison (differ : Bool) (rest : List Token) :
    acceptComparison.run ((if differ then Sym.differ else Sym.same).token :: rest) =
      some (some (Script.comparison differ), rest) := by
  cases differ <;> rfl

/-- The loop that reads comparisons. -/
def compared (operand : Parser Expr) (done : List (Comparison × Expr)) :
    Parser (Option (List (Comparison × Expr))) := do
  match ← acceptComparison with
  | some op =>
    let e ← operand
    return some (done ++ [(op, e)])
  | none => return none

theorem inversion_else {tokens : List Token} (h : tokens.head? ≠ some (.word "not")) :
    (inversion (fuel + 1)).run tokens = (do
      let first ← arithmetic fuel 0
      let rest ← iterate (compared (arithmetic fuel 0)) []
      match rest with
      | [] => return first
      | _ => return .compare first rest : Parser Expr).run tokens := by
  rw [inversion, acceptWord_else h]
  rfl

theorem compared_of_stops {operand : Parser Expr} {rest : List Sym} (h : Stops .equality rest)
    (done : List (Comparison × Expr)) :
    (compared operand done).run (rest.map Sym.token) = some (none, rest.map Sym.token) := by
  rw [compared, run_bind (acceptComparison_of_stops h)]
  rfl

theorem compared_of_comparison {operand : Parser Expr} {tokens rest : List Token} (differ : Bool)
    (h : operand.run tokens = some (f, rest)) (done : List (Comparison × Expr)) :
    (compared operand done).run ((if differ then Sym.differ else Sym.same).token :: tokens) =
      some (some (done ++ [(Script.comparison differ, f)]), rest) := by
  rw [compared, run_bind (acceptComparison_of_comparison differ tokens)]
  show (operand >>= _).run tokens = _
  rw [run_bind h]
  rfl

/-- An operand that no comparison follows stands for itself. -/
theorem reads_inversion (hopens : Opens ss) (hnot : ss.head? ≠ some .negation)
    (h : Reads .primary (arithmetic fuel 0) ss e) : Reads .equality (inversion (fuel + 1)) ss e := by
  intro rest hrest
  rw [inversion_else (hopens.head?_ne_not hnot), run_bind (h rest hrest.primary),
    run_bind (iterate_of_none (compared_of_stops hrest []))]
  rfl

/-- A comparison between two operands. -/
theorem reads_comparison (hopens : Opens ss) (hnot : ss.head? ≠ some .negation) (differ : Bool)
    (h : Reads .primary (arithmetic fuel 0) ss e) (ht : Reads .primary (arithmetic fuel 0) ts f) :
    Reads .equality (inversion (fuel + 1)) (ss ++ (if differ then .differ else .same) :: ts)
      (.compare e [(Script.comparison differ, f)]) := by
  intro rest hrest
  have hstops : Stops .primary ((if differ then .differ else .same) :: (ts ++ rest)) := by
    cases differ <;> exact stops_cons rfl
  have hright := compared_of_comparison differ (ht rest hrest.primary) []
  rw [List.append_assoc, List.cons_append, inversion_else (hopens.head?_ne_not hnot),
    run_bind (h _ hstops), List.map_cons,
    run_bind (iterate_once hright (compared_of_stops hrest _))]
  rfl

/-- Each word for a negation makes one. -/
theorem reads_nots (h : Reads .equality (inversion fuel) ss e) (marks : Nat) :
    Reads .equality (inversion (fuel + marks)) (List.replicate marks .negation ++ ss)
      (Script.nots marks e) := by
  induction marks with
  | zero => exact h
  | succ marks ih =>
    intro rest hrest
    rw [Script.nots, Function.iterate_succ_apply']
    show (inversion (fuel + marks + 1)).run
      (.word "not" :: (List.replicate marks Sym.negation ++ ss ++ rest).map Sym.token) = _
    rw [inversion, acceptWord_then, run_bind (ih rest hrest)]
    rfl

end Inversion

/-! ## Connectives -/

section Connectives

variable {l : Level} {op : Sym} {word : String} {operand : Parser Expr} {ss ts : List Sym}
  {es : List Expr} {e : Expr}

/-- The loop that reads operands after a word. -/
def joined (word : String) (operand : Parser Expr) (done : List Expr) :
    Parser (Option (List Expr)) := do
  if ← acceptWord word then
    let e ← operand
    return some (done ++ [e])
  else return none

/-- After the first of some operands the loop comes to the others, and then to whatever stands after
them. -/
def Chain (l : Level) (word : String) (operand : Parser Expr) (ss : List Sym) (es : List Expr) :
    Prop :=
  ∃ first e others, ss = first ++ others ∧ Reads l operand first e ∧ Stops l others ∧
    ∀ n, others.length ≤ n → ∀ rest, Stops l rest → ∃ m, n ≤ m + others.length ∧
      (iterateUpTo (joined word operand) n [e]).run ((others ++ rest).map Sym.token) =
        (iterateUpTo (joined word operand) m es).run (rest.map Sym.token)

theorem Chain.single (h : Reads l operand ss e) : Chain l word operand ss [e] := by
  refine ⟨ss, e, [], (List.append_nil ss).symm, h, stops_nil, ?_⟩
  intro n _ rest _
  exact ⟨n, Nat.le_refl n, rfl⟩

theorem Chain.join (h : Chain l word operand ss es) (hop : l.admits op = true)
    (hword : op.token = .word word) (ht : Reads l operand ts e) :
    Chain l word operand (ss ++ op :: ts) (Script.addOperand es e) := by
  obtain ⟨first, e₁, others, rfl, hfirst, hstops, hothers⟩ := h
  refine ⟨first, e₁, others ++ op :: ts, List.append_assoc .., hfirst,
    hstops.append (stops_cons hop), ?_⟩
  intro n hn rest hrest
  simp only [List.length_append, List.length_cons] at hn ⊢
  obtain ⟨m, hm, hrun⟩ := hothers n (by omega) (op :: (ts ++ rest)) (stops_cons hop)
  -- Every symbol pays for a round of the loop, so the word has a round left.
  obtain ⟨k, rfl⟩ : ∃ k, m = k + 1 := Nat.exists_eq_succ_of_ne_zero (by omega)
  have hstep : (joined word operand es).run ((op :: (ts ++ rest)).map Sym.token) =
      some (some (Script.addOperand es e), rest.map Sym.token) := by
    rw [List.map_cons, hword, joined, acceptWord_then, run_bind (ht rest hrest)]
    rfl
  refine ⟨k, by omega, ?_⟩
  rw [List.append_assoc, List.cons_append, hrun, iterateUpTo_of_some hstep]

/-- Operands are read up to something that the word does not begin. -/
theorem Chain.run {β : Type} (h : Chain l word operand ss es) {rest : List Sym} (hrest : Stops l rest)
    (hend : (rest.map Sym.token).head? ≠ some (.word word)) (next : List Expr → Parser β) :
    (do
      let first ← operand
      let operands ← iterate (joined word operand) [first]
      next operands : Parser β).run ((ss ++ rest).map Sym.token) =
        (next es).run (rest.map Sym.token) := by
  obtain ⟨first, e, others, rfl, hfirst, hstops, hothers⟩ := h
  rw [List.append_assoc, run_bind (hfirst _ (hstops.append hrest))]
  obtain ⟨m, -, hrun⟩ := hothers (((others ++ rest).map Sym.token).length + 1)
    (by simp only [List.length_map, List.length_append]; omega) rest hrest
  -- The loop ends at the first thing that the word does not begin, with rounds to spare.
  have hdeclined : (joined word operand es).run (rest.map Sym.token) =
      some (none, rest.map Sym.token) := by
    rw [joined, acceptWord_else hend]
    rfl
  have hloop : (iterate (joined word operand) [e]).run ((others ++ rest).map Sym.token) =
      some (es, rest.map Sym.token) := by
    rw [iterate_run, hrun, iterateUpTo_of_none hdeclined]
  rw [run_bind hloop]

theorem reads_conjunction {fuel : Nat} (h : Chain .equality "and" (inversion fuel) ss es) :
    Reads .conjunction (conjunction (fuel + 1)) ss (Script.joinAll es) := by
  intro rest hrest
  rw [conjunction]
  apply (h.run hrest.equality hrest.head?_ne_and _).trans
  rcases es with _ | ⟨e, _ | ⟨f, es⟩⟩
  · rfl
  · rfl
  · rfl

theorem reads_disjunction {fuel : Nat} (h : Chain .conjunction "or" (conjunction fuel) ss es) :
    Reads .disjunction (disjunction (fuel + 1)) ss (Script.joinAny es) := by
  intro rest hrest
  rw [disjunction]
  apply (h.run hrest.conjunction hrest.head?_ne_or _).trans
  rcases es with _ | ⟨e, _ | ⟨f, es⟩⟩
  · rfl
  · rfl
  · rfl

end Connectives

/-! ## Groups -/

section Groups

variable {fuel : Nat} {ss : List Sym} {e : Expr}

theorem reads_expression (hopens : Opens ss) (h : Reads .disjunction (disjunction fuel) ss e) :
    Reads .disjunction (Parser.expression (fuel + 1)) ss e := by
  intro rest hrest
  rw [Parser.expression, acceptWord_else (hopens.head?_ne_word (by decide) (by decide)),
    run_bind (h rest hrest), acceptWord_else (hrest.primary.head?_ne_word (by decide))]
  rfl

/-- Scripts assign nothing. -/
theorem Sym.token_ne_assignment (s : Sym) : s.token ≠ .symbol ":=" := by
  intro htoken
  cases s with
  | same => exact absurd (Token.symbol.inj htoken) (by decide)
  | differ => exact absurd (Token.symbol.inj htoken) (by decide)
  | opening => exact absurd (Token.symbol.inj htoken) (by decide)
  | closing => exact absurd (Token.symbol.inj htoken) (by decide)
  | _ => cases htoken

theorem reads_named (h : Reads .disjunction (Parser.expression fuel) ss e) :
    Reads .disjunction (named (fuel + 1)) ss e := by
  intro rest hrest
  have hnone : ∀ t ∈ (ss ++ rest).map Sym.token, t ≠ .symbol ":=" := by
    intro t ht
    obtain ⟨s, -, rfl⟩ := List.mem_map.mp ht
    exact s.token_ne_assignment
  rw [named, run_bind (atNameThen_of_ne hnone)]
  exact h rest hrest

theorem reads_displayItem (hopens : Opens ss) (h : Reads .disjunction (named fuel) ss e) :
    Reads .disjunction (displayItem (fuel + 1)) ss e := by
  intro rest hrest
  rw [displayItem, acceptSymbol_else (hopens.head?_ne_symbol (by decide))]
  exact h rest hrest

/-- A group is read up to its closing parenthesis. -/
theorem parenthesised_run (hopens : Opens ss) (h : Reads .disjunction (displayItem fuel) ss e)
    (hplain : isUnpacked e = false) (rest : List Sym) :
    (parenthesised (fuel + 1)).run ((ss ++ .closing :: rest).map Sym.token) =
      some (e, rest.map Sym.token) := by
  have hclosing : Stops .disjunction (.closing :: rest) := stops_cons rfl
  rw [parenthesised, acceptSymbol_else (hopens.head?_ne_symbol (by decide)),
    acceptWord_else (hopens.head?_ne_word (by decide) (by decide)), run_bind (h _ hclosing),
    run_bind (atWord_of_ne (hclosing.primary.head?_ne_word (by decide))),
    run_bind (atWord_of_ne (hclosing.primary.head?_ne_word (by decide)))]
  show ((acceptSymbol "," >>= fun isNext => if isNext = true then _ else if isUnpacked e = true then _
    else expectSymbol ")" >>= fun _ => pure e : Parser Expr)).run _ = _
  rw [acceptSymbol_else (hclosing.primary.head?_ne_symbol (by decide)), hplain]
  rfl

/-- What a loop has read between parentheses is an atom. -/
theorem reads_group (hopens : Opens ss) {es : List Expr}
    (h : Chain .conjunction "or" (conjunction fuel) ss es)
    (hplain : isUnpacked (Script.joinAny es) = false) :
    Reads .primary (atom (fuel + 6)) (.opening :: (ss ++ [.closing])) (Script.joinAny es) := by
  intro rest _
  have hitem := reads_displayItem hopens (reads_named (reads_expression hopens (reads_disjunction h)))
  have hgroup := parenthesised_run hopens hitem hplain rest
  show (atom (fuel + 5 + 1)).run (.symbol "(" :: (ss ++ [Sym.closing] ++ rest).map Sym.token) = _
  rw [List.append_assoc, List.singleton_append]
  exact hgroup

end Groups

/-! ## Scripts -/

namespace Script

theorem hasForbidden_nots (marks : Nat) (e : Expr) : (nots marks e).hasForbidden = e.hasForbidden := by
  induction marks with
  | zero => rfl
  | succ marks ih =>
    rw [nots, Function.iterate_succ_apply']
    exact ih

theorem hasForbidden_joinAll (es : List Expr) :
    (joinAll es).hasForbidden = Expr.anyForbidden es := by
  rcases es with _ | ⟨e, _ | ⟨f, es⟩⟩
  · rfl
  · exact (Bool.or_false _).symm
  · rfl

theorem hasForbidden_joinAny (es : List Expr) :
    (joinAny es).hasForbidden = Expr.anyForbidden es := by
  rcases es with _ | ⟨e, _ | ⟨f, es⟩⟩
  · rfl
  · exact (Bool.or_false _).symm
  · rfl

theorem anyForbidden_addOperand (es : List Expr) (e : Expr) :
    Expr.anyForbidden (addOperand es e) = (Expr.anyForbidden es || e.hasForbidden) := by
  induction es with
  | nil => exact (Bool.or_false _).trans (Bool.false_or _).symm
  | cons first es ih =>
    show (first.hasForbidden || Expr.anyForbidden (addOperand es e)) = _
    rw [ih, ← Bool.or_assoc]
    rfl

end Script

/-- Nothing that is read is forbidden. -/
def Level.Allows : (l : Level) → l.Reading → Prop
  | .primary, e => e.hasForbidden = false
  | .equality, e => e.hasForbidden = false
  | .conjunction, es => Expr.anyForbidden es = false
  | .disjunction, es => Expr.anyForbidden es = false

namespace Script

/-- Nothing in a plain script is forbidden. -/
theorem allowed : {l : Level} → (s : Script l) → s.Plain → l.Allows s.reading
  | _, .name w, _ => rfl
  | _, .truth b, _ => rfl
  | _, .group e, hplain => (hasForbidden_joinAny _).trans (allowed e hplain)
  | _, .negated marks e, hplain => (hasForbidden_nots marks _).trans (allowed e hplain)
  | _, .compared (.negated marks e) differ 0 r, hplain => by
    have hl : Expr.hasForbidden e.reading = false := allowed e hplain.1
    have hr : Expr.hasForbidden r.reading = false := allowed r hplain.2
    show (nots marks (.compare e.reading [(comparison differ, r.reading)])).hasForbidden = false
    rw [hasForbidden_nots]
    show (Expr.hasForbidden e.reading || (Expr.hasForbidden r.reading || false)) = false
    rw [hl, hr]
    rfl
  | _, .equality e, hplain => (Bool.or_false _).trans (allowed e hplain)
  | _, .both l r, hplain => by
    have hl : Expr.anyForbidden l.reading = false := allowed l hplain.1
    have hr : Expr.hasForbidden r.reading = false := allowed r hplain.2
    show Expr.anyForbidden (addOperand l.reading r.reading) = false
    rw [anyForbidden_addOperand, hl, hr]
    rfl
  | _, .conjunction e, hplain =>
    (Bool.or_false _).trans ((hasForbidden_joinAll _).trans (allowed e hplain))
  | _, .either l r, hplain => by
    have hl : Expr.anyForbidden l.reading = false := allowed l hplain.1
    have hr : Expr.hasForbidden (joinAll r.reading) = false :=
      (hasForbidden_joinAll _).trans (allowed r hplain.2)
    show Expr.anyForbidden (addOperand l.reading (joinAll r.reading)) = false
    rw [anyForbidden_addOperand, hl, hr]
    rfl

theorem isUnpacked_eq_false {e : Expr} (h : e.hasForbidden = false) : isUnpacked e = false := by
  unfold isUnpacked
  split
  · cases h
  · rfl

theorem opens {l : Level} (s : Script l) (hnames : ∀ w ∈ s.names, PlainName w) : Opens s.syms := by
  obtain ⟨first, hfirst, hbegins⟩ := s.phrase.first
  exact ⟨first, hfirst, hbegins, s.known hnames first (List.mem_of_mem_head? hfirst)⟩

theorem head?_ne_negation (s : Script .primary) : s.syms.head? ≠ some .negation := by
  cases s with
  | name w => exact fun h => by cases h
  | truth b => exact fun h => by cases h
  | group e => exact fun h => by cases h

end Script

/-- The step of a level reads some symbols as this. For a connective it reads them operand by
operand. -/
def Level.ReadsAs (fuel : Nat) (ss : List Sym) : (l : Level) → l.Reading → Prop
  | .primary, e => Reads .primary (atom fuel) ss e
  | .equality, e => Reads .equality (inversion fuel) ss e
  | .conjunction, es => Chain .equality "and" (inversion fuel) ss es
  | .disjunction, es => Chain .conjunction "or" (Parser.conjunction fuel) ss es

/-- How far down atoms are read from a level. -/
def Level.descent : Level → Nat
  | .primary => 0
  | .equality => 10
  | .conjunction => 10
  | .disjunction => 11

namespace Script

theorem reads_name {fuel : Nat} {w : String} (h : PlainName w) :
    Reads .primary (atom (fuel + 1)) [.word w] (.name w) := by
  intro rest _
  have hreserved : ∀ k ∈ keywords, w ≠ k := by
    rintro k hk rfl
    exact h.unreserved.1 hk
  have hidentifier : identifier.run (.word w :: rest.map Sym.token) =
      some (w, rest.map Sym.token) := by
    have hfree : keywords.contains w = false := by
      simpa using h.unreserved.1
    rw [identifier, run_bind (peek_run _)]
    simp only [List.head?_cons, hfree, Bool.false_eq_true, if_false, h.settled]
    rfl
  show (atom (fuel + 1)).run (.word (Spelling.plainWord w) :: rest.map Sym.token) = _
  rw [h.plainWord_eq, atom, run_bind (peek_run _), List.head?_cons]
  -- A plain name is none of the words that stand for constants, so the branch for names is left.
  split
  case h_3 heq => exact absurd (Token.word.inj (Option.some.inj heq)) (hreserved "True" (by decide))
  case h_4 heq => exact absurd (Token.word.inj (Option.some.inj heq)) (hreserved "False" (by decide))
  case h_5 heq => exact absurd (Token.word.inj (Option.some.inj heq)) (hreserved "None" (by decide))
  case h_6 =>
    rw [run_bind hidentifier]
    rfl
  case h_11 hword _ _ _ _ => exact (hword w rfl).elim
  all_goals
    rename_i heq
    cases heq

/-- An operand is read on the level of arithmetic. -/
theorem reads_operand {fuel : Nat} {ss : List Sym} {e : Expr} (hopens : Opens ss)
    (h : Reads .primary (atom fuel) ss e) : Reads .primary (arithmetic (fuel + 9) 0) ss e :=
  reads_arithmetic (reads_signed hopens (reads_lookups h)) 0 6 rfl

/-- **The descent reads a plain script** as what it is read as. Each symbol is worth the fuel that the
way down and back up to it takes. -/
theorem readsAs : {l : Level} → (s : Script l) → s.Plain → (∀ w ∈ s.names, PlainName w) →
    (fuel : Nat) → 24 * s.syms.length + l.descent ≤ fuel → l.ReadsAs fuel s.syms s.reading
  | _, .name w, _, hnames, fuel, hfuel => by
    have hlength : 24 ≤ fuel := by simpa [syms, Level.descent] using hfuel
    obtain ⟨below, rfl⟩ : ∃ below, fuel = below + 1 := ⟨fuel - 1, by omega⟩
    exact reads_name (hnames w (List.mem_singleton_self w))
  | _, .truth b, _, _, fuel, hfuel => by
    have hlength : 24 ≤ fuel := by simpa [syms, Level.descent] using hfuel
    obtain ⟨below, rfl⟩ : ∃ below, fuel = below + 1 := ⟨fuel - 1, by omega⟩
    intro rest _
    cases b <;> rfl
  | _, .group e, hplain, hnames, fuel, hfuel => by
    have hlength : 24 * (e.syms.length + 2) ≤ fuel := by
      simpa [syms, Level.descent] using hfuel
    obtain ⟨below, rfl⟩ : ∃ below, fuel = below + 6 := ⟨fuel - 6, by omega⟩
    have hchain := readsAs e hplain hnames below (by simp only [Level.descent]; omega)
    exact reads_group (e.opens hnames) hchain (isUnpacked_eq_false (e.group.allowed hplain))
  | _, .negated marks e, hplain, hnames, fuel, hfuel => by
    have hlength : 24 * (marks + e.syms.length) + 10 ≤ fuel := by
      simpa [syms, Level.descent] using hfuel
    obtain ⟨below, rfl⟩ : ∃ below, fuel = below + 10 + marks := ⟨fuel - 10 - marks, by omega⟩
    have hatom := readsAs e hplain hnames below (by simp only [Level.descent]; omega)
    have hopens := e.opens hnames
    exact reads_nots (reads_inversion hopens e.head?_ne_negation (reads_operand hopens hatom)) marks
  | _, .compared (.negated marks e) differ 0 r, hplain, hnames, fuel, hfuel => by
    have hlength : 24 * (marks + (e.syms.length + (r.syms.length + 1))) + 10 ≤ fuel := by
      simpa [syms, Level.descent] using hfuel
    obtain ⟨below, rfl⟩ : ∃ below, fuel = below + 10 + marks := ⟨fuel - 10 - marks, by omega⟩
    obtain ⟨hleft, hright⟩ := List.forall_mem_append.mp hnames
    have hl := readsAs e hplain.1 hleft below (by simp only [Level.descent]; omega)
    have hr := readsAs r hplain.2 hright below (by simp only [Level.descent]; omega)
    have hcomparison := reads_comparison (e.opens hleft) e.head?_ne_negation differ
      (reads_operand (e.opens hleft) hl) (reads_operand (r.opens hright) hr)
    show Reads .equality _ (List.replicate marks .negation ++ e.syms ++ _ :: r.syms) _
    rw [List.append_assoc]
    exact reads_nots hcomparison marks
  | _, .equality e, hplain, hnames, fuel, hfuel => by
    exact Chain.single (readsAs e hplain hnames fuel hfuel)
  | _, .both l r, hplain, hnames, fuel, hfuel => by
    have hlength : 24 * (l.syms.length + (r.syms.length + 1)) + 10 ≤ fuel := by
      simpa [syms, Level.descent] using hfuel
    obtain ⟨hleft, hright⟩ := List.forall_mem_append.mp hnames
    have hl := readsAs l hplain.1 hleft fuel (by simp only [Level.descent]; omega)
    have hr := readsAs r hplain.2 hright fuel (by simp only [Level.descent]; omega)
    exact Chain.join hl rfl rfl hr
  | _, .conjunction e, hplain, hnames, fuel, hfuel => by
    have hlength : 24 * e.syms.length + 11 ≤ fuel := hfuel
    obtain ⟨below, rfl⟩ : ∃ below, fuel = below + 1 := ⟨fuel - 1, by omega⟩
    have he := readsAs e hplain hnames below (by simp only [Level.descent]; omega)
    exact Chain.single (reads_conjunction he)
  | _, .either l r, hplain, hnames, fuel, hfuel => by
    have hlength : 24 * (l.syms.length + (r.syms.length + 1)) + 11 ≤ fuel := by
      simpa [syms, Level.descent] using hfuel
    obtain ⟨below, rfl⟩ : ∃ below, fuel = below + 1 := ⟨fuel - 1, by omega⟩
    obtain ⟨hleft, hright⟩ := List.forall_mem_append.mp hnames
    have hl := readsAs l hplain.1 hleft (below + 1) (by simp only [Level.descent]; omega)
    have hr := readsAs r hplain.2 hright below (by simp only [Level.descent]; omega)
    exact Chain.join hl rfl rfl (reads_conjunction hr)

/-- A condition is read to its end. -/
theorem condition_run (s : Script .disjunction) (hplain : s.Plain)
    (hnames : ∀ w ∈ s.names, PlainName w) {fuel : Nat} (hfuel : 24 * s.syms.length + 13 ≤ fuel) :
    (condition fuel).run (s.syms.map Sym.token) = some (s.tree, []) := by
  obtain ⟨below, rfl⟩ : ∃ below, fuel = below + 2 := ⟨fuel - 2, by omega⟩
  have hchain := s.readsAs hplain hnames below (by simp only [Level.descent]; omega)
  have hread := reads_expression (s.opens hnames) (reads_disjunction hchain) [] stops_nil
  rw [List.append_nil] at hread
  rw [condition, run_bind hread]
  rfl

end Script

end Helpdesk.Condition
