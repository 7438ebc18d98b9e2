import Helpdesk.Condition
import Mathlib.Data.List.Forall2
import Mathlib.Logic.Function.Iterate

/-!
# Helpdesk.Proofs.Condition.Script — the boolean scripts that conditions are written as.

Authors write their conditions in the boolean fragment of JavaScript: names that stand for booleans,
`true`, `false`, `!`, `&&`, `||`, `===`, `!==` and parentheses. A script follows the productions of
that language: `!` binds tightest and may be repeated, comparisons group to the left and bind tighter
than `&&`, which binds tighter than `||`. The condition language has one operator for a negation that
binds *looser* than a comparison, and it takes several comparisons for a chain. `reading` is what it
makes of a script with one operator in each comparison and no negation to the right of it (`Plain`).
-/
namespace Helpdesk.Condition

/-- The levels of the grammar, tightest first. -/
inductive Level where
  | primary | equality | conjunction | disjunction

/-- A boolean script, by the production that it is made with. -/
inductive Script : Level → Type where
  | name (w : String) : Script .primary
  | truth (b : Bool) : Script .primary
  | group (e : Script .disjunction) : Script .primary
  /-- So many exclamation marks before an operand. -/
  | negated (marks : Nat) (e : Script .primary) : Script .equality
  | compared (l : Script .equality) (differ : Bool) (marks : Nat) (r : Script .primary) :
      Script .equality
  | equality (e : Script .equality) : Script .conjunction
  | both (l : Script .conjunction) (r : Script .equality) : Script .conjunction
  | conjunction (e : Script .conjunction) : Script .disjunction
  | either (l : Script .disjunction) (r : Script .conjunction) : Script .disjunction

/-- The symbols of scripts. -/
inductive Sym where
  /-- A name, `true` or `false`. -/
  | word (w : String)
  | negation | same | differ | both | either | opening | closing

namespace Script

variable {l : Level}

/-- The symbols of a script from left to right. -/
def syms {l : Level} : Script l → List Sym
  | .name w => [.word w]
  | .truth b => [.word (if b then "true" else "false")]
  | .group e => .opening :: (e.syms ++ [.closing])
  | .negated marks e => List.replicate marks .negation ++ e.syms
  | .compared l differ marks r =>
    l.syms ++ (if differ then .differ else .same) :: (List.replicate marks .negation ++ r.syms)
  | .equality e => e.syms
  | .both l r => l.syms ++ .both :: r.syms
  | .conjunction e => e.syms
  | .either l r => l.syms ++ .either :: r.syms

/-- The value of a script where names stand for booleans. -/
def value {l : Level} (env : String → Bool) : Script l → Bool
  | .name w => env w
  | .truth b => b
  | .group e => e.value env
  | .negated marks e => not^[marks] (e.value env)
  | .compared l differ marks r => (l.value env == not^[marks] (r.value env)) != differ
  | .equality e => e.value env
  | .both l r => l.value env && r.value env
  | .conjunction e => e.value env
  | .either l r => l.value env || r.value env

/-- The names in a script. -/
def names {l : Level} : Script l → List String
  | .name w => [w]
  | .truth _ => []
  | .group e => e.names
  | .negated _ e => e.names
  | .compared l _ _ r => l.names ++ r.names
  | .equality e => e.names
  | .both l r => l.names ++ r.names
  | .conjunction e => e.names
  | .either l r => l.names ++ r.names

/-- How many groups are open at once. -/
def brackets {l : Level} : Script l → Nat
  | .name _ => 0
  | .truth _ => 0
  | .group e => e.brackets + 1
  | .negated _ e => e.brackets
  | .compared l _ _ r => max l.brackets r.brackets
  | .equality e => e.brackets
  | .both l r => max l.brackets r.brackets
  | .conjunction e => e.brackets
  | .either l r => max l.brackets r.brackets

/-- Each comparison has one operator, and its right operand does not begin with a negation. -/
def Plain {l : Level} : Script l → Prop
  | .name _ => True
  | .truth _ => True
  | .group e => e.Plain
  | .negated _ e => e.Plain
  | .compared (.negated _ e) _ 0 r => e.Plain ∧ r.Plain
  | .compared _ _ _ _ => False
  | .equality e => e.Plain
  | .both l r => l.Plain ∧ r.Plain
  | .conjunction e => e.Plain
  | .either l r => l.Plain ∧ r.Plain

/-! ## What a script is read as -/

/-- So many negations of an expression. -/
def nots (marks : Nat) (e : Expr) : Expr :=
  (Expr.unary .not)^[marks] e

/-- The comparison that a symbol stands for. -/
def comparison (differ : Bool) : Comparison :=
  if differ then .unequal else .equal

/-- Operands with one operand more. -/
def addOperand (es : List Expr) (e : Expr) : List Expr :=
  es ++ [e]

/-- Operands joined by `and`; a single one stands for itself. -/
def joinAll : List Expr → Expr
  | [e] => e
  | es => .all es

/-- Operands joined by `or`; a single one stands for itself. -/
def joinAny : List Expr → Expr
  | [e] => e
  | es => .any es

end Script

/-- What a script of a level is read as: an expression, or the operands of a connective. -/
abbrev Level.Reading : Level → Type
  | .primary => Expr
  | .equality => Expr
  | .conjunction => List Expr
  | .disjunction => List Expr

namespace Script

/-- What a plain script is read as. -/
def reading : {l : Level} → Script l → l.Reading
  | _, .name w => Expr.name w
  | _, .truth b => Expr.constant (.bool b)
  | _, .group e => joinAny e.reading
  | _, .negated marks e => nots marks e.reading
  | _, .compared (.negated marks e) differ more r =>
    nots marks (.compare e.reading [(comparison differ, nots more r.reading)])
  | _, .compared (.compared l other marks e) differ more r =>
    Expr.compare (Script.compared l other marks e).reading [(comparison differ, nots more r.reading)]
  | _, .equality e => ([e.reading] : List Expr)
  | _, .both l r => addOperand l.reading r.reading
  | _, .conjunction e => ([joinAll e.reading] : List Expr)
  | _, .either l r => addOperand l.reading (joinAll r.reading)

/-- The expression that a script is read as. -/
def tree (s : Script .disjunction) : Expr :=
  joinAny s.reading

/-- One level more when operands are joined. -/
def joins {l : Level} : Script l → Nat
  | .both _ _ => 1
  | .either _ _ => 1
  | _ => 0

/-- The exclamation marks before the first operand. -/
def marks : Script .equality → Nat
  | .negated n _ => n
  | .compared _ _ _ _ => 0

/-- How deep the parts of what a script is read as stand in it; for a connective, in its operands. -/
def height {l : Level} : Script l → Nat
  | .name _ => 0
  | .truth _ => 0
  | .group e => e.height + e.joins
  | .negated marks e => marks + e.height
  | .compared l _ more r => 1 + max l.height (l.marks + more + r.height)
  | .equality e => e.height
  | .both l r => max l.height r.height
  | .conjunction e => e.height + e.joins
  | .either l r => max l.height (r.height + r.joins)

/-! ## Evaluation -/

theorem operands_ne_nil : (s : Script .conjunction) → (s.reading : List Expr) ≠ []
  | .equality _ => List.cons_ne_nil _ _
  | .both _ _ => List.append_ne_nil_of_right_ne_nil _ (List.cons_ne_nil _ _)

theorem alternatives_ne_nil : (s : Script .disjunction) → (s.reading : List Expr) ≠ []
  | .conjunction _ => List.cons_ne_nil _ _
  | .either _ _ => List.append_ne_nil_of_right_ne_nil _ (List.cons_ne_nil _ _)

theorem joinAll_addOperand {es : List Expr} (h : es ≠ []) (e : Expr) :
    joinAll (addOperand es e) = .all (addOperand es e) := by
  rcases es with _ | ⟨first, _ | ⟨second, others⟩⟩
  · exact absurd rfl h
  · rfl
  · rfl

theorem joinAny_addOperand {es : List Expr} (h : es ≠ []) (e : Expr) :
    joinAny (addOperand es e) = .any (addOperand es e) := by
  rcases es with _ | ⟨first, _ | ⟨second, others⟩⟩
  · exact absurd rfl h
  · rfl
  · rfl

variable {bag : Entries}

theorem evaluateAt_nots {marks depth : Nat} {e : Expr} {v : Bool}
    (h : evaluateAt bag (depth + marks) e = .ok (.bool v)) (hdepth : depth + marks ≤ maxDepth) :
    evaluateAt bag depth (nots marks e) = .ok (.bool ((!·)^[marks] v)) := by
  induction marks generalizing depth with
  | zero => exact h
  | succ marks ih =>
    have hbelow : depth + 1 + marks = depth + (marks + 1) := by omega
    have hinner : evaluateAt bag (depth + 1) (nots marks e) = .ok (.bool ((!·)^[marks] v)) := by
      apply ih
      · rw [hbelow, h]
      · omega
    rw [nots, Function.iterate_succ_apply', evaluateAt, if_neg (by omega)]
    show (evaluateAt bag (depth + 1) (nots marks e) >>= applyUnary .not) = _
    rw [hinner, Function.iterate_succ_apply']
    rfl

theorem evaluateAt_of_maxDepth_lt {depth : Nat} (h : maxDepth < depth) (e : Expr) :
    evaluateAt bag depth e = .error .tooDeep := by
  rw [evaluateAt.eq_def, if_pos h]

/-- Beneath too many negations there is nothing to find. -/
theorem evaluateAt_nots_tooDeep {marks depth : Nat} {e : Expr}
    (h : maxDepth < depth + marks) :
    evaluateAt bag depth (nots marks e) = .error .tooDeep := by
  induction marks generalizing depth with
  | zero => exact evaluateAt_of_maxDepth_lt h e
  | succ marks ih =>
    have hinner : evaluateAt bag (depth + 1) (nots marks e) = .error .tooDeep :=
      ih (by omega)
    rw [nots, Function.iterate_succ_apply', evaluateAt]
    split
    · rfl
    · show (evaluateAt bag (depth + 1) (nots marks e) >>= applyUnary .not) = _
      rw [hinner]
      rfl

/-- To negate a comparison is to negate its left operand. -/
theorem iterate_not_beq (marks : Nat) (a b differ : Bool) :
    (!·)^[marks] ((a == b) != differ) = (((!·)^[marks] a == b) != differ) := by
  induction marks with
  | zero => rfl
  | succ marks ih =>
    rw [Function.iterate_succ_apply', Function.iterate_succ_apply', ih]
    generalize (!·)^[marks] a = c
    cases c <;> cases b <;> cases differ <;> rfl

theorem evaluateAt_compare {depth : Nat} {x y : Expr} {a b : Bool} (differ : Bool)
    (hx : evaluateAt bag (depth + 1) x = .ok (.bool a))
    (hy : evaluateAt bag (depth + 1) y = .ok (.bool b)) (hdepth : depth ≤ maxDepth) :
    evaluateAt bag depth (.compare x [(comparison differ, y)]) =
      .ok (.bool ((a == b) != differ)) := by
  have hequal : (Operand.bool a).equal (.bool b) = (a == b) := by
    cases a <;> cases b <;> rfl
  rw [evaluateAt, if_neg (by omega)]
  simp only [hx, bind, Except.bind, holdsAlong, hy]
  cases differ
  · simp only [comparison, applyComparison, hequal, Bool.false_eq_true, if_false]
    cases a == b <;> rfl
  · simp only [comparison, applyComparison, hequal, if_true]
    cases a == b <;> rfl

/-- Operands have the values of some booleans. -/
def HaveValues (bag : Entries) (depth : Nat) (es : List Expr) (vs : List Bool) : Prop :=
  List.Forall₂ (fun e v => evaluateAt bag depth e = .ok (.bool v)) es vs

theorem allCount_eq {depth : Nat} {es : List Expr} {vs : List Bool} (h : HaveValues bag depth es vs) :
    allCount bag depth es = .ok (vs.all id) := by
  induction h with
  | nil => rfl
  | @cons e v es vs he _ ih =>
    simp only [allCount, he, bind, Except.bind, ih]
    cases v <;> rfl

theorem anyCounts_eq {depth : Nat} {es : List Expr} {vs : List Bool}
    (h : HaveValues bag depth es vs) : anyCounts bag depth es = .ok (vs.any id) := by
  induction h with
  | nil => rfl
  | @cons e v es vs he _ ih =>
    simp only [anyCounts, he, bind, Except.bind, ih]
    cases v <;> rfl

end Script

/-- What a script is read as has a value at a depth. -/
def Level.Evaluates (bag : Entries) (depth : Nat) : (l : Level) → l.Reading → Bool → Prop
  | .primary, e, v => evaluateAt bag depth e = .ok (.bool v)
  | .equality, e, v => evaluateAt bag depth e = .ok (.bool v)
  | .conjunction, es, v => ∃ vs, Script.HaveValues bag depth es vs ∧ vs.all id = v
  | .disjunction, es, v => ∃ vs, Script.HaveValues bag depth es vs ∧ vs.any id = v

namespace Script

variable {bag : Entries}

theorem evaluateAt_joinAll {depth : Nat} {s : Script .conjunction} {v : Bool}
    (h : Level.Evaluates bag (depth + s.joins) .conjunction s.reading v) (hdepth : depth ≤ maxDepth) :
    evaluateAt bag depth (joinAll s.reading) = .ok (.bool v) := by
  obtain ⟨vs, hvs, rfl⟩ := h
  cases s with
  | equality e =>
    obtain ⟨v, _, he, hnil, rfl⟩ := List.forall₂_cons_left_iff.mp hvs
    obtain rfl := List.forall₂_nil_left_iff.mp hnil
    have hv : [v].all id = v := by simp
    rw [hv]
    exact he
  | both l r =>
    show evaluateAt bag depth (joinAll (addOperand l.reading r.reading)) = _
    rw [joinAll_addOperand l.operands_ne_nil, evaluateAt, if_neg (by omega)]
    exact congrArg (Except.map Operand.bool) (allCount_eq hvs)

theorem evaluateAt_joinAny {depth : Nat} {s : Script .disjunction} {v : Bool}
    (h : Level.Evaluates bag (depth + s.joins) .disjunction s.reading v) (hdepth : depth ≤ maxDepth) :
    evaluateAt bag depth (joinAny s.reading) = .ok (.bool v) := by
  obtain ⟨vs, hvs, rfl⟩ := h
  cases s with
  | conjunction e =>
    obtain ⟨v, _, he, hnil, rfl⟩ := List.forall₂_cons_left_iff.mp hvs
    obtain rfl := List.forall₂_nil_left_iff.mp hnil
    have hv : [v].any id = v := by simp
    rw [hv]
    exact he
  | either l r =>
    show evaluateAt bag depth (joinAny (addOperand l.reading (joinAll r.reading))) = _
    rw [joinAny_addOperand l.alternatives_ne_nil, evaluateAt, if_neg (by omega)]
    exact congrArg (Except.map Operand.bool) (anyCounts_eq hvs)

/-- **Values**: where names stand for booleans, what a plain script is read as has its value. -/
theorem evaluates {env : String → Bool} : {l : Level} → (s : Script l) → s.Plain →
    (∀ w ∈ s.names, Entries.value? w bag = some (.bool (env w))) → (depth : Nat) →
    depth + s.height ≤ maxDepth → l.Evaluates bag depth s.reading (s.value env)
  | _, .name w, _, henv, depth, hdepth => by
    show evaluateAt bag depth (.name w) = _
    rw [evaluateAt, if_neg (by omega), henv w (List.mem_singleton_self w)]
    rfl
  | _, .truth b, _, _, depth, hdepth => by
    show evaluateAt bag depth (.constant (.bool b)) = _
    rw [evaluateAt, if_neg (by omega)]
    rfl
  | _, .group e, hplain, henv, depth, hdepth => by
    have hheight : depth + (e.height + e.joins) ≤ maxDepth := hdepth
    exact evaluateAt_joinAny (evaluates e hplain henv (depth + e.joins) (by omega)) (by omega)
  | _, .negated marks e, hplain, henv, depth, hdepth => by
    have hheight : depth + (marks + e.height) ≤ maxDepth := hdepth
    exact evaluateAt_nots (evaluates e hplain henv (depth + marks) (by omega)) (by omega)
  | _, .compared (.negated marks e) differ 0 r, hplain, henv, depth, hdepth => by
    have hheight : depth + (1 + max (marks + e.height) (marks + 0 + r.height)) ≤ maxDepth := hdepth
    obtain ⟨hleft, hright⟩ := List.forall_mem_append.mp henv
    have he := evaluates e hplain.1 hleft (depth + marks + 1) (by omega)
    have hr := evaluates r hplain.2 hright (depth + marks + 1) (by omega)
    show evaluateAt bag depth (nots marks (.compare e.reading [(comparison differ, r.reading)])) = _
    rw [evaluateAt_nots (evaluateAt_compare differ he hr (by omega)) (by omega), iterate_not_beq]
    rfl
  | _, .equality e, hplain, henv, depth, hdepth => by
    have he := evaluates e hplain henv depth hdepth
    exact ⟨[e.value env], .cons he .nil, by simp [value]⟩
  | _, .both l r, hplain, henv, depth, hdepth => by
    have hheight : depth + max l.height r.height ≤ maxDepth := hdepth
    obtain ⟨hleft, hright⟩ := List.forall_mem_append.mp henv
    obtain ⟨vs, hvs, hv⟩ := evaluates l hplain.1 hleft depth (by omega)
    have hr := evaluates r hplain.2 hright depth (by omega)
    exact ⟨vs ++ [r.value env], List.rel_append hvs (.cons hr .nil), by simp [value, hv]⟩
  | _, .conjunction e, hplain, henv, depth, hdepth => by
    have hheight : depth + (e.height + e.joins) ≤ maxDepth := hdepth
    have he := evaluateAt_joinAll (evaluates e hplain henv (depth + e.joins) (by omega)) (by omega)
    exact ⟨[e.value env], .cons he .nil, by simp [value]⟩
  | _, .either l r, hplain, henv, depth, hdepth => by
    have hheight : depth + max l.height (r.height + r.joins) ≤ maxDepth := hdepth
    obtain ⟨hleft, hright⟩ := List.forall_mem_append.mp henv
    obtain ⟨vs, hvs, hv⟩ := evaluates l hplain.1 hleft depth (by omega)
    have hr := evaluateAt_joinAll (evaluates r hplain.2 hright (depth + r.joins) (by omega)) (by omega)
    exact ⟨vs ++ [r.value env], List.rel_append hvs (.cons hr .nil), by simp [value, hv]⟩

end Script

end Helpdesk.Condition
