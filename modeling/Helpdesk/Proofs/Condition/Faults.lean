import Helpdesk.Condition
import Mathlib

/-!
# Helpdesk.Proofs.Condition.Faults — which faults of a condition are answers.

A fault that *fails closed* is the answer "no"; any other one is no answer. Look-ups, comparisons, signs
and connectives only ever fail closed, so what is no answer comes from an arithmetic operator, and the
operands that it was given say why: `Strains` lists what is too much for an operator, and the fault of an
expression that escapes is traced back to one of its operators.
-/
namespace Helpdesk.Condition

variable {ε α β : Type}

/-- A computation whose faults satisfy a condition. -/
def FaultsWithin (Q : ε → Prop) (x : Except ε α) : Prop :=
  ∀ fault, x = .error fault → Q fault

namespace FaultsWithin

variable {Q R : ε → Prop}

theorem ok (a : α) : FaultsWithin Q (.ok a) :=
  nofun

theorem error {fault : ε} (h : Q fault) : FaultsWithin Q (.error fault : Except ε α) := by
  rintro _ ⟨⟩
  exact h

theorem bind {x : Except ε α} {next : α → Except ε β} (hx : FaultsWithin Q x)
    (hnext : ∀ a, x = .ok a → FaultsWithin Q (next a)) : FaultsWithin Q (x >>= next) := by
  rcases x with fault | a
  · exact error (hx fault rfl)
  · exact hnext a rfl

theorem map {x : Except ε α} (f : α → β) (hx : FaultsWithin Q x) : FaultsWithin Q (x.map f) := by
  rcases x with fault | a
  · exact error (hx fault rfl)
  · exact ok (f a)

theorem mono {x : Except ε α} (hx : FaultsWithin Q x) (h : ∀ fault, Q fault → R fault) :
    FaultsWithin R x :=
  fun fault hfault => h fault (hx fault hfault)

end FaultsWithin

/-- An evaluation that has a value, or a fault that counts as the answer "no". -/
abbrev FailsClosed (x : Evaluation α) : Prop :=
  FaultsWithin (fun fault => fault.failsClosed = true) x

/-! ## Operators that fail closed -/

theorem failsClosed_ofOperator {result : Except OperatorFault α}
    (h : FaultsWithin (fun fault => (EvaluationFault.operator fault).failsClosed = true) result) :
    FailsClosed (Evaluation.ofOperator result) := by
  rcases result with fault | a
  · exact .error (h fault rfl)
  · exact .ok a

theorem failsClosed_unreadable (key : Operand) (kind : Kind) :
    (unreadable key kind).failsClosed = true := by
  unfold unreadable
  split <;> rfl

theorem failsClosed_lookUp (container key : Operand) : FailsClosed (lookUp container key) := by
  unfold lookUp
  split
  · split
    · exact .error rfl
    · split <;> exact .ok _
  · split
    · exact .error (failsClosed_unreadable _ _)
    · split
      · exact .ok _
      · split
        · exact .ok _
        · exact .error (failsClosed_unreadable _ _)

theorem failsClosed_signed (negative : Bool) (a : Operand) :
    FailsClosed (Evaluation.ofOperator (a.signed negative)) := by
  refine failsClosed_ofOperator ?_
  unfold Operand.signed
  split
  · exact .ok _
  · split
    · exact .ok _
    · exact .error rfl

theorem failsClosed_applyUnary (op : UnaryOp) (a : Operand) : FailsClosed (applyUnary op a) := by
  cases op with
  | not => exact .ok _
  | negate => exact failsClosed_signed true a
  | plus => exact failsClosed_signed false a
  | complement => exact .error rfl

theorem failsClosed_isIn (item container : Operand) :
    FaultsWithin (fun fault => (EvaluationFault.operator fault).failsClosed = true)
      (item.isIn container) := by
  unfold Operand.isIn
  repeat' split
  all_goals first | exact .ok _ | exact .error rfl

theorem failsClosed_ordered (accept : Ordering → Bool) (a b : Operand) :
    FailsClosed (ordered accept a b) := by
  unfold ordered
  split
  · exact .ok _
  · exact .error rfl

theorem failsClosed_applyComparison (op : Comparison) (sameSource : Bool) (a b : Operand) :
    FailsClosed (applyComparison op sameSource a b) := by
  cases op with
  | equal | unequal | same | notSame => exact .ok _
  | less | lessEqual | greater | greaterEqual => exact failsClosed_ordered _ a b
  | isIn => exact failsClosed_ofOperator (failsClosed_isIn a b)
  | notIn => exact failsClosed_ofOperator (.map _ (failsClosed_isIn a b))

/-! ## Operands that are too much -/

/-- The number of items of an operand that a factor repeats. -/
def Operand.runLength? : Operand → Option Nat
  | .text s => some s.toList.length
  | .bytes bs => some bs.length
  | .list items => some items.length
  | _ => Option.none

/-- Texts and bytes, whose percent fields a remainder fills. -/
def Operand.IsTemplate : Operand → Prop
  | .text _ => True
  | .bytes _ => True
  | _ => False

/-- Operands that are too much for an arithmetic operator, and the fault that it ends in. -/
inductive Strains : BinaryOp → Operand → Operand → OperatorFault → Prop where
  /-- An integer beyond the range of floats is turned into a float. -/
  | beyondFloats {op : BinaryOp} {a b : Operand} (n : Int) :
      a.integer? = some n ∨ b.integer? = some n → Decimal.floatOfInt? n = none →
      Strains op a b .overflow
  /-- The quotient of two integers is beyond the range of floats. -/
  | quotient {a b : Operand} (m n : Int) : a.integer? = some m → b.integer? = some n → n ≠ 0 →
      Decimal.nearestToRatio m.natAbs n.natAbs = none → Strains .divide a b .overflow
  /-- A run is repeated beyond what can be counted or held. -/
  | repetition {a b : Operand} {fault : OperatorFault} (length : Nat) (times : Int) :
      a.runLength? = some length ∧ b.integer? = some times ∨
        b.runLength? = some length ∧ a.integer? = some times →
      Percent.maxSize < times.natAbs ∨ Operand.maxRepeated < length * times.toNat →
      fault = .overflow ∨ fault = .tooLarge → Strains .multiply a b fault
  /-- A template asks for a name that is missing, or for a number to be written that is too large. -/
  | template {a b : Operand} {fault : OperatorFault} : a.IsTemplate →
      fault = .missingName ∨ fault = .overflow → Strains .remainder a b fault

/-- Whether a fault of an operator on two operands counts as "no", or else the operands strain it. -/
def Excused (op : BinaryOp) (a b : Operand) (fault : EvaluationFault) : Prop :=
  fault.failsClosed = true ∨ ∃ cause, fault = .operator cause ∧ Strains op a b cause

section

variable {op : BinaryOp} {a b : Operand}

theorem excused_ofOperator {result : OperatorResult}
    (h : FaultsWithin (fun fault => Excused op a b (.operator fault)) result) :
    FaultsWithin (Excused op a b) (Evaluation.ofOperator result) := by
  rcases result with fault | x
  · exact .error (h fault rfl)
  · exact .ok x

theorem excused_of_strains {fault : OperatorFault} (h : Strains op a b fault) :
    Excused op a b (.operator fault) :=
  Or.inr ⟨fault, rfl, h⟩

theorem excused_kindMismatch : Excused op a b (.operator .kindMismatch) :=
  Or.inl rfl

theorem excused_divisionByZero : Excused op a b (.operator .divisionByZero) :=
  Or.inl rfl

/-! ### Numbers -/

theorem integer?_of_number? {n : Int} (h : a.number? = some (.int n)) : a.integer? = some n := by
  cases a <;> cases h <;> rfl

/-- The overflow of an integer among two numbers that is beyond the range of floats. -/
def WideInteger (m n : Number) (fault : ArithmeticFault) : Prop :=
  fault = .overflow ∧ ∃ k, (m = .int k ∨ n = .int k) ∧ Decimal.floatOfInt? k = none

theorem toFloat_error {n : Number} {fault : ArithmeticFault} (h : n.toFloat = .error fault) :
    fault = .overflow ∧ ∃ k, n = .int k ∧ Decimal.floatOfInt? k = none := by
  rcases n with k | x
  · rcases hfloat : Decimal.floatOfInt? k with _ | y
    · rw [Number.toFloat, hfloat] at h
      cases h
      exact ⟨rfl, k, rfl, hfloat⟩
    · rw [Number.toFloat, hfloat] at h
      cases h
  · cases h

theorem faults_toFloat_left (m n : Number) : FaultsWithin (WideInteger m n) m.toFloat := by
  intro fault hfault
  obtain ⟨rfl, k, hk, hnone⟩ := toFloat_error hfault
  exact ⟨rfl, k, Or.inl hk, hnone⟩

theorem faults_toFloat_right (m n : Number) : FaultsWithin (WideInteger m n) n.toFloat := by
  intro fault hfault
  obtain ⟨rfl, k, hk, hnone⟩ := toFloat_error hfault
  exact ⟨rfl, k, Or.inr hk, hnone⟩

theorem faults_lift (onInts : Int → Int → Int) (onFloats : Float → Float → Float) (m n : Number) :
    FaultsWithin (WideInteger m n) (Number.lift onInts onFloats m n) := by
  unfold Number.lift
  split
  · exact .ok _
  · exact .bind (faults_toFloat_left m n) fun _ _ => .bind (faults_toFloat_right m n) fun _ _ => .ok _

theorem faults_remainderFloats (x y : Float) :
    FaultsWithin (· = .divisionByZero) (Number.remainderFloats x y) := by
  unfold Number.remainderFloats
  split
  · exact .error rfl
  · dsimp only
    repeat' split
    all_goals exact .ok _

theorem faults_remainder (m n : Number) :
    FaultsWithin (fun fault => fault = .divisionByZero ∨ WideInteger m n fault) (m.remainder n) := by
  unfold Number.remainder
  split
  · split
    · exact .error (Or.inl rfl)
    · exact .ok _
  · refine .bind ((faults_toFloat_left m n).mono fun _ => Or.inr) fun x _ => ?_
    refine .bind ((faults_toFloat_right m n).mono fun _ => Or.inr) fun y _ => ?_
    exact .bind ((faults_remainderFloats x y).mono fun _ => Or.inl) fun _ _ => .ok _

/-- The overflow of the quotient of two integers. -/
def WideQuotient (m n : Number) (fault : ArithmeticFault) : Prop :=
  fault = .overflow ∧ ∃ i j, m = .int i ∧ n = .int j ∧ j ≠ 0 ∧
    Decimal.nearestToRatio i.natAbs j.natAbs = none

theorem faults_divide (m n : Number) :
    FaultsWithin (fun fault => fault = .divisionByZero ∨ WideInteger m n fault ∨ WideQuotient m n fault)
      (m.divide n) := by
  unfold Number.divide
  split
  · rename_i i j
    unfold Number.divideInts
    split
    · exact .error (Or.inl rfl)
    · rename_i hzero
      split
      · exact .ok _
      · rename_i hnone
        exact .error (Or.inr (Or.inr ⟨rfl, i, j, rfl, rfl, hzero, hnone⟩))
  · refine .bind ((faults_toFloat_left m n).mono fun _ h => Or.inr (Or.inl h)) fun x _ => ?_
    refine .bind ((faults_toFloat_right m n).mono fun _ h => Or.inr (Or.inl h)) fun y _ => ?_
    split
    · exact .error (Or.inl rfl)
    · exact .ok _

theorem excused_wideInteger {m n : Number} (ha : a.number? = some m) (hb : b.number? = some n)
    {fault : ArithmeticFault} (h : WideInteger m n fault) :
    Excused op a b (.operator (.ofArithmetic fault)) := by
  obtain ⟨rfl, k, rfl | rfl, hnone⟩ := h
  · exact excused_of_strains (.beyondFloats k (Or.inl (integer?_of_number? ha)) hnone)
  · exact excused_of_strains (.beyondFloats k (Or.inr (integer?_of_number? hb)) hnone)

theorem excused_lift {onInts : Int → Int → Int} {onFloats : Float → Float → Float} {m n : Number}
    (ha : a.number? = some m) (hb : b.number? = some n) :
    FaultsWithin (fun fault => Excused op a b (.operator fault))
      (Operand.ofArithmetic (Number.lift onInts onFloats m n)) := by
  rcases hlift : Number.lift onInts onFloats m n with fault | x
  · exact .error (excused_wideInteger ha hb (faults_lift onInts onFloats m n fault hlift))
  · exact .ok _

/-! ### Complex numbers -/

theorem parts?_error {fault : ArithmeticFault} (h : a.parts? = some (.error fault)) :
    ∃ k, a.integer? = some k ∧ Decimal.floatOfInt? k = none := by
  have hnumber : a.number?.map (fun n => n.toFloat.map fun x => (x, (0.0 : Float))) =
      some (.error fault) := by
    cases a <;> first | exact h | cases h
  obtain ⟨n, hn, hfloat⟩ := Option.map_eq_some_iff.mp hnumber
  rcases hnum : n.toFloat with fault' | x
  · obtain ⟨-, k, rfl, hnone⟩ := toFloat_error hnum
    exact ⟨k, integer?_of_number? hn, hnone⟩
  · rw [hnum] at hfloat
    cases hfloat

theorem excused_complexly
    {f : Float × Float → Float × Float → Except OperatorFault (Float × Float)}
    (hf : ∀ x y, FaultsWithin (fun fault => Excused op a b (.operator fault)) (f x y)) :
    FaultsWithin (fun fault => Excused op a b (.operator fault)) (Operand.complexly f a b) := by
  unfold Operand.complexly
  split
  · exact .map _ (hf _ _)
  · rename_i x y hnot hx hy
    rcases x with fault | x
    · obtain ⟨k, hk, hnone⟩ := parts?_error hx
      exact .error (excused_of_strains (.beyondFloats k (Or.inl hk) hnone))
    rcases y with fault | y
    · obtain ⟨k, hk, hnone⟩ := parts?_error hy
      exact .error (excused_of_strains (.beyondFloats k (Or.inr hk) hnone))
    · exact (hnot x y rfl rfl).elim
  · exact .error excused_kindMismatch

theorem excused_complexQuotient (x y : Float × Float) :
    FaultsWithin (fun fault => Excused op a b (.operator fault)) (Operand.complexQuotient x y) := by
  obtain ⟨p, q⟩ := x
  obtain ⟨r, s⟩ := y
  unfold Operand.complexQuotient
  repeat' split
  all_goals first | exact .ok _ | exact .error excused_divisionByZero

/-! ### Repetitions -/

theorem repeated_error {tooLong : OperatorFault} {run : List α} {times : Int} {fault : OperatorFault}
    (h : Operand.repeated tooLong run times = .error fault) :
    (Percent.maxSize < times.natAbs ∨ Operand.maxRepeated < run.length * times.toNat) ∧
      (fault = .overflow ∨ fault = tooLong ∨ fault = .tooLarge) := by
  have hmax : Operand.maxRepeated < Percent.maxSize := by decide
  unfold Operand.repeated at h
  split at h
  · rename_i htimes
    cases h
    exact ⟨Or.inl htimes, Or.inl rfl⟩
  · dsimp only at h
    split at h
    · cases h
    · split at h
      · rename_i hsize
        cases h
        exact ⟨Or.inr (Nat.lt_trans hmax hsize), Or.inr (Or.inl rfl)⟩
      · split at h
        · rename_i hsize
          cases h
          exact ⟨Or.inr hsize, Or.inr (Or.inr rfl)⟩
        · cases h

theorem map_eq_error {f : α → β} {x : Except ε α} {fault : ε} (h : x.map f = .error fault) :
    x = .error fault := by
  rcases x with fault' | a
  · cases h
    rfl
  · cases h

theorem repeat?_error {times : Int} {fault : OperatorFault}
    (h : a.repeat? times = some (.error fault)) :
    ∃ length, a.runLength? = some length ∧
      (Percent.maxSize < times.natAbs ∨ Operand.maxRepeated < length * times.toNat) ∧
      (fault = .overflow ∨ fault = .tooLarge) := by
  cases a <;> first | cases h | skip
  all_goals
    obtain ⟨hsize, hfault⟩ := repeated_error (map_eq_error (Option.some.inj h))
    exact ⟨_, rfl, hsize, by simpa using hfault⟩

/-! ### Templates -/

namespace Percent

/-- Whatever goes wrong in filling a template, it is not the size of the result. -/
abbrev Fills (x : Result α) : Prop :=
  FaultsWithin (· ≠ .tooLarge) x

theorem fills_take (supply : Supply) : Fills supply.take := by
  unfold Supply.take
  split
  · exact .error nofun
  · exact .ok _

theorem fills_readSize (limit : Nat) (supply : Supply) (cs : List Char) :
    Fills (readSize limit supply cs) := by
  unfold readSize
  split
  · refine .bind (fills_take supply) fun taken _ => ?_
    obtain ⟨x, supply⟩ := taken
    dsimp only
    split
    · split
      · exact .ok _
      · exact .error (by decide)
    · exact .error (by decide)
  · dsimp only
    split
    · exact .ok _
    · exact .error (by decide)

theorem fills_readLayout (supply : Supply) (cs : List Char) : Fills (readLayout supply cs) := by
  unfold readLayout
  refine .bind (fills_readSize maxSize supply _) fun read _ => ?_
  obtain ⟨width, supply, cs⟩ := read
  dsimp only
  split
  · refine .bind (fills_readSize maxPrecision supply _) fun _ _ => .ok _
  · exact .ok _

theorem fills_named (bytes : Bool) (whole : Operand) (name : List Char) :
    Fills (named bytes whole name) := by
  unfold named
  split
  · split
    · exact .error nofun
    · rcases List.lookup (String.ofList name) _ with _ | x
      · exact .error nofun
      · exact .ok x
  · exact .error nofun

theorem fills_readTaker (bytes : Bool) (supply : Supply) (cs : List Char) :
    Fills (readTaker bytes supply cs) := by
  unfold readTaker
  split
  · split
    · exact .error nofun
    · split
      · exact .error nofun
      · exact .bind (fills_named bytes supply.whole _) fun _ _ => .ok _
  · exact .ok _

theorem fills_integer (x : Operand) (f : Int → β) :
    Fills (x.integer?.elim (.error .kindMismatch) fun n => .ok (f n)) := by
  rcases x.integer? with _ | n
  · exact .error nofun
  · exact .ok _

theorem fills_wholeNumber (x : Operand) : Fills (wholeNumber x) := by
  unfold wholeNumber
  split
  · split
    · exact .ok _
    · split <;> exact .error nofun
  · exact fills_integer _ id

theorem fills_character (bytes : Bool) (x : Operand) : Fills (character bytes x) := by
  unfold character
  repeat' split
  all_goals first | exact .ok _ | exact .error nofun

theorem fills_writtenAs (x : Operand) (text : α) : Fills (x.writtenAs text) := by
  unfold Operand.writtenAs
  split
  · exact .ok _
  · exact .error nofun

theorem fills_write (bytes : Bool) (layout : Layout) (letter : Char) (x : Operand) :
    Fills (write bytes layout letter x) := by
  unfold write
  split
  · exact .bind (fills_writtenAs x _) fun _ _ => .ok _
  split
  · split
    · exact .bind (fills_writtenAs _ _) fun _ _ => .ok _
    · exact .ok _
    · exact .error nofun
  split
  · exact .bind (fills_wholeNumber x) fun n _ => fills_writtenAs _ _
  split
  · exact fills_integer x _
  split
  · split
    · exact .error nofun
    · split
      · exact .ok _
      · rename_i fault hfault
        obtain ⟨rfl, -⟩ := toFloat_error hfault
        exact .error nofun
  split
  · exact .map _ (fills_character bytes x)
  · exact .error nofun

theorem fills_fillField (bytes : Bool) (supply : Supply) (cs : List Char) :
    Fills (fillField bytes supply cs) := by
  unfold fillField
  split
  · exact .ok _
  · refine .bind (fills_readTaker bytes supply _) fun taker _ => ?_
    obtain ⟨supply, cs⟩ := taker
    refine .bind (fills_readLayout supply cs) fun read _ => ?_
    obtain ⟨layout, supply, cs⟩ := read
    dsimp only
    split
    · exact .error (by decide)
    · refine .bind (fills_take supply) fun taken _ => ?_
      exact .bind (fills_write bytes layout _ taken.1) fun _ _ => .ok _

theorem fills_fillFrom (bytes : Bool) (fuel : Nat) (supply : Supply) (cs : List Char) :
    Fills (fillFrom bytes fuel supply cs) := by
  fun_induction fillFrom bytes fuel supply cs with
  | case1 => exact .ok _
  | case2 => exact .ok _
  | case3 fuel supply rest ih =>
    refine .bind (fills_fillField bytes supply rest) fun field _ => ?_
    exact .bind (ih field.2.1 field.2.2) fun _ _ => .ok _
  | case4 fuel supply c rest _ ih =>
    exact .bind ih fun _ _ => .ok _

theorem fills_fill (bytes : Bool) (template : List Char) (operand : Operand) :
    Fills (fill bytes template operand) := by
  refine .bind (fills_fillFrom bytes _ _ template) fun filled _ => ?_
  show Fills (if _ then _ else _)
  split
  · exact .ok _
  · exact .error nofun

end Percent

theorem excused_fill (ha : a.IsTemplate) {filled : Percent.Result α} (h : Percent.Fills filled) :
    FaultsWithin (fun fault => Excused .remainder a b (.operator fault)) filled := by
  intro fault hfault
  cases fault with
  | kindMismatch | badValue | divisionByZero => exact Or.inl rfl
  | missingName => exact excused_of_strains (.template ha (Or.inl rfl))
  | overflow => exact excused_of_strains (.template ha (Or.inr rfl))
  | tooLarge => exact absurd rfl (h _ hfault)

/-! ### Every operator -/

theorem excused_add (a b : Operand) :
    FaultsWithin (fun fault => Excused op a b (.operator fault)) (a.add b) := by
  unfold Operand.add
  split
  · exact .ok _
  · exact .ok _
  · exact .ok _
  · split
    · rename_i m n hm hn
      exact excused_lift hm hn
    · exact excused_complexly fun _ _ => .ok _

theorem excused_subtract (a b : Operand) :
    FaultsWithin (fun fault => Excused op a b (.operator fault)) (a.subtract b) := by
  unfold Operand.subtract
  split
  · rename_i m n hm hn
    exact excused_lift hm hn
  · exact excused_complexly fun _ _ => .ok _

theorem excused_repeat? {times : Int} {run : Operand} {otherwise : OperatorResult}
    (hrun : run = a ∧ b.integer? = some times ∨ run = b ∧ a.integer? = some times)
    (hotherwise : FaultsWithin (fun fault => Excused .multiply a b (.operator fault)) otherwise) :
    FaultsWithin (fun fault => Excused .multiply a b (.operator fault))
      ((run.repeat? times).getD otherwise) := by
  rcases hresult : run.repeat? times with _ | fault | x
  · exact hotherwise
  · obtain ⟨length, hlength, hsize, hfault⟩ := repeat?_error hresult
    refine .error (excused_of_strains (.repetition length times ?_ hsize hfault))
    rcases hrun with ⟨rfl, htimes⟩ | ⟨rfl, htimes⟩
    · exact Or.inl ⟨hlength, htimes⟩
    · exact Or.inr ⟨hlength, htimes⟩
  · exact .ok _

theorem excused_multiply (a b : Operand) :
    FaultsWithin (fun fault => Excused .multiply a b (.operator fault)) (a.multiply b) := by
  unfold Operand.multiply
  split
  · rename_i m n hm hn
    exact excused_lift hm hn
  · have hcomplex : FaultsWithin (fun fault => Excused .multiply a b (.operator fault))
        (Operand.complexly
          (fun x y => .ok (x.1 * y.1 - x.2 * y.2, x.1 * y.2 + x.2 * y.1)) a b) :=
      excused_complexly fun _ _ => .ok _
    show FaultsWithin _ (Option.getD _ _)
    split
    · rename_i htimes
      exact excused_repeat? (Or.inl ⟨rfl, htimes⟩) hcomplex
    · rename_i htimes _
      exact excused_repeat? (Or.inr ⟨rfl, htimes⟩) hcomplex
    · exact hcomplex

theorem excused_divide (a b : Operand) :
    FaultsWithin (fun fault => Excused .divide a b (.operator fault)) (a.divide b) := by
  unfold Operand.divide
  split
  · rename_i m n hm hn
    rcases hdivide : m.divide n with fault | x
    · rcases faults_divide m n fault hdivide with rfl | hwide | ⟨rfl, i, j, rfl, rfl, hzero, hnone⟩
      · exact .error excused_divisionByZero
      · exact .error (excused_wideInteger hm hn hwide)
      · exact .error (excused_of_strains
          (.quotient i j (integer?_of_number? hm) (integer?_of_number? hn) hzero hnone))
    · exact .ok _
  · exact excused_complexly excused_complexQuotient

theorem excused_remainder (a b : Operand) :
    FaultsWithin (fun fault => Excused .remainder a b (.operator fault)) (a.remainder b) := by
  unfold Operand.remainder
  split
  · rename_i s
    exact .map _ (excused_fill (a := .text s) trivial (Percent.fills_fill _ _ _))
  · rename_i bs
    exact .map _ (excused_fill (a := .bytes bs) trivial (Percent.fills_fill _ _ _))
  · split
    · rename_i m n hm hn
      rcases hremainder : m.remainder n with fault | x
      · rcases faults_remainder m n fault hremainder with rfl | hwide
        · exact .error excused_divisionByZero
        · exact .error (excused_wideInteger hm hn hwide)
      · exact .ok _
    · exact .error excused_kindMismatch

end

/-- An arithmetic operator fails closed on operands that are not too much for it. -/
theorem excused_applyBinary (op : BinaryOp) (a b : Operand) :
    FaultsWithin (Excused op a b) (applyBinary op a b) := by
  cases op with
  | add => exact excused_ofOperator (excused_add a b)
  | subtract => exact excused_ofOperator (excused_subtract a b)
  | multiply => exact excused_ofOperator (excused_multiply a b)
  | divide => exact excused_ofOperator (excused_divide a b)
  | remainder => exact excused_ofOperator (excused_remainder a b)
  | unsupported => exact .error (Or.inl rfl)

/-! ## Expressions -/

/-- An arithmetic operator and the expressions that it stands between. -/
structure Application where
  op : BinaryOp
  left : Expr
  right : Expr

namespace Expr

mutual

/-- The arithmetic operators that the evaluation of an expression may come to. -/
def applications : Expr → List Application
  | .constant _ => []
  | .name _ => []
  | .sequence items => applicationsOfAll items
  | .all operands => applicationsOfAll operands
  | .any operands => applicationsOfAll operands
  | .unary _ e => applications e
  | .binary op l r => ⟨op, l, r⟩ :: (applications l ++ applications r)
  | .compare e rest => applications e ++ applicationsOfComparands rest
  | .attribute e _ => applications e
  | .subscript e i => applications e ++ applications i
  | .unsupported _ _ => []
  | .forbidden _ _ => []

/-- The arithmetic operators of several expressions. -/
def applicationsOfAll : List Expr → List Application
  | [] => []
  | e :: rest => applications e ++ applicationsOfAll rest

/-- The arithmetic operators in the tail of a chain of comparisons. -/
def applicationsOfComparands : List (Comparison × Expr) → List Application
  | [] => []
  | (_, e) :: rest => applications e ++ applicationsOfComparands rest

end

end Expr

/-- A fault counts as "no", or else one of some operators ended in it, on operands that strain it. -/
def ExcusedBy (bag : Entries) (applications : List Application) (fault : EvaluationFault) : Prop :=
  fault.failsClosed = true ∨ ∃ x ∈ applications, ∃ depth a b cause,
    evaluateAt bag depth x.left = .ok a ∧ evaluateAt bag depth x.right = .ok b ∧
      applyBinary x.op a b = .error fault ∧ fault = .operator cause ∧ Strains x.op a b cause

section

variable {bag : Entries}

theorem excusedBy_of_subset {some more : List Application} (h : some ⊆ more) (fault : EvaluationFault)
    (hfault : ExcusedBy bag some fault) : ExcusedBy bag more fault := by
  rcases hfault with hclosed | ⟨x, hx, hrest⟩
  · exact Or.inl hclosed
  · exact Or.inr ⟨x, h hx, hrest⟩

/-- A fault of a part is excused by the operators of the whole. -/
theorem FaultsWithin.widen {x : Evaluation α} {some more : List Application}
    (hx : FaultsWithin (ExcusedBy bag some) x) (h : some ⊆ more) :
    FaultsWithin (ExcusedBy bag more) x :=
  hx.mono (excusedBy_of_subset h)

theorem FailsClosed.excusedBy {x : Evaluation α} (hx : FailsClosed x)
    (applications : List Application) : FaultsWithin (ExcusedBy bag applications) x :=
  hx.mono fun _ => Or.inl

mutual

/-- The induction is on the expression: each form hands the faults of its operands on, and the only
operators that add a fault of another kind are the arithmetic ones. -/
theorem excused_evaluateAt (depth : Nat) (e : Expr) :
    FaultsWithin (ExcusedBy bag e.applications) (evaluateAt bag depth e) := by
  unfold evaluateAt
  split
  · exact .error (Or.inl rfl)
  · match e with
    | .constant _ => exact .ok _
    | .name id =>
      show FaultsWithin _ (Option.elim _ _ _)
      rcases (Entries.value? id bag).map Operand.ofValue with _ | a
      · exact .error (Or.inl rfl)
      · exact .ok a
    | .sequence items => exact .map _ (excused_evaluateItems (depth + 1) items)
    | .all operands => exact .map _ (excused_allCount (depth + 1) operands)
    | .any operands => exact .map _ (excused_anyCounts (depth + 1) operands)
    | .unary op e =>
      exact .bind (excused_evaluateAt (depth + 1) e) fun a _ => (failsClosed_applyUnary op a).excusedBy _
    | .binary op l r =>
      have hl : l.applications ⊆ (Expr.binary op l r).applications :=
        List.subset_cons_of_subset _ (List.subset_append_left _ _)
      have hr : r.applications ⊆ (Expr.binary op l r).applications :=
        List.subset_cons_of_subset _ (List.subset_append_right _ _)
      show FaultsWithin _ (if _ then _ else _)
      split
      · exact .error (Or.inl rfl)
      · refine .bind ((excused_evaluateAt (depth + 1) l).widen hl) fun a ha => ?_
        refine .bind ((excused_evaluateAt (depth + 1) r).widen hr) fun b hb => ?_
        intro fault hfault
        rcases excused_applyBinary op a b fault hfault with hclosed | ⟨cause, hcause, hstrains⟩
        · exact Or.inl hclosed
        · exact Or.inr ⟨⟨op, l, r⟩, List.mem_cons_self, depth + 1, a, b, cause, ha, hb, hfault, hcause,
            hstrains⟩
    | .compare e rest =>
      refine .bind ((excused_evaluateAt (depth + 1) e).widen (List.subset_append_left _ _))
        fun a _ => .map _ ?_
      exact (excused_holdsAlong (depth + 1) rest e a).widen (List.subset_append_right _ _)
    | .attribute e member =>
      exact .bind (excused_evaluateAt (depth + 1) e) fun a _ => (failsClosed_lookUp a _).excusedBy _
    | .subscript e i =>
      refine .bind ((excused_evaluateAt (depth + 1) e).widen (List.subset_append_left _ _)) fun a _ => ?_
      exact .bind ((excused_evaluateAt (depth + 1) i).widen (List.subset_append_right _ _)) fun k _ =>
        (failsClosed_lookUp a k).excusedBy _
    | .unsupported _ _ => exact .error (Or.inl rfl)
    | .forbidden _ _ => exact .error (Or.inl rfl)

theorem excused_evaluateItems (depth : Nat) :
    ∀ items : List Expr,
      FaultsWithin (ExcusedBy bag (Expr.applicationsOfAll items)) (evaluateItems bag depth items)
  | [] => .ok _
  | e :: rest =>
    .bind ((excused_evaluateAt depth e).widen (List.subset_append_left _ _)) fun _ _ =>
      .bind ((excused_evaluateItems depth rest).widen (List.subset_append_right _ _)) fun _ _ => .ok _

theorem excused_allCount (depth : Nat) :
    ∀ operands : List Expr,
      FaultsWithin (ExcusedBy bag (Expr.applicationsOfAll operands)) (allCount bag depth operands)
  | [] => .ok _
  | e :: rest => by
    refine .bind ((excused_evaluateAt depth e).widen (List.subset_append_left _ _)) fun a _ => ?_
    show FaultsWithin _ (if _ then _ else _)
    split
    · exact (excused_allCount depth rest).widen (List.subset_append_right _ _)
    · exact .ok _

theorem excused_anyCounts (depth : Nat) :
    ∀ operands : List Expr,
      FaultsWithin (ExcusedBy bag (Expr.applicationsOfAll operands)) (anyCounts bag depth operands)
  | [] => .ok _
  | e :: rest => by
    refine .bind ((excused_evaluateAt depth e).widen (List.subset_append_left _ _)) fun a _ => ?_
    show FaultsWithin _ (if _ then _ else _)
    split
    · exact .ok _
    · exact (excused_anyCounts depth rest).widen (List.subset_append_right _ _)

theorem excused_holdsAlong (depth : Nat) :
    ∀ (rest : List (Comparison × Expr)) (left : Expr) (a : Operand),
      FaultsWithin (ExcusedBy bag (Expr.applicationsOfComparands rest))
        (holdsAlong bag depth left a rest)
  | [], _, _ => .ok _
  | (op, right) :: rest, left, a => by
    refine .bind ((excused_evaluateAt depth right).widen (List.subset_append_left _ _)) fun b _ => ?_
    refine .bind ((failsClosed_applyComparison op _ a b).excusedBy _) fun holds _ => ?_
    show FaultsWithin _ (if _ then _ else _)
    split
    · exact (excused_holdsAlong depth rest right b).widen (List.subset_append_right _ _)
    · exact .ok _

end

end

/-! ## Conditions -/

section

variable {expression : String} {e : Expr} {bag : Entries}

end

/-- Asking gives a boolean: what the value counts as, and "no" for whatever goes wrong. -/
def Answers (c : Condition) (e : Expr) (bag : Entries) : Prop :=
  ∃ holds, (c.ask bag).answer = .ok holds ∧ (∀ a, evaluate bag e = .ok a → holds = a.counts) ∧
    ∀ fault, evaluate bag e = .error fault → holds = false

/-- A name that a template asks for and no entry has. -/
def missingEntry : Expr :=
  .binary .remainder (.constant (.text "%(a)s")) (.name "t")

end Helpdesk.Condition
