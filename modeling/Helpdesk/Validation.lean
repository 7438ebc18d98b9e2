import Helpdesk.Decimal.Spelled
import Helpdesk.Value.Literal

/-!
# Helpdesk.Validation — reading records out of free-form values.

A reader looks at a value and finds either what it is after or everything that is wrong with the
value: independent parts of a record are all checked, so an author sees every mistake at once. An
*issue* says where a mistake is, as a path of names and positions, and what kind of mistake it is.

Readers are lenient about scalars. An integer may be written as a whole float, as a boolean or as
text; a boolean may be written as a zero or a one or by one of a few words. Texts have to be texts.
-/
namespace Helpdesk

/-- What can be wrong with a value. -/
inductive Problem where
  | missing
  | extraForbidden
  | textType
  | textTooShort
  | textTooLong
  | intType
  | intParsing
  | intFromFloat
  | finiteNumber
  | greaterThanEqual
  | floatType
  | floatParsing
  | boolType
  | boolParsing
  | momentType
  | momentParsing
  | momentFromDate
  | listType
  | tooShort
  | tooLong
  | objectType
  | recordType
  | attributesType
  | choice
  | literal
  | tagMissing
  | tagInvalid
  | malformedJson
  deriving DecidableEq

/-- The name of a problem in a report. -/
def Problem.name : Problem → String
  | .missing => "missing"
  | .extraForbidden => "extra_forbidden"
  | .textType => "string_type"
  | .textTooShort => "string_too_short"
  | .textTooLong => "string_too_long"
  | .intType => "int_type"
  | .intParsing => "int_parsing"
  | .intFromFloat => "int_from_float"
  | .finiteNumber => "finite_number"
  | .greaterThanEqual => "greater_than_equal"
  | .floatType => "float_type"
  | .floatParsing => "float_parsing"
  | .boolType => "bool_type"
  | .boolParsing => "bool_parsing"
  | .momentType => "datetime_type"
  | .momentParsing => "datetime_parsing"
  | .momentFromDate => "datetime_from_date_parsing"
  | .listType => "list_type"
  | .tooShort => "too_short"
  | .tooLong => "too_long"
  | .objectType => "dict_type"
  | .recordType => "model_type"
  | .attributesType => "model_attributes_type"
  | .choice => "enum"
  | .literal => "literal_error"
  | .tagMissing => "union_tag_not_found"
  | .tagInvalid => "union_tag_invalid"
  | .malformedJson => "json_invalid"

/-- A mistake and its place, outermost step first. -/
structure Issue where
  place : List String
  problem : Problem
  deriving DecidableEq

/-- The issue one step further out. -/
def Issue.within (step : String) (issue : Issue) : Issue :=
  { issue with place := step :: issue.place }

/-- An issue in a report. -/
def Issue.text (issue : Issue) : String :=
  Text.join "." issue.place ++ ": " ++ issue.problem.name

/-- What a reader finds. -/
inductive Checked (α : Type) where
  | valid (a : α)
  | invalid (issues : List Issue)

namespace Checked

/-- Applies a function to what was found. -/
def map {α β : Type} (f : α → β) : Checked α → Checked β
  | .valid a => .valid (f a)
  | .invalid issues => .invalid issues

/-- Both of two findings, with the issues of both. -/
def both {α β : Type} : Checked (α → β) → Checked α → Checked β
  | .valid f, .valid a => .valid (f a)
  | .valid _, .invalid issues => .invalid issues
  | .invalid issues, .valid _ => .invalid issues
  | .invalid issues, .invalid more => .invalid (issues ++ more)

instance : Applicative Checked where
  pure := .valid
  map := Checked.map
  seq f a := both f (a ())

/-- A single issue right here. -/
def issue {α : Type} (problem : Problem) : Checked α :=
  .invalid [⟨[], problem⟩]

/-- A finding whose issues lie one step further in. -/
def within {α : Type} (step : String) : Checked α → Checked α
  | .valid a => .valid a
  | .invalid issues => .invalid (issues.map (Issue.within step))

/-- Looks further into what was found. -/
def andThen {α β : Type} (found : Checked α) (f : α → Checked β) : Checked β :=
  match found with
  | .valid a => f a
  | .invalid issues => .invalid issues

/-- What was found, if nothing was wrong. -/
def toOption {α : Type} : Checked α → Option α
  | .valid a => some a
  | .invalid _ => none

end Checked

/-- A reader of values. -/
abbrev Shape (α : Type) := Value → Checked α

namespace Shape

/-! ## Scalars -/

/-- Any value. -/
def any : Shape Value := .valid

/-- A text. -/
def text : Shape String
  | .text s => .valid s
  | _ => .issue .textType

/-- A text whose length lies between two limits. -/
def boundedText (least most : Nat) : Shape String
  | .text s =>
    if s.length < least then .issue .textTooShort
    else if most < s.length then .issue .textTooLong
    else .valid s
  | _ => .issue .textType

/-- Digits without a fraction of nothing but zeros. -/
def withoutZeroFraction (cs : List Char) : List Char :=
  let whole := cs.takeWhile (· != '.')
  if (cs.drop (whole.length + 1)).all (· == '0') then whole else cs

/-- The integer that a text spells in digits of ASCII. -/
def intOfText? (s : String) : Option Int := do
  let (negative, cs) := Decimal.splitSign (Text.trimChars s.toList)
  let ds ← Decimal.joinDigits? (withoutZeroFraction cs)
  if Decimal.maxSpelledDigits < ds.length then none
  else
    let n : Int := Decimal.ofDigits ds
    return if negative then -n else n

/-- The whole number that a float is, within the range of machine integers. -/
def intOfFloat (x : Float) : Checked Int :=
  match Decimal.Binary.ofFloat? x with
  | none => .issue .finiteNumber
  | some b =>
    let n := b.truncated
    if b.isWhole ∧ -(Nat.pow 2 63 : Int) ≤ n ∧ n < (Nat.pow 2 63 : Int) then .valid n else .issue .intFromFloat

/-- An integer. -/
def int : Shape Int
  | .int n => .valid n
  | .bool b => .valid (if b then 1 else 0)
  | .float x => intOfFloat x
  | .text s => (intOfText? s).elim (.issue .intParsing) .valid
  | _ => .issue .intType

/-- An integer of at least a limit. -/
def intAtLeast (least : Int) : Shape Int := fun v =>
  (int v).andThen fun n => if least ≤ n then .valid n else .issue .greaterThanEqual

/-- A float. -/
def float : Shape Float
  | .float x => .valid x
  | .int n => .valid ((Decimal.floatOfInt? n).getD (if n < 0 then -Decimal.infinity else Decimal.infinity))
  | .bool b => .valid (if b then 1.0 else 0.0)
  | .text s => (Decimal.spelledFloat? s).elim (.issue .floatParsing) .valid
  | _ => .issue .floatType

/-- The words for true. -/
def trueWords : List String := ["true", "t", "yes", "y", "on", "1"]

/-- The words for false. -/
def falseWords : List String := ["false", "f", "no", "n", "off", "0"]

/-- A boolean. -/
def bool : Shape Bool
  | .bool b => .valid b
  | .int n => if n = 0 then .valid false else if n = 1 then .valid true else .issue .boolParsing
  | .float x =>
    match intOfFloat x with
    | .valid n => if n = 0 then .valid false else if n = 1 then .valid true else .issue .boolParsing
    | .invalid _ => .issue .boolType
  | .text s =>
    let word := Text.lower s
    if trueWords.contains word then .valid true
    else if falseWords.contains word then .valid false
    else .issue .boolParsing
  | _ => .issue .boolType

/-- One of several names. -/
def choiceOf {α : Type} (problem : Problem) (names : List (String × α)) : Shape α
  | .text s => (names.lookup s).elim (.issue problem) .valid
  | _ => .issue problem

/-- A text that any value is turned into. -/
def asText : Shape String := fun v => .valid v.plainText

/-- A text that any value but null is turned into. -/
def asTextOrNull : Shape (Option String)
  | .null => .valid none
  | v => .valid (some v.plainText)

/-! ## Containers -/

/-- Null, or what a reader finds. -/
def orNull {α : Type} (shape : Shape α) : Shape (Option α)
  | .null => .valid none
  | v => (shape v).map some

/-- The items of a list from a position on. Past the limit on the number of good items the rest is not
looked at, and nothing else is reported. -/
def itemsFrom {α : Type} (shape : Shape α) (most : Option Nat) :
    Nat → Nat → List Value → Checked (List α)
  | _, _, [] => .valid []
  | index, good, v :: rest =>
    match (shape v).within (toString index) with
    | .valid a =>
      if most.any (· < good + 1) then .invalid [⟨[], .tooLong⟩]
      else (itemsFrom shape most (index + 1) (good + 1) rest).map (a :: ·)
    | .invalid issues =>
      match itemsFrom shape most (index + 1) good rest with
      | .valid _ => .invalid issues
      | .invalid more =>
        if more = [⟨[], .tooLong⟩] then .invalid more else .invalid (issues ++ more)

/-- A list with limits on its length. -/
def boundedList {α : Type} (shape : Shape α) (least : Nat) (most : Option Nat) : Shape (List α)
  | .list items =>
    (itemsFrom shape most 0 0 items).andThen fun found =>
      if found.length < least then .issue .tooShort else .valid found
  | _ => .issue .listType

/-- A list. -/
def list {α : Type} (shape : Shape α) : Shape (List α) :=
  boundedList shape 0 none

/-- The entries of an object. -/
def object : Shape Entries
  | .object entries => .valid entries
  | _ => .issue .objectType

/-! ## Records -/

/-- The entry that a field is read from: the first of its names that is present. -/
def present? (names : List String) (entries : Entries) : Option (String × Value) :=
  names.findSome? fun name => (Entries.value? name entries).map fun v => (name, v)

/-- A field that has to be present. -/
def required {α : Type} (names : List String) (shape : Shape α) (entries : Entries) : Checked α :=
  match present? names entries with
  | some (name, v) => (shape v).within name
  | none => .invalid [⟨[names.headD ""], .missing⟩]

/-- A field that may be left out. -/
def optional {α : Type} (names : List String) (shape : Shape α) (otherwise : α)
    (entries : Entries) : Checked α :=
  match present? names entries with
  | some (name, v) => (shape v).within name
  | none => .valid otherwise

/-- A record, read from the entries of an object. -/
def record {α : Type} (fields : Entries → Checked α) : Shape α
  | .object entries => fields entries
  | _ => .issue .recordType

end Shape

end Helpdesk
