import Helpdesk.Validation

/-!
# Helpdesk.Moment — points in time.

A moment is a date and a time of day on some clock, exact to the microsecond, and perhaps that
clock's distance from universal time. Moments with a known distance are compared as points in time
and moments without one as they stand on the clock; one of each kind cannot be compared.

Dates follow the Gregorian calendar in both directions. A moment is read from text in the usual
international form, or from the seconds since the beginning of 1970; so large a number that it
cannot be seconds is milliseconds.
-/
namespace Helpdesk

structure Moment where
  /-- Microseconds on the clock since the beginning of 1970. -/
  clock : Int
  /-- The clock's lead over universal time in seconds, when it is known. -/
  offset : Option Int
  deriving DecidableEq

namespace Moment

/-! ## Calendar -/

/-- Days from the beginning of 1970 to a date. -/
def daysOfDate (year month day : Int) : Int :=
  let y := if month ≤ 2 then year - 1 else year
  let era := y.fdiv 400
  let yearOfEra := y - era * 400
  let shifted := (month + 9).fmod 12
  let dayOfYear := (153 * shifted + 2).fdiv 5 + day - 1
  let dayOfEra := yearOfEra * 365 + yearOfEra.fdiv 4 - yearOfEra.fdiv 100 + dayOfYear
  era * 146097 + dayOfEra - 719468

/-- The date after so many days since the beginning of 1970. -/
def dateOfDays (days : Int) : Int × Int × Int :=
  let z := days + 719468
  let era := z.fdiv 146097
  let dayOfEra := z - era * 146097
  let yearOfEra :=
    (dayOfEra - dayOfEra.fdiv 1460 + dayOfEra.fdiv 36524 - dayOfEra.fdiv 146096).fdiv 365
  let dayOfYear := dayOfEra - (365 * yearOfEra + yearOfEra.fdiv 4 - yearOfEra.fdiv 100)
  let shifted := (5 * dayOfYear + 2).fdiv 153
  let day := dayOfYear - (153 * shifted + 2).fdiv 5 + 1
  let month := if shifted < 10 then shifted + 3 else shifted - 9
  let year := yearOfEra + era * 400
  (if month ≤ 2 then year + 1 else year, month, day)

/-- Whether a year has a leap day. -/
def isLeap (year : Int) : Bool :=
  year.fmod 4 == 0 && (year.fmod 100 != 0 || year.fmod 400 == 0)

/-- The number of days of a month. -/
def daysInMonth (year month : Int) : Int :=
  if month = 2 then (if isLeap year then 29 else 28)
  else if month = 4 ∨ month = 6 ∨ month = 9 ∨ month = 11 then 30
  else 31

/-- Microseconds in a second. -/
def micros : Int := 1000000

/-- Seconds in a day. -/
def daySeconds : Int := 86400

/-! ## Writing -/

/-- A number in at least so many digits. -/
def padded (width : Nat) (n : Int) : String :=
  String.ofList (Decimal.padZeros width (Decimal.digits n.natAbs))

/-- The date as year, month and day. -/
def dateText (m : Moment) : String :=
  let (year, month, day) := dateOfDays ((m.clock.fdiv micros).fdiv daySeconds)
  padded 4 year ++ "-" ++ padded 2 month ++ "-" ++ padded 2 day

/-- The time of day to the second. -/
def timeText (m : Moment) : String :=
  let second := (m.clock.fdiv micros).fmod daySeconds
  padded 2 (second.fdiv 3600) ++ ":" ++ padded 2 ((second.fdiv 60).fmod 60) ++ ":" ++
    padded 2 (second.fmod 60)

/-- The lead over universal time. -/
def offsetText (offset : Int) : String :=
  let n : Int := offset.natAbs
  (if offset < 0 then "-" else "+") ++ padded 2 (n.fdiv 3600) ++ ":" ++
    padded 2 ((n.fdiv 60).fmod 60) ++ (if n.fmod 60 = 0 then "" else ":" ++ padded 2 (n.fmod 60))

/-- A moment in the international form. -/
def text (m : Moment) : String :=
  let fraction := m.clock.fmod micros
  m.dateText ++ "T" ++ m.timeText ++ (if fraction = 0 then "" else "." ++ padded 6 fraction) ++
    (m.offset.map offsetText).getD ""

/-- Date and time of day as they stand in a transcript, where early years are not padded. -/
def stamp (m : Moment) : String :=
  let date := m.dateText.toList
  String.ofList (date.dropWhile (· == '0')) ++ " " ++ m.timeText

/-! ## Order -/

/-- Microseconds of universal time, or of the clock when its lead is not known. -/
def instant (m : Moment) : Int :=
  m.clock - m.offset.getD 0 * micros

/-- Whether two moments can be compared. -/
def comparable (a b : Moment) : Bool :=
  a.offset.isSome == b.offset.isSome

/-! ## Reading -/

/-- So many digits of ASCII at the front, as a number. -/
def readDigits (count : Nat) (cs : List Char) : Option (Int × List Char) :=
  let ds := cs.take count
  if ds.length = count ∧ ds.all Char.isDigit then some (Decimal.ofDigits ds, cs.drop count)
  else none

/-- A character at the front. -/
def expect (c : Char) : List Char → Option (List Char)
  | d :: rest => if c = d then some rest else none
  | [] => none

/-- A date, as days since the beginning of 1970. -/
def readDate (cs : List Char) : Option (Int × List Char) := do
  let (year, cs) ← readDigits 4 cs
  let cs ← expect '-' cs
  let (month, cs) ← readDigits 2 cs
  let cs ← expect '-' cs
  let (day, cs) ← readDigits 2 cs
  if 1 ≤ year ∧ 1 ≤ month ∧ month ≤ 12 ∧ 1 ≤ day ∧ day ≤ daysInMonth year month then
    return (daysOfDate year month day, cs)
  else none

/-- The microseconds after a decimal mark; digits beyond the sixth are left out. -/
def readFraction (cs : List Char) : Option (Int × List Char) :=
  match cs with
  | mark :: rest =>
    if mark = '.' ∨ mark = ',' then
      let ds := rest.takeWhile Char.isDigit
      if ds.isEmpty then none
      else
        let six := (ds ++ List.replicate 6 '0').take 6
        some (Decimal.ofDigits six, rest.drop ds.length)
    else some (0, cs)
  | [] => some (0, [])

/-- A time of day, in microseconds. -/
def readTime (cs : List Char) : Option (Int × List Char) := do
  let (hour, cs) ← readDigits 2 cs
  let cs ← expect ':' cs
  let (minute, cs) ← readDigits 2 cs
  if 24 ≤ hour ∨ 60 ≤ minute then none
  else
    let whole := (hour * 60 + minute) * 60
    match expect ':' cs with
    | none => return (whole * micros, cs)
    | some cs =>
      let (second, cs) ← readDigits 2 cs
      if 60 ≤ second then none
      else
        let (fraction, cs) ← readFraction cs
        return ((whole + second) * micros + fraction, cs)

/-- The lead over universal time, up to the end of the text. -/
def readOffset (cs : List Char) : Option (Option Int) :=
  match cs with
  | [] => some none
  | ['Z'] => some (some 0)
  | ['z'] => some (some 0)
  | sign :: rest =>
    if sign = '+' ∨ sign = '-' then do
      let (hour, rest) ← readDigits 2 rest
      let rest := (expect ':' rest).getD rest
      let (minute, rest) ← readDigits 2 rest
      if rest.isEmpty ∧ hour < 24 ∧ minute < 60 then
        let lead := (hour * 60 + minute) * 60
        return some (if sign = '-' then -lead else lead)
      else none
    else none

/-- A moment or a date in the international form. -/
def ofIsoText? (cs : List Char) : Option Moment := do
  let (days, cs) ← readDate cs
  let midnight := days * daySeconds * micros
  match cs with
  | [] => return ⟨midnight, none⟩
  | separator :: rest =>
    if ['T', 't', ' ', '_'].contains separator then
      let (time, rest) ← readTime rest
      return ⟨midnight + time, ← readOffset rest⟩
    else none

/-- The greatest number that counts seconds. -/
def watershed : Int := 20000000000

/-- The moment after so many seconds, or milliseconds when there are too many, and so many further
microseconds. Nothing before 1600 and after 9999. -/
def ofTimestamp? (count fraction : Int) : Option Moment :=
  let (second, extra) := if count.natAbs ≤ watershed.natAbs then (count, 0)
    else (count.fdiv 1000, count.fmod 1000 * 1000)
  let clock := second * micros + extra + fraction
  let total := clock.fdiv micros
  if -11676096000 ≤ total ∧ total ≤ 253402300799 then some ⟨clock, some 0⟩ else none

/-- The moment after so many seconds, where the fraction is rounded to microseconds. -/
def ofFloat? (x : Float) : Option Moment :=
  match Decimal.Binary.ofFloat? x with
  | none => none
  | some b =>
    let rest := b.numerator % b.denominator
    let whole : Int := b.numerator / b.denominator
    let floor := if b.negative then (if rest = 0 then -whole else -whole - 1) else whole
    let fraction : Int := Decimal.roundHalfEven (rest * 1000000) b.denominator
    ofTimestamp? floor fraction

/-- A number of seconds that is written as text. -/
def ofNumberText? (cs : List Char) : Option Moment :=
  let s := String.ofList cs
  let (_, ds) := Decimal.splitSign cs
  if ds.all Char.isDigit then (Decimal.spelledInt? s).bind fun n => ofTimestamp? n 0
  else if ds.all fun c => c.isDigit || c == '.' then (Decimal.spelledFloat? s).bind ofFloat?
  else none

/-- The moment that a text spells. -/
def ofText? (s : String) : Option Moment :=
  (ofIsoText? s.toList).or (ofNumberText? s.toList)

/-- Reads a moment. -/
def shape : Shape Moment
  | .text s => (ofText? s).elim (.issue .momentFromDate) .valid
  | .int n => (ofTimestamp? n 0).elim (.issue .momentParsing) .valid
  | .float x => (ofFloat? x).elim (.issue .momentParsing) .valid
  | _ => .issue .momentType

end Moment

end Helpdesk
