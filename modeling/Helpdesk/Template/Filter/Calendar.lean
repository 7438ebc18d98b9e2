import Helpdesk.Moment
import Helpdesk.Template.Filter.Text

/-!
# Helpdesk.Template.Filter.Calendar — dates written by a pattern.

A date is given as text or as the seconds since the beginning of 1970. Text that is no date is left
as it is. A pattern is text in which a percent sign and a letter stand for a part of the date; a
letter without a meaning stands for itself, its percent sign included.
-/
namespace Helpdesk.Template.Filter

/-- The names of the days of a week, from Sunday on. -/
def dayNames : List String :=
  ["Sunday", "Monday", "Tuesday", "Wednesday", "Thursday", "Friday", "Saturday"]

/-- The names of the months of a year. -/
def monthNames : List String :=
  ["January", "February", "March", "April", "May", "June", "July", "August", "September",
    "October", "November", "December"]

/-- The name at a position, in full or as its first three letters. -/
def nameAt (names : List String) (isShort : Bool) (index : Int) : String :=
  let name := (names[index.toNat]?).getD ""
  if isShort then Text.take 3 name else name

/-- A number in at least two places, the first of them blank when it is not needed. -/
def blankPadded (n : Int) : String :=
  if n < 10 then " " ++ decimal n else decimal n

/-- A moment taken apart. -/
structure ClockParts where
  moment : Moment
  days : Int
  year : Int
  month : Int
  day : Int
  /-- Seconds since midnight. -/
  second : Int

namespace ClockParts

/-- Takes a moment apart. -/
def ofMoment (m : Moment) : ClockParts :=
  let seconds := m.clock.fdiv Moment.micros
  let days := seconds.fdiv Moment.daySeconds
  let (year, month, day) := Moment.dateOfDays days
  ⟨m, days, year, month, day, seconds.fmod Moment.daySeconds⟩

/-- The hour of the day. -/
def hour (p : ClockParts) : Int :=
  p.second.fdiv 3600

/-- The hour on a clock of twelve hours. -/
def shortHour (p : ClockParts) : Int :=
  (p.hour + 11).fmod 12 + 1

/-- The day of the week, counted from Sunday on. -/
def weekday (p : ClockParts) : Int :=
  (p.days + 4).fmod 7

/-- The day of the year, counted from zero on. -/
def yearday (p : ClockParts) : Int :=
  p.days - Moment.daysOfDate p.year 1 1

/-- The week of the year when weeks start at a day of the week; days before the first start are in
week zero. -/
def week (p : ClockParts) (firstDay : Int) : Int :=
  (p.yearday + 7 - (p.weekday - firstDay).fmod 7).fdiv 7

/-- The lead over universal time without a colon. -/
def lead (p : ClockParts) : String :=
  match p.moment.offset with
  | none => ""
  | some offset => String.ofList ((Moment.offsetText offset).toList.filter (· != ':'))

/-- The date with slashes, month first. -/
def slashed (p : ClockParts) : String :=
  Text.join "/" [Moment.padded 2 p.month, Moment.padded 2 p.day, Moment.padded 2 (p.year.fmod 100)]

/-- The minute and the second of the hour. -/
def minuteAndSecond (p : ClockParts) : String :=
  Moment.padded 2 ((p.second.fdiv 60).fmod 60) ++ ":" ++ Moment.padded 2 (p.second.fmod 60)

/-- The part of a date that a letter stands for. -/
def part? (p : ClockParts) (letter : Char) : Option String :=
  let half := if p.hour < 12 then "AM" else "PM"
  match letter with
  | 'Y' => some (decimal p.year)
  | 'y' => some (Moment.padded 2 (p.year.fmod 100))
  | 'C' => some (Moment.padded 2 (p.year.fdiv 100))
  | 'm' => some (Moment.padded 2 p.month)
  | 'B' => some (nameAt monthNames false (p.month - 1))
  | 'b' => some (nameAt monthNames true (p.month - 1))
  | 'h' => some (nameAt monthNames true (p.month - 1))
  | 'd' => some (Moment.padded 2 p.day)
  | 'e' => some (blankPadded p.day)
  | 'j' => some (Moment.padded 3 (p.yearday + 1))
  | 'A' => some (nameAt dayNames false p.weekday)
  | 'a' => some (nameAt dayNames true p.weekday)
  | 'u' => some (decimal ((p.weekday + 6).fmod 7 + 1))
  | 'w' => some (decimal p.weekday)
  | 'U' => some (Moment.padded 2 (p.week 0))
  | 'W' => some (Moment.padded 2 (p.week 1))
  | 'H' => some (Moment.padded 2 p.hour)
  | 'k' => some (blankPadded p.hour)
  | 'I' => some (Moment.padded 2 p.shortHour)
  | 'l' => some (blankPadded p.shortHour)
  | 'M' => some (Moment.padded 2 ((p.second.fdiv 60).fmod 60))
  | 'S' => some (Moment.padded 2 (p.second.fmod 60))
  | 'f' => some (Moment.padded 6 (p.moment.clock.fmod Moment.micros))
  | 'p' => some half
  | 'P' => some (Text.lower half)
  | 'D' => some p.slashed
  | 'x' => some p.slashed
  | 'F' => some (decimal p.year ++ "-" ++ Moment.padded 2 p.month ++ "-" ++ Moment.padded 2 p.day)
  | 'T' => some p.moment.timeText
  | 'X' => some p.moment.timeText
  | 'R' => some (Text.take 5 p.moment.timeText)
  | 'r' => some (Moment.padded 2 p.shortHour ++ ":" ++ p.minuteAndSecond ++ " " ++ half)
  | 'c' => some (Text.join " " [nameAt dayNames true p.weekday, nameAt monthNames true (p.month - 1),
      blankPadded p.day, p.moment.timeText, decimal p.year])
  | 's' => some (decimal (p.moment.instant.fdiv Moment.micros))
  | 'z' => some p.lead
  | 'Z' => some (if p.moment.offset.isSome then "UTC" else "")
  | 'n' => some "\n"
  | 't' => some "\t"
  | '%' => some "%"
  | _ => none

/-- A date by a pattern. -/
def format (p : ClockParts) : List Char → String
  | [] => ""
  | '%' :: letter :: rest =>
    (match p.part? letter with
      | some s => s
      | none => "%" ++ String.singleton letter) ++ p.format rest
  | c :: rest => String.singleton c ++ p.format rest

end ClockParts

/-- The month that a word names, in full or by its first three letters. -/
def monthOf? (word : String) : Option Int :=
  let name := Text.lower word
  (monthNames.findIdx? fun m =>
    Text.lower m == name || Text.lower (Text.take 3 m) == name).map fun (i : Nat) => (i : Int) + 1

/-- A whole number in ASCII digits. -/
def plainNumber? (word : String) : Option Int :=
  if !word.isEmpty && word.toList.all Char.isDigit then some (Decimal.ofDigits word.toList) else none

/-- A date in words: the month before or after the day, and the year last. -/
def wordedDate? (s : String) : Option Moment := do
  let [first, second, third] := words (replaced s.length "," " " s) | none
  let (month, day) ← match monthOf? first, monthOf? second with
    | some month, _ => (plainNumber? second).map (month, ·)
    | none, some month => (plainNumber? first).map (month, ·)
    | none, none => none
  let year ← if third.length = 4 then plainNumber? third else none
  if 1 ≤ year ∧ 1 ≤ day ∧ day ≤ Moment.daysInMonth year month then
    return ⟨Moment.daysOfDate year month day * Moment.daySeconds * Moment.micros, none⟩
  else none

/-- The moment that a text spells: digits alone are seconds. -/
def dateOf? (s : String) : Option Moment :=
  match plainNumber? s with
  | some n => some ⟨n * Moment.micros, none⟩
  | none =>
    let dashed := replaced 2 "/" "-" (Text.trim s)
    (Moment.ofIsoText? dashed.toList).or (wordedDate? s)

/-- The moment that an item stands for; `none` when it stands for none. -/
def momentOf? : Item → Option (Option Moment)
  | .text s => some (dateOf? s)
  | .int n => some (some ⟨n * Moment.micros, none⟩)
  | .bool b => some (some ⟨if b then Moment.micros else 0, none⟩)
  | _ => none

/-- Writes a date by a pattern. -/
def date? (a : Item) (pattern : Option Item) : Option Item :=
  match a, pattern with
  | .absent, _ => some (.text "")
  | a, some .absent => some (.text a.plainText)
  | a, some (.text pattern) => do
    match ← momentOf? a with
    | none => return a
    | some m => return .text ((ClockParts.ofMoment m).format pattern.toList)
  | _, _ => none

/-- The filters on dates. -/
def calendar : List Filter :=
  [⟨"date", 1, ["fmt"], fun a arguments => date? a arguments.head?.join⟩]

/-- All filters. -/
def all : List Filter :=
  arithmetic ++ sequence ++ text ++ calendar

end Helpdesk.Template.Filter
