import TextCriteria.Decimal.Rounded
import TextCriteria.Value

namespace TextCriteria.Log

open TextCriteria.Decimal

/-!
# Moments and how they are written

Moments are counted in seconds from the start of 1970, without leap seconds and in the zone of Greenwich.

* `civil` — the date of a day; `dayNumber`, the day of a date.
* `Moment.ofSeconds`, `Moment.rounded` — the second, and the nearest microsecond, of a number.
* `Moment.write` — a moment in a template of letters after percent signs.
-/

/-! ### Dates -/

/-- The days from the start of 1970 to a date in the calendar that is in use today. -/
def dayNumber (d : CalendarDate) : Int :=
  let y : Int := if d.month ≤ 2 then d.year - 1 else d.year
  let era := y.fdiv 400
  let yearOfEra := y - era * 400
  let month : Int := if d.month ≤ 2 then d.month + 9 else d.month - 3
  let dayOfYear := (153 * month + 2) / 5 + d.day - 1
  era * 146097 + yearOfEra * 365 + yearOfEra / 4 - yearOfEra / 100 + dayOfYear - 719468

/-- The date of a day. -/
def civil (days : Int) : CalendarDate :=
  let z := days + 719468
  let era := z.fdiv 146097
  let dayOfEra := z - era * 146097
  let yearOfEra := (dayOfEra - dayOfEra / 1460 + dayOfEra / 36524 - dayOfEra / 146096) / 365
  let dayOfYear := dayOfEra - (365 * yearOfEra + yearOfEra / 4 - yearOfEra / 100)
  let month := (5 * dayOfYear + 2) / 153
  let day := dayOfYear - (153 * month + 2) / 5 + 1
  let year := yearOfEra + era * 400 + (if month < 10 then 0 else 1)
  ⟨year.toNat, (if month < 10 then month + 3 else month - 9).toNat, day.toNat⟩

/-! ### Moments -/

/-- A date and a time of day, with the fraction in microseconds where it is known. -/
structure Moment where
  seconds : Int
  microsecond : Option Nat
  deriving DecidableEq, Repr

/-- The whole part of a floating-point number, towards zero. -/
def wholeSeconds (x : Float) : Int :=
  let f := Fraction.ofFloat x
  let n : Int := (f.num / f.den : Nat)
  if x < 0 then -n else n

/-- The nearest whole number of a floating-point number; halves go to the even neighbour. -/
def nearest (x : Float) : Int :=
  let n : Int := (Fraction.ofFloat x).roundAt 0
  if x < 0 then -n else n

/-- The floating-point number that a value is. -/
def numberOf : Value → Float
  | .int n => Float.ofInt n
  | .bool b => if b then 1.0 else 0.0
  | .float x => x
  | _ => 0.0

namespace Moment

/-- The second that a number of seconds falls into. -/
def ofSeconds (created : Value) : Moment :=
  match created with
  | .int n => ⟨n, none⟩
  | v =>
    let x := numberOf v
    let n := wholeSeconds x
    ⟨if Float.ofInt n == x || 0 < x then n else n - 1, none⟩

/-- The microsecond that is nearest to a number of seconds. -/
def rounded (created : Value) : Moment :=
  match created with
  | .int n => ⟨n, some 0⟩
  | v =>
    let x := numberOf v
    let n := wholeSeconds x
    let micros := nearest ((x - Float.ofInt n) * 1000000.0)
    let total := n * 1000000 + micros
    ⟨total.fdiv 1000000, some (total.fmod 1000000).toNat⟩

/-- The date of a moment. -/
def date (m : Moment) : CalendarDate := civil (m.seconds.fdiv 86400)

/-- The second of the day. -/
def secondOfDay (m : Moment) : Nat := (m.seconds.fmod 86400).toNat

/-- The hour of the day. -/
def hour (m : Moment) : Nat := m.secondOfDay / 3600

/-- The minute of the hour. -/
def minute (m : Moment) : Nat := m.secondOfDay / 60 % 60

/-- The second of the minute. -/
def second (m : Moment) : Nat := m.secondOfDay % 60

/-- The hour on a dial of twelve. -/
def dialHour (m : Moment) : Nat := if m.hour % 12 == 0 then 12 else m.hour % 12

/-- The day of the week, from Sunday on. -/
def weekday (m : Moment) : Nat := ((m.seconds.fdiv 86400 + 4).fmod 7).toNat

/-- The day of the year, from zero on. -/
def dayOfYear (m : Moment) : Nat :=
  (m.seconds.fdiv 86400 - dayNumber ⟨m.date.year, 1, 1⟩).toNat

/-- The week of the year where weeks begin on a day of the week. -/
def weekFrom (m : Moment) (first : Nat) : Nat :=
  (m.dayOfYear + 7 - (m.weekday + 7 - first) % 7) / 7

/-- Whether a year has a day more. -/
def isLeap (year : Nat) : Bool := year % 4 == 0 && (year % 100 != 0 || year % 400 == 0)

/-- The year and week in the count where weeks begin on Monday and belong to the year of their
    Thursday. -/
def yearAndWeek (m : Moment) : Nat × Nat :=
  let days := m.seconds.fdiv 86400
  let thursday := days - ((m.weekday + 6) % 7 : Nat) + 3
  let year := (civil thursday).year
  (year, ((thursday - dayNumber ⟨year, 1, 1⟩) / 7 + 1).toNat)

end Moment

/-! ### Writing -/

/-- The names of the days, from Sunday on. -/
def dayNames : List String :=
  ["Sunday", "Monday", "Tuesday", "Wednesday", "Thursday", "Friday", "Saturday"]

/-- The names of the months. -/
def monthNames : List String :=
  [ "January", "February", "March", "April", "May", "June", "July", "August", "September",
    "October", "November", "December"]

/-- The first three letters of a name. -/
def short (name : String) : String := String.ofList (name.toList.take 3)

/-- How a number is filled up. -/
inductive Fill
  | none
  | zeros
  | blanks
  deriving DecidableEq, Repr

/-- A number of a least width. A fill that was asked for wins over the usual one. -/
def number (asked : Option Fill) (usual : Fill) (width n : Nat) : String :=
  let s := (toString n).toList
  let gap := width - s.length
  match asked.getD usual with
  | .none => String.ofList s
  | .zeros => String.ofList (List.replicate gap '0' ++ s)
  | .blanks => String.ofList (List.replicate gap ' ' ++ s)

/-- Other templates that some letters stand for. -/
def Moment.shorthand? : Char → Option String
  | 'D' => some "%m/%d/%y"
  | 'x' => some "%m/%d/%y"
  | 'T' => some "%H:%M:%S"
  | 'X' => some "%H:%M:%S"
  | 'R' => some "%H:%M"
  | 'r' => some "%I:%M:%S %p"
  | 'F' => some "%Y-%m-%d"
  | 'c' => some "%a %b %e %H:%M:%S %Y"
  | _ => none

/-- What a letter after a percent sign stands for. -/
def Moment.letter? (m : Moment) (asked : Option Fill) (c : Char) : Option String :=
  let two (n : Nat) := number asked .zeros 2 n
  let d := m.date
  match c with
  | 'Y' => some (number asked .none 4 d.year)
  | 'C' => some (two (d.year / 100))
  | 'y' => some (two (d.year % 100))
  | 'm' => some (two d.month)
  | 'd' => some (two d.day)
  | 'e' => some (number asked .blanks 2 d.day)
  | 'H' => some (two m.hour)
  | 'I' => some (two m.dialHour)
  | 'k' => some (number asked .blanks 2 m.hour)
  | 'l' => some (number asked .blanks 2 m.dialHour)
  | 'M' => some (two m.minute)
  | 'S' => some (two m.second)
  | 'j' => some (number asked .zeros 3 (m.dayOfYear + 1))
  | 'p' => some (if m.hour < 12 then "AM" else "PM")
  | 'P' => some (if m.hour < 12 then "am" else "pm")
  | 'a' => some (short (dayNames.getD m.weekday ""))
  | 'A' => some (dayNames.getD m.weekday "")
  | 'b' => some (short (monthNames.getD (d.month - 1) ""))
  | 'h' => some (short (monthNames.getD (d.month - 1) ""))
  | 'B' => some (monthNames.getD (d.month - 1) "")
  | 'w' => some (number asked .zeros 1 m.weekday)
  | 'u' => some (number asked .zeros 1 (if m.weekday == 0 then 7 else m.weekday))
  | 'U' => some (two (m.weekFrom 0))
  | 'W' => some (two (m.weekFrom 1))
  | 'G' => some (number asked .none 4 m.yearAndWeek.1)
  | 'g' => some (two (m.yearAndWeek.1 % 100))
  | 'V' => some (two m.yearAndWeek.2)
  | 's' => some (toString m.seconds)
  | 'n' => some "\n"
  | 't' => some "\t"
  | '%' => some "%"
  | 'f' => m.microsecond.map fun n => number none .zeros 6 n
  | 'z' => some (if m.microsecond.isSome then "" else "+0000")
  | 'Z' => some (if m.microsecond.isSome then "" else "UTC")
  | _ => none

/-- The fill that a character after a percent sign asks for. -/
def fillFlag? : Char → Option Fill
  | '-' => some .none
  | '_' => some .blanks
  | '0' => some .zeros
  | _ => none

/-- A template in which shorthands are written out. -/
def expandShorthands : List Char → List Char
  | '%' :: c :: rest =>
    match Moment.shorthand? c with
    | some t => t.toList ++ expandShorthands rest
    | none => '%' :: c :: expandShorthands rest
  | c :: rest => c :: expandShorthands rest
  | [] => []

/-- What was read of a place: nothing, a percent sign, or a percent sign and a flag. -/
inductive Awaiting
  | text
  | letter
  | flagged (c : Char) (fill : Fill)
  deriving DecidableEq, Repr

/-- A moment in a template without shorthands. What no letter stands for stays as it is. -/
def Moment.writeChars (m : Moment) : Awaiting → List Char → String
  | .text, [] => ""
  | .letter, [] => "%"
  | .flagged f _, [] => String.ofList ['%', f]
  | .text, c :: rest =>
    if c == '%' then m.writeChars .letter rest else String.ofList [c] ++ m.writeChars .text rest
  | .letter, c :: rest =>
    match fillFlag? c with
    | some fill => m.writeChars (.flagged c fill) rest
    | none => (m.letter? none c).getD (String.ofList ['%', c]) ++ m.writeChars .text rest
  | .flagged f fill, c :: rest =>
    (m.letter? (some fill) c).getD (String.ofList ['%', f, c]) ++ m.writeChars .text rest

/-- A moment in a template. -/
def Moment.write (m : Moment) (template : String) : String :=
  m.writeChars .text (expandShorthands template.toList)

end TextCriteria.Log
