import TextCriteria.Failure.Basic
import TextCriteria.Text.Ascii

namespace TextCriteria.Document

open TextCriteria.Text

/-!
# Dates and moments in documents

* `Timestamp.read?` — the parts of a date, or of a date with a time of day and a zone.
* `Timestamp.value` — the date or moment, if there is one with these parts.
-/

/-- The offset of a zone: its sign, hours and minutes. -/
structure ZoneOffset where
  negative : Bool
  hours : Nat
  minutes : Nat
  deriving DecidableEq, Repr

/-- A time of day as it is written. -/
structure WrittenTime where
  hour : Nat
  minute : Nat
  second : Nat
  microsecond : Nat
  zone : Option (Option ZoneOffset)
  deriving DecidableEq, Repr

/-- A date, maybe with a time of day, as it is written. -/
structure Timestamp where
  date : CalendarDate
  time : Option WrittenTime
  deriving DecidableEq, Repr

namespace Timestamp

/-- A number of digits within bounds at the start of a text. -/
def digits? (least most : Nat) (s : List Char) : Option (Nat × List Char) :=
  let (ds, rest) := readAtMost isAsciiDigit most s
  if ds.length < least then none else some (ofDigits 10 ds, rest)

/-- What follows a character. -/
def after? (c : Char) : List Char → Option (List Char)
  | [] => none
  | d :: rest => if c == d then some rest else none

/-- What follows blanks. -/
def skipBlanks (s : List Char) : List Char := s.dropWhile fun c => c == ' ' || c == '\t'

/-- What stands between a date and a time of day. -/
def gap? : List Char → Option (List Char)
  | 'T' :: rest => some rest
  | 't' :: rest => some rest
  | ' ' :: rest => some (skipBlanks rest)
  | '\t' :: rest => some (skipBlanks rest)
  | _ => none

/-- A fraction of a second in microseconds, of which further digits are dropped. -/
def fraction (s : List Char) : Nat × List Char :=
  match s with
  | '.' :: rest =>
    let ds := (rest.takeWhile isAsciiDigit).take 6
    (ofDigits 10 (ds ++ List.replicate (6 - ds.length) '0'), rest.dropWhile isAsciiDigit)
  | s => (0, s)

/-- The minutes of an offset, if there are any. -/
def zoneMinutes? (s : List Char) : Option Nat :=
  match s with
  | [] => some 0
  | ':' :: rest =>
    match digits? 2 2 rest with
    | some (m, []) => some m
    | _ => none
  | _ => none

/-- A zone at the end of a text, if there is one. -/
def zone? (s : List Char) : Option (Option (Option ZoneOffset)) :=
  if s.isEmpty then some none
  else match skipBlanks s with
    | ['Z'] => some (some none)
    | c :: rest =>
      if c == '-' || c == '+' then do
        let (hours, rest) ← digits? 1 2 rest
        let minutes ← zoneMinutes? rest
        some (some (some ⟨c == '-', hours, minutes⟩))
      else none
    | [] => none

/-- A time of day at the end of a text. -/
def time? (s : List Char) : Option WrittenTime := do
  let (hour, s) ← digits? 1 2 (← gap? s)
  let (minute, s) ← digits? 2 2 (← after? ':' s)
  let (second, s) ← digits? 2 2 (← after? ':' s)
  let (microsecond, s) := fraction s
  some { hour, minute, second, microsecond, zone := ← zone? s }

/-- The parts of a date with or without a time of day. -/
def read? (s : List Char) : Option Timestamp := do
  let (year, s) ← digits? 4 4 s
  let (month, s) ← digits? 1 2 (← after? '-' s)
  let (day, s) ← digits? 1 2 (← after? '-' s)
  let date : CalendarDate := ⟨year, month, day⟩
  if s.isEmpty then some ⟨date, none⟩ else some ⟨date, some (← time? s)⟩

/-- Whether a year has a day more. -/
def isLeap (year : Nat) : Bool := year % 4 == 0 && (year % 100 != 0 || year % 400 == 0)

/-- The number of days of a month. -/
def daysIn (year month : Nat) : Nat :=
  if month == 2 then if isLeap year then 29 else 28
  else if [4, 6, 9, 11].contains month then 30 else 31

/-- A part is out of its range. -/
def refuse {α : Type} (text : String) : Except Failure α := .error (.outOfRange text)

/-- A date that exists. -/
def checkDate (d : CalendarDate) : Except Failure CalendarDate :=
  if d.year == 0 then refuse ("year " ++ toString d.year ++ " is out of range")
  else if d.month < 1 || 12 < d.month then refuse "month must be in 1..12"
  else if d.day < 1 || daysIn d.year d.month < d.day then refuse "day is out of range for month"
  else .ok d

/-- A span of seconds in days and seconds, as a message shows it. -/
def spanText (seconds : Int) : String :=
  let days := seconds.fdiv 86400
  let rest := seconds.fmod 86400
  "datetime.timedelta(" ++ (if days == 0 && rest != 0 then "" else "days=" ++ toString days) ++
    (if days != 0 && rest != 0 then ", " else "") ++
    (if rest == 0 then "" else "seconds=" ++ toString rest) ++ ")"

/-- The seconds of an offset, which has to be shorter than a day. -/
def offset (z : ZoneOffset) : Except Failure Int :=
  let size : Int := z.hours * 3600 + z.minutes * 60
  let seconds := if z.negative then -size else size
  if 86400 ≤ size then
    refuse ("offset must be a timedelta strictly between -timedelta(hours=24) and " ++
      "timedelta(hours=24), not " ++ spanText seconds ++ ".")
  else .ok seconds

/-- A time of day that exists. -/
def checkTime (t : WrittenTime) (offset : Option Int) : Except Failure ClockTime :=
  if 23 < t.hour then refuse "hour must be in 0..23"
  else if 59 < t.minute then refuse "minute must be in 0..59"
  else if 59 < t.second then refuse "second must be in 0..59"
  else .ok { hour := t.hour, minute := t.minute, second := t.second, microsecond := t.microsecond,
             offset }

/-- The date or moment with some parts. The zone is checked first. -/
def value (t : Timestamp) : Except Failure Value :=
  match t.time with
  | none => do .ok (.date (← checkDate t.date))
  | some w => do
    let zone ← match w.zone with
      | none => .ok none
      | some none => .ok (some 0)
      | some (some z) => (offset z).map some
    let date ← checkDate t.date
    .ok (.moment date (← checkTime w zone))

end Timestamp
end TextCriteria.Document
