namespace TextCriteria

/-!
# Date templates

* `DateTemplate` — the ways of writing a date that are known.
* `DateTemplate.code` — how a template is written.
* `DateTemplate.shape` — the pattern of its dates. Months run to 12 and days to 31 in every month.
-/

/-- The templates, in catalog order. -/
inductive DateTemplate
  | yearMonthDay
  | monthDayYear
  | dayMonthYear
  | timestamp
  deriving DecidableEq, Repr

namespace DateTemplate

/-- All templates in order. -/
def all : List DateTemplate := [.yearMonthDay, .monthDayYear, .dayMonthYear, .timestamp]

/-- How a template is written. -/
def code : DateTemplate → String
  | .yearMonthDay => "YYYY-MM-DD"
  | .monthDayYear => "MM/DD/YYYY"
  | .dayMonthYear => "DD/MM/YYYY"
  | .timestamp => "ISO"

/-- The name of a template. -/
def label : DateTemplate → String
  | .yearMonthDay => "YYYY_MM_DD"
  | .monthDayYear => "MM_DD_YYYY"
  | .dayMonthYear => "DD_MM_YYYY"
  | .timestamp => "ISO"

def year : String := "[0-9]\x7b4\x7d"
def month : String := "(?:0[1-9]|1[0-2])"
def day : String := "(?:0[1-9]|[12][0-9]|3[01])"

/-- The time of a timestamp: seconds may have a fraction, and the zone is `Z` or an offset. -/
def time : String :=
  "T(?:[01][0-9]|2[0-3]):[0-5][0-9]:[0-5][0-9](?:\\.[0-9]+)?" ++
    "(?:Z|[+-](?:[01][0-9]|2[0-3]):[0-5][0-9])"

/-- The pattern of a template's dates. -/
def shape : DateTemplate → String
  | .yearMonthDay => year ++ "-" ++ month ++ "-" ++ day
  | .monthDayYear => month ++ "/" ++ day ++ "/" ++ year
  | .dayMonthYear => day ++ "/" ++ month ++ "/" ++ year
  | .timestamp => year ++ "-" ++ month ++ "-" ++ day ++ time

/-- The template that is written in a given way. -/
def withCode? (code : String) : Option DateTemplate :=
  all.find? fun t => t.code == code

end DateTemplate
end TextCriteria
