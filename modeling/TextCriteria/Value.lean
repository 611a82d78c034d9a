import TextCriteria.Catalog.DateTemplate
import TextCriteria.Catalog.PhoneRegion
import TextCriteria.Catalog.PresetType
import TextCriteria.Decimal.Shortest
import TextCriteria.Text.Numeral
import TextCriteria.Text.Quoted

namespace TextCriteria

open TextCriteria.Text

/-!
# Values

Callers, configuration files and the environment hand over values of any kind. Where a text or a
number is needed, what is not one is turned into text, replaced by a default or refused.

* `Value` — the kinds of values; `Foreign`, objects of any other kind.
* `Value.isTrue` — what counts as given; nothing, zero and whatever is empty does not.
* `Value.shown?`, `Value.text?` — the two texts of a value, with and without quotes around a text. A value
  with a number of too many digits has none.
* `Value.unhashable?` — the kind of the part for which a value cannot be a key.
* `Value.orElse` — a value if it counts as given, and a default else.
* `Value.asText?` — the text that a value is already.
-/

/-- A calendar date. -/
structure CalendarDate where
  year : Nat
  month : Nat
  day : Nat
  deriving DecidableEq, Repr

/-- A time of day, with the offset of its zone in seconds if it has one. -/
structure ClockTime where
  hour : Nat
  minute : Nat
  second : Nat
  microsecond : Nat
  offset : Option Int
  deriving DecidableEq, Repr

/-- A member of a catalog. -/
inductive Choice
  | region (r : PhoneRegion)
  | template (t : DateTemplate)
  | preset (t : PresetType)
  deriving DecidableEq, Repr

/-- An object of any other kind, with what operations ask of it: the name of the kind, also with that of its
    library, whether it counts as given, its two texts, whether it can be a key, and the path that it stands
    for, if it stands for one. -/
structure Foreign where
  kind : String
  fullKind : String := kind
  isTrue : Bool := true
  text : String
  shown : String
  isKey : Bool := true
  path? : Option String := none
  deriving DecidableEq, Repr

/-- A value of any kind. The items of a set are in the order in which they are gone through. -/
inductive Value
  | null
  | bool (b : Bool)
  | int (n : Int)
  | float (x : Float)
  | str (s : String)
  | bytes (b : List UInt8)
  | list (items : List Value)
  | tuple (items : List Value)
  | set (items : List Value)
  | dict (entries : List (Value × Value))
  | choice (c : Choice)
  | date (d : CalendarDate)
  | moment (d : CalendarDate) (t : ClockTime)
  | foreign (o : Foreign)
  deriving Inhabited, Repr

namespace Choice

/-- The catalog that a member belongs to. -/
def catalog : Choice → String
  | .region _ => "PhoneRegion"
  | .template _ => "DateFormat"
  | .preset _ => "PresetType"

/-- The name of a member. -/
def label : Choice → String
  | .region r => r.key
  | .template t => t.label
  | .preset t => t.label

/-- How a member is written. -/
def code : Choice → String
  | .region r => r.code
  | .template t => t.code
  | .preset t => t.code

end Choice

/-- A number with leading zeros up to a width. -/
def zeroPadded (width n : Nat) : String :=
  let s := toString n
  String.ofList (List.replicate (width - s.length) '0') ++ s

/-- A date as year, month and day with hyphens. -/
def CalendarDate.iso (d : CalendarDate) : String :=
  zeroPadded 4 d.year ++ "-" ++ zeroPadded 2 d.month ++ "-" ++ zeroPadded 2 d.day

/-- The offset of a zone: a sign, hours and minutes, and seconds if there are any. -/
def offsetText (seconds : Int) : String :=
  let n := seconds.natAbs
  let tail := if n % 60 == 0 then "" else ":" ++ zeroPadded 2 (n % 60)
  (if seconds < 0 then "-" else "+") ++ zeroPadded 2 (n / 3600) ++ ":" ++
    zeroPadded 2 (n / 60 % 60) ++ tail

/-- A time of day with its fraction, if it has one, and its zone. -/
def ClockTime.iso (t : ClockTime) : String :=
  zeroPadded 2 t.hour ++ ":" ++ zeroPadded 2 t.minute ++ ":" ++ zeroPadded 2 t.second ++
    (if t.microsecond == 0 then "" else "." ++ zeroPadded 6 t.microsecond) ++
    (match t.offset with
    | none => ""
    | some seconds => offsetText seconds)

namespace Value

/-- The name of the kind of a value. -/
def kind : Value → String
  | .null => "NoneType"
  | .bool _ => "bool"
  | .int _ => "int"
  | .float _ => "float"
  | .str _ => "str"
  | .bytes _ => "bytes"
  | .list _ => "list"
  | .tuple _ => "tuple"
  | .set _ => "set"
  | .dict _ => "dict"
  | .choice c => c.catalog
  | .date _ => "date"
  | .moment _ _ => "datetime"
  | .foreign o => o.kind

/-- The name of the kind of a value with that of its library, as most messages have it. -/
def fullKind : Value → String
  | .date _ => "datetime.date"
  | .moment _ _ => "datetime.datetime"
  | .foreign o => o.fullKind
  | v => v.kind

/-- Whether a value counts as given. -/
def isTrue : Value → Bool
  | .null => false
  | .bool b => b
  | .int n => n != 0
  | .float x => x != 0.0
  | .str s => !s.isEmpty
  | .bytes b => !b.isEmpty
  | .list items | .tuple items | .set items => !items.isEmpty
  | .dict entries => !entries.isEmpty
  | .choice _ | .date _ | .moment _ _ => true
  | .foreign o => o.isTrue

/-- A value if it counts as given, and a default else. -/
def orElse (v default : Value) : Value := if v.isTrue then v else default

/-- The parts of a shown date. -/
def shownDate (d : CalendarDate) : String :=
  decimal d.year ++ ", " ++ decimal d.month ++ ", " ++ decimal d.day

/-- The parts of a shown time of day: seconds and fractions only if they are not zero. -/
def shownTime (t : ClockTime) : String :=
  ", " ++ decimal t.hour ++ ", " ++ decimal t.minute ++
    (if t.second == 0 && t.microsecond == 0 then "" else ", " ++ decimal t.second) ++
    (if t.microsecond == 0 then "" else ", " ++ decimal t.microsecond) ++
    (match t.offset with
    | none => ""
    | some 0 => ", tzinfo=datetime.timezone.utc"
    | some n =>
      let days := if n < 0 then "days=-1, " else ""
      let seconds := if n < 0 then n + 86400 else n
      ", tzinfo=datetime.timezone(datetime.timedelta(" ++ days ++ "seconds=" ++ decimal seconds ++ "))")

/-- The numeral of a number, unless it has too many digits. -/
def numeral? (n : Int) : Option String :=
  if (decimal n.natAbs).length ≤ maxDigits then some (decimal n) else none

mutual

/-- The text of a value with quotes around texts, if all its numbers can be written. -/
def shown? : Value → Option String
  | .null => some "None"
  | .bool true => some "True"
  | .bool false => some "False"
  | .int n => numeral? n
  | .float x => some (Decimal.floatText x)
  | .str s => some (quoted s)
  | .bytes b => some (quotedBytes b)
  | .list items => (shownItems? items).map fun t => "[" ++ t ++ "]"
  -- A comma tells a tuple of one item from an item in parentheses.
  | .tuple [v] => v.shown?.map fun t => "(" ++ t ++ ",)"
  | .tuple items => (shownItems? items).map fun t => "(" ++ t ++ ")"
  -- Braces without anything between them are a mapping.
  | .set [] => some "set()"
  | .set items => (shownItems? items).map fun t => "\x7b" ++ t ++ "\x7d"
  | .dict entries => (shownEntries? entries).map fun t => "\x7b" ++ t ++ "\x7d"
  | .choice c => some ("<" ++ c.catalog ++ "." ++ c.label ++ ": " ++ quoted c.code ++ ">")
  | .date d => some ("datetime.date(" ++ shownDate d ++ ")")
  | .moment d t => some ("datetime.datetime(" ++ shownDate d ++ shownTime t ++ ")")
  | .foreign o => some o.shown

/-- Items with commas between them. -/
def shownItems? : List Value → Option String
  | [] => some ""
  | [v] => v.shown?
  | v :: rest => do
    let here ← v.shown?
    let others ← shownItems? rest
    some (here ++ ", " ++ others)

/-- Entries with commas between them. -/
def shownEntries? : List (Value × Value) → Option String
  | [] => some ""
  | [(k, v)] => do some ((← k.shown?) ++ ": " ++ (← v.shown?))
  | (k, v) :: rest => do
    let here := (← k.shown?) ++ ": " ++ (← v.shown?)
    let others ← shownEntries? rest
    some (here ++ ", " ++ others)

end

/-- The text of a value as a message shows it, if all its numbers can be written. -/
def text? : Value → Option String
  | .str s => some s
  | .choice c => some (c.catalog ++ "." ++ c.label)
  | .date d => some d.iso
  | .moment d t => some (d.iso ++ " " ++ t.iso)
  | .foreign o => some o.text
  | v => v.shown?

mutual

/-- The kind of the first part for which a value cannot be a key. -/
def unhashable? : Value → Option String
  | .list _ => some "list"
  | .set _ => some "set"
  | .dict _ => some "dict"
  | .tuple items => unhashableItem? items
  | .foreign o => if o.isKey then none else some o.kind
  | _ => none

/-- The same for the items of a tuple. -/
def unhashableItem? : List Value → Option String
  | [] => none
  | v :: rest =>
    match v.unhashable? with
    | some kind => some kind
    | none => unhashableItem? rest

end

/-- The text that a value is; a member of a catalog is one. -/
def asText? : Value → Option String
  | .str s => some s
  | .choice c => some c.code
  | _ => none

end Value
end TextCriteria
