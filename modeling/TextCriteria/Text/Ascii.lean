namespace TextCriteria.Text

/-!
# ASCII classes and digits of a base

* `isOctal`, `isAsciiDigit`, `isHex`, `isAsciiLetter` — classes of ASCII characters.
* `ofDigits` — the number that digits stand for in a base.
* `readAtMost` — a run of characters of bounded length.
-/

/-- A digit of base eight. -/
def isOctal (c : Char) : Bool := '0' ≤ c && c ≤ '7'

/-- A digit of base ten. -/
def isAsciiDigit (c : Char) : Bool := '0' ≤ c && c ≤ '9'

/-- A letter of the Latin alphabet without marks. -/
def isAsciiLetter (c : Char) : Bool := ('a' ≤ c && c ≤ 'z') || ('A' ≤ c && c ≤ 'Z')

/-- A digit of base sixteen. -/
def isHex (c : Char) : Bool := isAsciiDigit c || ('a' ≤ c && c ≤ 'f') || ('A' ≤ c && c ≤ 'F')

/-- The value of a digit of base sixteen or less. -/
def digitOf (c : Char) : Nat :=
  if c ≤ '9' then c.toNat - 48 else if c ≤ 'F' then c.toNat - 55 else c.toNat - 87

/-- The number that digits stand for in a base. -/
def ofDigits (base : Nat) (s : List Char) : Nat :=
  s.foldl (fun n c => n * base + digitOf c) 0

/-- At most `n` characters that satisfy a test, and what follows them. -/
def readAtMost (test : Char → Bool) : Nat → List Char → List Char × List Char
  | 0, s => ([], s)
  | _, [] => ([], [])
  | n + 1, c :: rest =>
    if test c then let (taken, rest') := readAtMost test n rest; (c :: taken, rest')
    else ([], c :: rest)

end TextCriteria.Text
