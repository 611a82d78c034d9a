import TextCriteria.Text.CharacterName.Alias
import TextCriteria.Text.CharacterName.Alphabets
import TextCriteria.Text.CharacterName.EastAsia
import TextCriteria.Text.CharacterName.Hieroglyphs
import TextCriteria.Text.CharacterName.OldScripts
import TextCriteria.Text.CharacterName.Pictures
import TextCriteria.Text.CharacterName.Search
import TextCriteria.Text.CharacterName.Symbols
import TextCriteria.Text.CodeRange

namespace TextCriteria.Text

/-!
# Characters by name

Most names are listed. Ideographs are named by their code point, and syllables of Hangul by their
letters.

* `characterNamed?` — the code point of a name. Listed names may be written in any case.
-/

namespace CharacterName

/-- All tables of names. -/
def tables : List String :=
  [alphabets, symbols, eastAsia, oldScripts, hieroglyphs, pictures, aliases]

/-- What follows a beginning. -/
def after? : List Char → List Char → Option (List Char)
  | [], s => some s
  | _ :: _, [] => none
  | c :: start, d :: s => if c == d then after? start s else none

/-! ### Names by code point -/

/-- The code points of the unified ideographs. -/
def ideographRanges : List CodeRange :=
  [ (0x3400, 0x4dbf), (0x4e00, 0x9fff), (0x20000, 0x2a6df), (0x2a700, 0x2b738), (0x2b740, 0x2b81d),
    (0x2b820, 0x2cea1), (0x2ceb0, 0x2ebe0), (0x30000, 0x3134a)]

/-- The names that end in a code point, and the code points that have one. -/
def coded : List (String × List CodeRange) :=
  [ ("CJK COMPATIBILITY IDEOGRAPH-", [(0xf900, 0xfa6d), (0xfa70, 0xfad9), (0x2f800, 0x2fa1d)]),
    ("NUSHU CHARACTER-", [(0x1b170, 0x1b2fb)]),
    ("KHITAN SMALL SCRIPT CHARACTER-", [(0x18b00, 0x18cd5)])]

/-- The digits of a code point in upper case. -/
def isUpperHex (c : Char) : Bool := isAsciiDigit c || ('A' ≤ c && c ≤ 'F')

/-- The ideograph that is named by four or five digits of its code point, which may begin with
    zeros. -/
def ideograph? (name : List Char) : Option Nat := do
  let digits ← after? "CJK UNIFIED IDEOGRAPH-".toList name
  let code := ofDigits 16 digits
  if (digits.length == 4 || digits.length == 5) && digits.all isUpperHex &&
    CodeRange.member ideographRanges code then some code else none

/-- The character that is named by a word and its code point. -/
def coded? (name : List Char) : Option Nat :=
  CharacterName.coded.findSome? fun (start, ranges) => do
    let digits ← after? start.toList name
    let code := ofDigits 16 digits
    if digits.all isHex && digits.head? != some '0' && CodeRange.member ranges code then some code
    else none

/-! ### Syllables -/

/-- The first letters of syllables. -/
def leads : List String :=
  [ "G", "GG", "N", "D", "DD", "R", "M", "B", "BB", "S", "SS", "", "J", "JJ", "C", "K", "T", "P", "H"]

/-- The vowels of syllables. -/
def vowels : List String :=
  [ "A", "AE", "YA", "YAE", "EO", "E", "YEO", "YE", "O", "WA", "WAE", "OE", "YO", "U", "WEO", "WE",
    "WI", "YU", "EU", "YI", "I"]

/-- The last letters of syllables. -/
def tails : List String :=
  [ "", "G", "GG", "GS", "N", "NJ", "NH", "D", "L", "LG", "LM", "LB", "LS", "LT", "LP", "LH", "M",
    "B", "BS", "S", "SS", "NG", "J", "C", "K", "T", "P", "H"]

/-- The longest letter at the start of a text: its number and what follows it. -/
def longest (letters : List String) (s : List Char) : Option (Nat × List Char) :=
  letters.zipIdx.foldl (fun best (letter, i) =>
    match after? letter.toList s, best with
    | some rest, some (_, other) => if rest.length < other.length then some (i, rest) else best
    | some rest, none => some (i, rest)
    | none, best => best) none

/-- The syllable that is named by its letters. -/
def syllable? (name : List Char) : Option Nat := do
  let s ← after? "HANGUL SYLLABLE ".toList name
  let (lead, s) ← longest leads s
  let (vowel, s) ← longest vowels s
  let (tail, s) ← longest tails s
  if s.isEmpty then some (0xac00 + (lead * 21 + vowel) * 28 + tail) else none

/-- A letter of ASCII in upper case. -/
def upperLetter (c : Char) : Char :=
  if 'a' ≤ c && c ≤ 'z' then Char.ofNat (c.toNat - 32) else c

end CharacterName

/-- The code point of a name. -/
def characterNamed? (name : List Char) : Option Nat :=
  let upper := name.map CharacterName.upperLetter
  CharacterName.ideograph? name <|> CharacterName.syllable? name <|>
    CharacterName.coded? upper <|>
    CharacterName.tables.findSome? (CharacterName.searchText upper)

end TextCriteria.Text
