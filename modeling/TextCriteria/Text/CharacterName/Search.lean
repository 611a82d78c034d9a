import TextCriteria.Text.Ascii

namespace TextCriteria.Text.CharacterName

/-!
# Tables of character names

A table holds names in the order of code points, each with a semicolon behind it. A name begins with
the number of words that it shares with the name before it, and a code point in hexadecimal between an
equals sign and a blank stands before it where it is not the next one. Line feeds mean nothing.

* `search` — the code point of a name.
-/

/-- The words of a text, which is given last character first. -/
def wordsOf (word : List Char) (words : List (List Char)) : List Char → List (List Char)
  | [] => word :: words
  | c :: rest =>
    if c == ' ' then wordsOf [] (word :: words) rest else wordsOf (c :: word) words rest

/-- Where a search has come to: the code point of the next name, the words of the one before it, and
    the characters of the present entry, last one first. -/
structure Walk where
  code : Nat := 0
  previous : List (List Char) := []
  entry : List Char := []

/-- The code point in front of an entry, if there is one, and the entry without it. -/
def splitCode (code : Nat) (entry : List Char) : Nat × List Char :=
  match entry with
  | '=' :: rest =>
    (ofDigits 16 (rest.takeWhile isHex), (rest.dropWhile isHex).drop 1)
  | entry => (code, entry)

/-- The code point and the words of an entry. -/
def Walk.close (w : Walk) : Nat × List (List Char) :=
  match splitCode w.code w.entry.reverse with
  | (code, kept :: suffix) =>
    (code, w.previous.take (digitOf kept) ++ wordsOf [] [] suffix.reverse)
  | (code, []) => (code, [])

/-- The code point of a name in a table. -/
def search (name : List (List Char)) (w : Walk) : List Char → Option Nat
  | [] => none
  | c :: rest =>
    if c == ';' then
      let (code, words) := w.close
      if words == name then some code else search name ⟨code + 1, words, []⟩ rest
    else if c == '\n' then search name w rest
    else search name { w with entry := c :: w.entry } rest

/-- The code point of a name, which is given as a whole. -/
def searchText (name : List Char) (table : String) : Option Nat :=
  search (wordsOf [] [] name.reverse) {} table.toList

end TextCriteria.Text.CharacterName
