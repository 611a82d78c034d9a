import TextCriteria.Text.CodeRange

namespace TextCriteria.Text

/-!
# Blanks

White space at the ends of a text is of no meaning to the rule language, the catalogs and numerals.

* `isBlank` — the white space characters, separators among the control characters included.
* `trim` — a text without the blanks at its two ends.
-/

/-- The white space characters. -/
def blankRanges : List CodeRange :=
  [ (9, 13), (28, 32), (133, 133), (160, 160), (5760, 5760), (8192, 8202), (8232, 8233),
    (8239, 8239), (8287, 8287), (12288, 12288)]

/-- A white space character: a control character that moves on or separates, or a space. -/
def isBlank (c : Char) : Bool :=
  CodeRange.member blankRanges c.toNat

/-- A text without its leading blanks. -/
def trimLeft (s : List Char) : List Char :=
  s.dropWhile isBlank

/-- A text without its trailing blanks. -/
def trimRight (s : List Char) : List Char :=
  (s.reverse.dropWhile isBlank).reverse

/-- A text without the blanks at its ends. -/
def trim (s : List Char) : List Char :=
  trimRight (trimLeft s)

/-- The same on strings. -/
def trimString (s : String) : String :=
  String.ofList (trim s.toList)

end TextCriteria.Text
