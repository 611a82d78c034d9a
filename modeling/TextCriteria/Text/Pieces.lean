namespace TextCriteria.Text

/-!
# Pieces of text

* `pieces` — a text cut at every separator.
-/

/-- The pieces between separators. There is always one piece more than there are separators. -/
def pieces (separator : Char) : List Char → List (List Char)
  | [] => [[]]
  | c :: rest =>
    if c == separator then [] :: pieces separator rest
    else match pieces separator rest with
      | [] => [[c]]
      | piece :: more => (c :: piece) :: more

end TextCriteria.Text
