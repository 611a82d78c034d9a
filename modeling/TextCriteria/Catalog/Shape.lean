namespace TextCriteria.Shape

/-!
# Shapes of addresses

Patterns of whole texts: electronic mail addresses, web addresses, network addresses.
-/

/-- The pattern of a mail address. -/
def email : String := "[a-zA-Z0-9._%+-]+@[a-zA-Z0-9.-]+\\.[a-zA-Z]\x7b2,\x7d"

/-- A number from 0 to 255 in at most three digits. -/
def octet : String := "(?:25[0-5]|2[0-4][0-9]|[01]?[0-9][0-9]?)"

/-- The pattern of a network address of four numbers. -/
def ipv4 : String := "(?:" ++ octet ++ "\\.)\x7b3\x7d" ++ octet

def webScheme : String := "https?://"

def webBody : String := "(?:[a-zA-Z0-9_-]+\\.)+[a-zA-Z0-9_-]+(?:/[a-zA-Z0-9_ ./?%&=-]*)?"

/-- The pattern of a web address, whose scheme is required or may be left out. -/
def url (schemeRequired : Bool) : String :=
  if schemeRequired then webScheme ++ webBody else "(?:" ++ webScheme ++ ")?" ++ webBody

end TextCriteria.Shape
