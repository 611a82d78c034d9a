import TextCriteria.Text.Ascii
import TextCriteria.Text.Identifier
import TextCriteria.Text.Letter
import TextCriteria.Text.Numeral
import TextCriteria.Text.CharacterName
import TextCriteria.Pattern.Refusal

namespace TextCriteria.Pattern

open TextCriteria.Text

/-!
# Lexemes of patterns

A pattern is read one lexeme at a time: an item, a repeat mark, a bar, a parenthesis with everything
that belongs to its opening, or a stretch that means nothing.

* `Lexeme` — the lexemes.
* `readLexeme` — the first lexeme of a text and what follows it.
* `readLexeme_shorter` — every lexeme takes at least one character.

A backslash and the character after it are always taken together, in comments and names too.
-/

/-- How a group is referred to. -/
inductive GroupRef
  | number (index : Nat)
  | name (name : List Char)
  deriving DecidableEq, Repr

/-- What an opening parenthesis opens. -/
inductive Opening
  | capture (name : Option (List Char))
  | scoped (change : ModeChange)
  | atomic
  | look (behind negative : Bool)
  | conditional (ref : GroupRef)
  deriving DecidableEq, Repr

/-- The units that a pattern is read in. -/
inductive Lexeme
  | skip
  | item (r : Regex)
  | reference (ref : GroupRef)
  | rounds (greed : Greed) (least : Nat) (most : Option Nat)
  | bar
  | opening (what : Opening)
  | closing
  | globalFlags (letters : List Char)
  deriving Repr

/-- What was read, with the rest of the text, or why the text was refused. -/
abbrev Outcome := Except Refusal

/-- A fault with `left` characters after it. -/
def fault {α : Type} (cause : Cause) (left : Nat) : Outcome α :=
  .error (.malformed cause (some left))

/-! ### Pieces -/

/-- The next unit: one character, or a backslash with the character after it. At the end it is empty. -/
def readUnit : List Char → Outcome (List Char × List Char)
  | [] => .ok ([], [])
  | ['\\'] => fault .danglingEscape 1
  | '\\' :: c :: rest => .ok (['\\', c], rest)
  | c :: rest => .ok ([c], rest)

/-- The units up to a closing character, which is taken too. -/
def readUntil (closing : Char) (what : String) (acc : List Char) :
    List Char → Outcome (List Char × List Char)
  | [] =>
    if acc.isEmpty then fault (.missingName what) 0
    else fault (.unterminatedName closing) acc.length
  | ['\\'] => fault .danglingEscape 1
  | '\\' :: c :: rest => readUntil closing what (acc ++ ['\\', c]) rest
  | c :: rest =>
    if c == closing then
      if acc.isEmpty then fault (.missingName what) (rest.length + 1) else .ok (acc, rest)
    else readUntil closing what (acc ++ [c]) rest

/-- What follows a comment that ends at a line break or at the end of the text. -/
def skipLine : List Char → Outcome (List Char)
  | [] => .ok []
  | ['\\'] => fault .danglingEscape 1
  | '\\' :: _ :: rest => skipLine rest
  | c :: rest => if c == '\n' then .ok rest else skipLine rest

/-- What follows a comment in parentheses. `left` locates its opening. -/
def skipComment (left : Nat) : List Char → Outcome (List Char)
  | [] => fault .unterminatedComment left
  | ['\\'] => fault .danglingEscape 1
  | '\\' :: _ :: rest => skipComment left rest
  | c :: rest => if c == ')' then .ok rest else skipComment left rest

/-! ### Escapes -/

/-- The letters whose escapes are single control characters. -/
def controlEscape? : Char → Option Nat
  | 'a' => some 7
  | 'f' => some 12
  | 'n' => some 10
  | 'r' => some 13
  | 't' => some 9
  | 'v' => some 11
  | '\\' => some 92
  | _ => none

/-- The letters whose escapes are named classes. -/
def categoryEscape? : Char → Option ClassMember
  | 'd' => some (.category .digit false)
  | 'D' => some (.category .digit true)
  | 's' => some (.category .blank false)
  | 'S' => some (.category .blank true)
  | 'w' => some (.category .word false)
  | 'W' => some (.category .word true)
  | _ => none

/-- The letters whose escapes are places. -/
def anchorEscape? : Char → Option Anchor
  | 'A' => some .textStart
  | 'Z' => some .textEnd
  | 'b' => some .boundary
  | 'B' => some .inside
  | _ => none

/-- An escape by code: `count` hexadecimal digits after the letter. -/
def readHex (letter : Char) (count : Nat) (rest : List Char) : Outcome (Nat × List Char) :=
  let (digits, rest') := readAtMost isHex count rest
  let text := '\\' :: letter :: digits
  if digits.length != count then fault (.incompleteEscape text) (rest'.length + text.length)
  else
    let c := ofDigits 16 digits
    if c < 0x110000 then .ok (c, rest')
    else if c < 0x80000000 then fault (.badEscape text) (rest'.length + text.length)
    -- A number like this is no code at all, and the text is not said to be malformed.
    else .error .codeTooLarge

/-- A character by its name in braces. -/
def readNamed : List Char → Outcome (Nat × List Char)
  | '{' :: rest => do
    let (name, rest') ← readUntil '}' "character name" [] rest
    match characterNamed? name with
    | some c => .ok (c, rest')
    | none => fault (.unknownCharacter name) (rest'.length + name.length + 4)
  | rest => fault .missingBrace rest.length

/-- The escapes that have the same meaning everywhere: codes, names and characters that stand for
    themselves. `c` is the character after the backslash. -/
def readCommonEscape (c : Char) (rest : List Char) : Outcome (Nat × List Char) :=
  if c == 'x' then readHex c 2 rest
  else if c == 'u' then readHex c 4 rest
  else if c == 'U' then readHex c 8 rest
  else if c == 'N' then readNamed rest
  else if isAsciiLetter c then fault (.badEscape ['\\', c]) (rest.length + 2)
  else .ok (c.toNat, rest)

/-- An octal code of a first digit and at most two more. -/
def readOctal (c : Char) (rest : List Char) : Outcome (Nat × List Char) :=
  let (digits, rest') := readAtMost isOctal 2 rest
  let n := ofDigits 8 (c :: digits)
  if n ≤ 255 then .ok (n, rest')
  else fault (.octalTooLarge ('\\' :: c :: digits)) (rest'.length + digits.length + 2)

/-- An escape inside a bracketed class. -/
def readClassEscape (c : Char) (rest : List Char) : Outcome (ClassMember × List Char) :=
  match controlEscape? c, categoryEscape? c with
  | some n, _ => .ok (.code n, rest)
  | none, some m => .ok (m, rest)
  | none, none =>
    if c == 'b' then .ok (.code 8, rest)
    else if isOctal c then do
      let (n, rest') ← readOctal c rest
      .ok (.code n, rest')
    else if isAsciiDigit c then fault (.badEscape ['\\', c]) (rest.length + 2)
    else do
      let (n, rest') ← readCommonEscape c rest
      .ok (.code n, rest')

/-- A reference to a group by number, or an octal code of three digits. `c` is not zero. -/
def readNumbered (c : Char) : List Char → Outcome (Lexeme × List Char)
  | d :: rest =>
    if isAsciiDigit d then
      match rest with
      | e :: rest' =>
        -- Three octal digits are a code even where groups have these numbers.
        if isOctal c && isOctal d && isOctal e then
          let n := ofDigits 8 [c, d, e]
          if n ≤ 255 then .ok (.item (.char n), rest')
          else fault (.octalTooLarge ['\\', c, d, e]) (rest'.length + 4)
        else .ok (.reference (.number (ofDigits 10 [c, d])), rest)
      | [] => .ok (.reference (.number (ofDigits 10 [c, d])), rest)
    else .ok (.reference (.number (ofDigits 10 [c])), d :: rest)
  | [] => .ok (.reference (.number (ofDigits 10 [c])), [])

/-- An escape outside of classes. -/
def readEscape (c : Char) (rest : List Char) : Outcome (Lexeme × List Char) :=
  match anchorEscape? c, categoryEscape? c, controlEscape? c with
  | some a, _, _ => .ok (.item (.anchor a), rest)
  | none, some m, _ => .ok (.item (.oneOf false [m]), rest)
  | none, none, some n => .ok (.item (.char n), rest)
  | none, none, none =>
    if c == '0' then
      let (digits, rest') := readAtMost isOctal 2 rest
      .ok (.item (.char (ofDigits 8 digits)), rest')
    else if isAsciiDigit c then readNumbered c rest
    else do
      let (n, rest') ← readCommonEscape c rest
      .ok (.item (.char n), rest')

/-! ### Classes -/

/-- One end of a class member, given its first unit. -/
def readClassUnit (unit rest : List Char) : Outcome (ClassMember × List Char) :=
  match unit with
  | ['\\', c] => readClassEscape c rest
  | c :: _ => .ok (.code c.toNat, rest)
  | [] => .ok (.code 0, rest)

/-- The members of a bracketed class up to its closing bracket, of which the first place is not one.
    `left` locates the opening bracket; the first argument bounds the number of members. -/
def readMembers (left : Nat) :
    Nat → List ClassMember → List Char → Outcome (List ClassMember × List Char)
  | 0, _, _ => fault .unterminatedClass left
  | fuel + 1, members, s => do
    let (lo, rest) ← readUnit s
    -- A bracket in the first place is a member like any other.
    if lo.isEmpty then fault .unterminatedClass left
    else if lo == [']'] && !members.isEmpty then .ok (members, rest)
    else
      let (first, rest) ← readClassUnit lo rest
      match rest with
      | '-' :: rest => do
        let (hi, rest) ← readUnit rest
        if hi.isEmpty then fault .unterminatedClass left
        else if hi == [']'] then .ok (members ++ [first, .code 45], rest)
        else
          let (last, rest) ← readClassUnit hi rest
          match first, last with
          | .code a, .code b =>
            if a ≤ b then readMembers left fuel (members ++ [.range a b]) rest
            else fault (.badRange lo hi) (rest.length + lo.length + 1 + hi.length)
          | _, _ => fault (.badRange lo hi) (rest.length + lo.length + 1 + hi.length)
      | _ => readMembers left fuel (members ++ [first]) rest

/-- A bracketed class, after its opening bracket. -/
def readClass (rest : List Char) : Outcome (Lexeme × List Char) := do
  let left := rest.length + 1
  let (negated, rest) := match rest with
    | '^' :: rest => (true, rest)
    | _ => (false, rest)
  let (members, rest) ← readMembers left (rest.length + 1) [] rest
  .ok (.item (.oneOf negated members), rest)

/-! ### Repeat marks -/

/-- The mark after a repeat mark, which says how to choose the number of rounds. -/
def readGreed : List Char → Greed × List Char
  | '?' :: rest => (.reluctant, rest)
  | '+' :: rest => (.possessive, rest)
  | rest => (.greedy, rest)

/-- A repeat mark with its bounds. -/
def roundsOf (least : Nat) (most : Option Nat) (rest : List Char) : Outcome (Lexeme × List Char) :=
  let (greed, rest) := readGreed rest
  .ok (.rounds greed least most, rest)

/-- A bound of a repetition in digits; none at all leaves it open. -/
def boundOf (digits : List Char) : Outcome (Option Nat) :=
  if digits.isEmpty then .ok none
  else if maxDigits < digits.length then .error (.tooManyDigits digits.length)
  else if maxRepeat ≤ ofDigits 10 digits then .error .repeatTooLarge
  else .ok (some (ofDigits 10 digits))

/-- Bounds in braces, after the opening brace. What is not of the form of bounds leaves the brace to
    stand for itself. -/
def readBraces (rest : List Char) : Outcome (Lexeme × List Char) :=
  let literal : Outcome (Lexeme × List Char) := .ok (.item (.char 123), rest)
  match rest with
  | '}' :: _ => literal
  | _ =>
    let lo := rest.takeWhile isAsciiDigit
    let afterLo := rest.dropWhile isAsciiDigit
    -- Without a comma the lower bound is the upper one too.
    let (hi, afterHi) := match afterLo with
      | ',' :: r => (r.takeWhile isAsciiDigit, r.dropWhile isAsciiDigit)
      | _ => (lo, afterLo)
    match afterHi with
    | '}' :: after => do
      let least ← boundOf lo
      let most ← boundOf hi
      match most with
      | some n =>
        if n < least.getD 0 then fault .boundsReversed rest.length
        else roundsOf (least.getD 0) most after
      | none => roundsOf (least.getD 0) most after
    | _ => literal

/-! ### Openings -/

/-- The letters of inline flags. -/
def isFlagLetter (c : Char) : Bool :=
  ['i', 'L', 'm', 's', 'x', 'a', 't', 'u'].contains c

/-- The fault of a unit where a flag or the end of the flags was expected. -/
def flagFault {α : Type} (unit : List Char) (otherwise : Cause) (rest : List Char) :
    Outcome α :=
  let letter := match unit with
    | [c] => isLetter c
    | _ => false
  if unit.isEmpty then fault otherwise rest.length
  else fault (if letter then .unknownFlag else otherwise) (rest.length + unit.length)

/-- What flag letters change. -/
def changeOf (on off : List Char) : ModeChange :=
  let switch (c : Char) : Option Bool :=
    if off.contains c then some false else if on.contains c then some true else none
  { ignoreCase := switch 'i'
    multiline := switch 'm'
    dotAll := switch 's'
    verbose := switch 'x'
    ascii := if on.contains 'a' then some true else if on.contains 'u' then some false else none }

/-- The letters of flags to turn off, up to the colon. -/
def readFlagsOff (on : List Char) : Nat → List Char → List Char → Outcome (Lexeme × List Char)
  | 0, _, s => fault .missingColon s.length
  | fuel + 1, off, s => do
    let (unit, rest) ← readUnit s
    match unit with
    | [c] =>
      if c == ':' && !off.isEmpty then
        if off.contains 't' then fault .globalFlagOff (rest.length + 1)
        else if on.any off.contains then fault .flagOnAndOff (rest.length + 1)
        else .ok (.opening (.scoped (changeOf on off)), rest)
      else if isFlagLetter c then
        if ['a', 'u', 'L'].contains c then fault .alphabetFlagOff rest.length
        else readFlagsOff on fuel (off ++ [c]) rest
      else flagFault unit (if off.isEmpty then .missingFlag else .missingColon) rest
    | _ => flagFault unit (if off.isEmpty then .missingFlag else .missingColon) rest

/-- The letters of flags to turn on, up to the end of the flags. -/
def readFlagsOn : Nat → List Char → List Char → Outcome (Lexeme × List Char)
  | 0, _, s => fault .missingFlagEnd s.length
  | fuel + 1, on, s => do
    let (unit, rest) ← readUnit s
    match unit with
    | [c] =>
      -- Flags without a colon are for the whole pattern.
      if c == ')' && !on.isEmpty then .ok (.globalFlags on, rest)
      else if c == ':' || c == '-' then
        if on.contains 't' then fault .globalFlagOn (rest.length + 1)
        else if c == ':' then .ok (.opening (.scoped (changeOf on [])), rest)
        else readFlagsOff on fuel [] rest
      else if isFlagLetter c then
        if c == 'L' then fault .localeFlag rest.length
        else if (c == 'a' && on.contains 'u') || (c == 'u' && on.contains 'a') then
          fault .alphabetFlags rest.length
        else readFlagsOn fuel (on ++ [c]) rest
      else flagFault unit .missingFlagEnd rest
    | _ => flagFault unit .missingFlagEnd rest

/-- The name of a group up to its closing character. -/
def readGroupName (closing : Char) (rest : List Char) : Outcome (List Char × List Char) := do
  let (name, rest) ← readUntil closing "group name" [] rest
  if isIdentifier name then .ok (name, rest)
  else fault (.badGroupName name) (rest.length + name.length + 1)

/-- Group numbers stay below this number. -/
def maxGroups : Nat := 1073741823

/-- The group that a conditional asks for, by name or by number. -/
def readCondition (rest : List Char) : Outcome (GroupRef × List Char) := do
  let (name, rest) ← readUntil ')' "group name" [] rest
  let left := rest.length + name.length + 1
  if isIdentifier name then .ok (.name name, rest)
  else match integer? name with
    | none => fault (.badGroupName name) left
    | some n =>
      if n < 0 then fault (.badGroupName name) left
      else if n == 0 then fault .badGroupNumber left
      else if maxGroups ≤ n.toNat then fault (.invalidGroup n.toNat) left
      else .ok (.number n.toNat, rest)

/-- What follows an opening parenthesis and a question mark. `left` locates the parenthesis. -/
def readExtension (left : Nat) (s : List Char) : Outcome (Lexeme × List Char) := do
  let (unit, rest) ← readUnit s
  match unit with
  | [] => fault .unexpectedEnd 0
  | ['P'] =>
    match rest with
    | '<' :: rest => do
      let (name, rest) ← readGroupName '>' rest
      .ok (.opening (.capture (some name)), rest)
    | '=' :: rest => do
      let (name, rest) ← readGroupName ')' rest
      .ok (.reference (.name name), rest)
    | _ => do
      let (other, rest) ← readUnit rest
      if other.isEmpty then fault .unexpectedEnd 0
      else fault (.unknownExtension ('P' :: other)) (rest.length + other.length + 2)
  | [':'] => .ok (.opening (.scoped {}), rest)
  | ['#'] => do
    let rest ← skipComment left rest
    .ok (.skip, rest)
  | ['='] => .ok (.opening (.look false false), rest)
  | ['!'] => .ok (.opening (.look false true), rest)
  | ['<'] => do
    let (other, rest) ← readUnit rest
    match other with
    | [] => fault .unexpectedEnd 0
    | ['='] => .ok (.opening (.look true false), rest)
    | ['!'] => .ok (.opening (.look true true), rest)
    | _ => fault (.unknownExtension ('<' :: other)) (rest.length + other.length + 2)
  | ['('] => do
    let (ref, rest) ← readCondition rest
    .ok (.opening (.conditional ref), rest)
  | ['>'] => .ok (.opening .atomic, rest)
  | ['-'] => readFlagsOff [] (rest.length + 1) [] rest
  | [c] =>
    if isFlagLetter c then readFlagsOn (s.length + 1) [] s
    else fault (.unknownExtension [c]) (rest.length + 2)
  | _ => fault (.unknownExtension unit) (rest.length + unit.length + 1)

/-! ### Lexemes -/

/-- The white space that a verbose pattern may contain freely. -/
def isLayout (c : Char) : Bool :=
  c == ' ' || (9 ≤ c.toNat && c.toNat ≤ 13)

/-- The lexeme that begins with a character, and what follows it. -/
def readLexeme (verbose : Bool) (c : Char) (rest : List Char) : Outcome (Lexeme × List Char) :=
  if verbose && isLayout c then .ok (.skip, rest)
  else if verbose && c == '#' then do
    let rest ← skipLine rest
    .ok (.skip, rest)
  else match c with
    | '\\' =>
      match rest with
      | [] => fault .danglingEscape 1
      | e :: rest => readEscape e rest
    | '[' => readClass rest
    | '*' => roundsOf 0 none rest
    | '+' => roundsOf 1 none rest
    | '?' => roundsOf 0 (some 1) rest
    | '{' => readBraces rest
    | '.' => .ok (.item .any, rest)
    | '^' => .ok (.item (.anchor .lineStart), rest)
    | '$' => .ok (.item (.anchor .lineEnd), rest)
    | '|' => .ok (.bar, rest)
    | ')' => .ok (.closing, rest)
    | '(' =>
      match rest with
      | '?' :: rest' => readExtension (rest.length + 1) rest'
      | _ => .ok (.opening (.capture none), rest)
    | _ => .ok (.item (.char c.toNat), rest)

end TextCriteria.Pattern
