import TextCriteria.Text.Quoted
import TextCriteria.Pattern.Regex

namespace TextCriteria.Pattern

open TextCriteria.Text

/-!
# Why a text is no pattern

* `Cause` — what is wrong, and `Cause.message`, its wording.
* `Refusal` — the outcome of a failed compilation: a malformed text, or one of the few limits that
  are reported apart from it.
* `place` — where in the text a fault is, with line and column if there is more than one line.

A fault is located by the number of characters from it to the end of the text, so that what precedes
a piece of pattern does not change what is found in it.
-/

/-- What is wrong with a malformed pattern. -/
inductive Cause
  | danglingEscape
  | badEscape (text : List Char)
  | incompleteEscape (text : List Char)
  | octalTooLarge (text : List Char)
  | missingBrace
  | missingName (what : String)
  | unterminatedName (closing : Char)
  | unknownCharacter (name : List Char)
  | badGroupName (name : List Char)
  | unknownGroup (name : List Char)
  | groupDefinedTwice (name : List Char) (again first : Nat)
  | groupStillOpen
  | groupInLookbehind
  | invalidGroup (index : Nat)
  | badGroupNumber
  | unterminatedClass
  | badRange (lo hi : List Char)
  | boundsReversed
  | nothingToRepeat
  | multipleRepeat
  | unexpectedEnd
  | unknownExtension (text : List Char)
  | unterminatedComment
  | unterminatedGroup
  | thirdBranch
  | globalFlagsLate
  | localeFlag
  | alphabetFlags
  | unknownFlag
  | missingFlagEnd
  | missingFlag
  | missingColon
  | globalFlagOn
  | globalFlagOff
  | alphabetFlagOff
  | flagOnAndOff
  | unbalanced
  | lookbehindWidth
  | templateRepeat (greed : Greed)
  deriving DecidableEq, Repr

/-- The name of a kind of repetition. -/
def Greed.label : Greed → String
  | .greedy => "MAX_REPEAT"
  | .reluctant => "MIN_REPEAT"
  | .possessive => "POSSESSIVE_REPEAT"

/-- The wording of a cause. -/
def Cause.message : Cause → String
  | .danglingEscape => "bad escape (end of pattern)"
  | .badEscape text => "bad escape " ++ String.ofList text
  | .incompleteEscape text => "incomplete escape " ++ String.ofList text
  | .octalTooLarge text =>
    "octal escape value " ++ String.ofList text ++ " outside of range 0-0o377"
  | .missingBrace => "missing \x7b"
  | .missingName what => "missing " ++ what
  | .unterminatedName closing => "missing " ++ closing.toString ++ ", unterminated name"
  | .unknownCharacter name => "undefined character name " ++ String.ofList (quotedChars name)
  | .badGroupName name => "bad character in group name " ++ String.ofList (quotedChars name)
  | .unknownGroup name => "unknown group name " ++ String.ofList (quotedChars name)
  | .groupDefinedTwice name again first =>
    "redefinition of group name " ++ String.ofList (quotedChars name) ++ " as group "
      ++ toString again ++ "; was group " ++ toString first
  | .groupStillOpen => "cannot refer to an open group"
  | .groupInLookbehind => "cannot refer to group defined in the same lookbehind subpattern"
  | .invalidGroup index => "invalid group reference " ++ toString index
  | .badGroupNumber => "bad group number"
  | .unterminatedClass => "unterminated character set"
  | .badRange lo hi => "bad character range " ++ String.ofList lo ++ "-" ++ String.ofList hi
  | .boundsReversed => "min repeat greater than max repeat"
  | .nothingToRepeat => "nothing to repeat"
  | .multipleRepeat => "multiple repeat"
  | .unexpectedEnd => "unexpected end of pattern"
  | .unknownExtension text => "unknown extension ?" ++ String.ofList text
  | .unterminatedComment => "missing ), unterminated comment"
  | .unterminatedGroup => "missing ), unterminated subpattern"
  | .thirdBranch => "conditional backref with more than two branches"
  | .globalFlagsLate => "global flags not at the start of the expression"
  | .localeFlag => "bad inline flags: cannot use 'L' flag with a str pattern"
  | .alphabetFlags => "bad inline flags: flags 'a', 'u' and 'L' are incompatible"
  | .unknownFlag => "unknown flag"
  | .missingFlagEnd => "missing -, : or )"
  | .missingFlag => "missing flag"
  | .missingColon => "missing :"
  | .globalFlagOn => "bad inline flags: cannot turn on global flag"
  | .globalFlagOff => "bad inline flags: cannot turn off global flag"
  | .alphabetFlagOff => "bad inline flags: cannot turn off flags 'a', 'u' and 'L'"
  | .flagOnAndOff => "bad inline flags: flag turned on and off"
  | .unbalanced => "unbalanced parenthesis"
  | .lookbehindWidth => "look-behind requires fixed-width pattern"
  | .templateRepeat greed => "internal: unsupported template operator " ++ greed.label

/-- Why a compilation failed. -/
inductive Refusal
  /-- The text is no pattern. `left` counts the characters from the fault to the end. -/
  | malformed (cause : Cause) (left : Option Nat)
  /-- A repeat bound is not below `maxRepeat`. -/
  | repeatTooLarge
  /-- A repeat bound has more digits than a numeral may have. -/
  | tooManyDigits (count : Nat)
  /-- The code of a character does not fit into 32 bits with a sign. -/
  | codeTooLarge
  /-- The flags ask for a locale, which text has none of. -/
  | locale
  /-- The flags ask for ASCII and for Unicode. -/
  | asciiAndUnicode
  /-- The flags do not fit into 32 bits. -/
  | flagsTooLarge
  deriving DecidableEq, Repr

/-- The characters after the last line break. -/
def lastLine (s : List Char) : List Char :=
  (s.reverse.takeWhile fun c => c != '\n').reverse

/-- The place of a fault in a text, in words. -/
def place (text : List Char) (left : Nat) : String :=
  let pos := text.length - left
  let before := text.take pos
  let line := before.count '\n' + 1
  let column := (lastLine before).length + 1
  " at position " ++ toString pos ++
    if text.contains '\n' then
      " (line " ++ toString line ++ ", column " ++ toString column ++ ")"
    else ""

/-- The reason in words that a text is malformed. -/
def Cause.reason (cause : Cause) (text : List Char) : Option Nat → String
  | none => cause.message
  | some left => cause.message ++ place text left

end TextCriteria.Pattern
