import TextCriteria.Failure.Complaint
import TextCriteria.Failure.Record
import TextCriteria.Pattern.Refusal
import TextCriteria.Text.Codec

namespace TextCriteria

open TextCriteria.Text

/-!
# Failures

* `Failure` — why an operation was refused.
* `Failure.message` — what is said about it.
* `Value.text`, `Value.shown` — the texts of a value, or the failure of a number that cannot be written.
* `Record.shown` — a record as a text.
-/

/-- What is wrong with a file of configuration. -/
inductive DocumentFault
  | characters
  | tokens
  | grammar
  | composition
  | construction
  deriving DecidableEq, Repr

/-- Why an operation was refused. -/
inductive Failure
  /-- A failure with data. -/
  | record (r : Record)
  /-- The library of patterns refused for a reason other than the text. -/
  | refused (r : Pattern.Refusal)
  /-- A count that is no whole number. -/
  | countKind (name shown : String)
  /-- A count below zero. -/
  | countNegative (name : String) (n : Int)
  /-- Something else where a fragment was expected. -/
  | notFragment (kind : String)
  /-- Something else where a text was expected. -/
  | notText (kind : String)
  /-- Flags of a pattern that are no number. -/
  | flagsKind (kind : String)
  /-- Bytes that were to be split at a text. -/
  | bytesLike
  /-- A list or mapping where a key was expected. -/
  | unhashable (kind : String)
  /-- A value without an operation that texts have. -/
  | noAttribute (kind method : String)
  /-- A text that does not meet its requirements, met by a validator that was called directly. -/
  | unmet (text : String)
  /-- Messages are joined, and one of them is no text. -/
  | notJoinable (index : Nat) (kind : String)
  /-- A model refused its values. -/
  | invalid (complaints : List Complaint)
  /-- The environment holds no value that can be read for a field. -/
  | environmentValue (field : String)
  /-- A file of configuration does not exist. -/
  | noConfig (path : String)
  /-- A file or directory does not exist. -/
  | noFile (path : String)
  /-- A directory stands where a file was expected. -/
  | isDirectory (path : String)
  /-- A file stands where a directory was expected. -/
  | notDirectory (path : String)
  /-- A file stands where a directory was to be made. -/
  | fileExists (path : String)
  /-- A file of configuration is malformed. -/
  | document (fault : DocumentFault)
  /-- A value is out of range, such as a number with too many digits to be written. -/
  | outOfRange (text : String)
  /-- A numeral without any character. -/
  | emptyNumeral
  /-- A value that has to be made of pairs is not. -/
  | notPairs (index length : Nat)
  /-- An item that has to be a pair is no sequence. -/
  | notSequence (index : Nat)
  /-- A value that cannot be gone through. -/
  | notIterable (kind : String)
  /-- Names of fields have to be texts. -/
  | keywords
  /-- An operation has no parameter of a name. -/
  | unexpectedArgument (operation name : String)
  /-- An operation lacks values for parameters. -/
  | missingArguments (operation : String) (names : List String)
  /-- An operation was given more values than it has parameters. -/
  | tooManyArguments (operation : String) (least most given : Nat)
  /-- A format of log lines refers to nothing. -/
  | logFormat (format : String)
  /-- A format of log lines asks for a field that lines do not have. -/
  | logField (name : String)
  /-- A format of log lines cannot be applied. -/
  | logConversion (text : String) (isValue : Bool)
  /-- A character has no such code. -/
  | logCharacter
  /-- A level is not known. -/
  | logLevel (shown : String)
  /-- What a level names is no level. -/
  | levelKind (shown : String)
  /-- The name of an attribute is no text. -/
  | attributeKind (kind : String)
  /-- The level of a message is no whole number. -/
  | messageLevel
  /-- A path is neither a text nor bytes, nor does it stand for one. -/
  | pathKind (kind : String)
  /-- The name of an encoding is no text. -/
  | encodingKind (kind : String)
  /-- The name of a logger is no text. -/
  | loggerName
  /-- An encoding is not known, or none of text. -/
  | encoding (name : String)
  /-- Bytes cannot be read in an encoding. -/
  | decoding (text : String)
  /-- Nothing has been stored under a name. -/
  | nothingStored (name : String)
  deriving Repr

/-- What is said about a limit of patterns. -/
def refusalMessage : Pattern.Refusal → String
  | .malformed cause _ => cause.message
  | .repeatTooLarge => "the repetition number is too large"
  | .tooManyDigits count =>
    "Exceeds the limit (4300 digits) for integer string conversion: value has " ++ toString count ++
      " digits; use sys.set_int_max_str_digits() to increase the limit"
  | .codeTooLarge => "Python int too large to convert to C int"
  | .locale => "cannot use LOCALE flag with a str pattern"
  | .asciiAndUnicode => "ASCII and UNICODE flags are incompatible"
  | .flagsTooLarge => "Python int too large to convert to C int"

/-- Names with quotes and commas, the last one after a conjunction. -/
def nameList : List String → String
  | [] => ""
  | [a] => quoted a
  | [a, b] => quoted a ++ " and " ++ quoted b
  | names =>
    ", ".intercalate (names.dropLast.map quoted) ++ ", and " ++ quoted (names.getLastD "")

/-- What is said about a failure. -/
def Failure.message : Failure → String
  | .record r => Record.written r.message
  | .refused r => refusalMessage r
  | .countKind name shown => name ++ " must be an integer, got " ++ shown
  | .countNegative name n => name ++ " must not be negative, got " ++ decimal n
  | .notFragment kind =>
    "fragment must be a Fragment, got " ++ kind ++
      "; wrap raw patterns with Fragment.lookahead() or Fragment.anchored()"
  | .notText kind =>
    if kind == "bytes" then "cannot use a string pattern on a bytes-like object"
    else "expected string or bytes-like object, got '" ++ kind ++ "'"
  | .flagsKind kind => "unsupported operand type(s) for &: '" ++ kind ++ "' and 'RegexFlag'"
  | .bytesLike => "a bytes-like object is required, not 'str'"
  | .unhashable kind => "unhashable type: '" ++ kind ++ "'"
  | .noAttribute kind method =>
    "'" ++ kind ++ "' object has no attribute '" ++ method ++ "'"
  | .unmet text => text
  | .notJoinable index kind =>
    "sequence item " ++ toString index ++ ": expected str instance, " ++ kind ++ " found"
  | .invalid _ => ""
  | .environmentValue field =>
    "error parsing value for field \"" ++ field ++ "\" from source \"EnvSettingsSource\""
  | .noConfig path => "配置文件不存在: " ++ path
  | .noFile path => "[Errno 2] No such file or directory: " ++ quoted path
  | .isDirectory path => "[Errno 21] Is a directory: " ++ quoted path
  | .notDirectory path => "[Errno 20] Not a directory: " ++ quoted path
  | .fileExists path => "[Errno 17] File exists: " ++ quoted path
  | .document _ => ""
  | .outOfRange text => text
  | .emptyNumeral => "string index out of range"
  | .notPairs index length =>
    "dictionary update sequence element #" ++ toString index ++ " has length " ++ toString length ++
      "; 2 is required"
  | .notSequence index =>
    "cannot convert dictionary update sequence element #" ++ toString index ++ " to a sequence"
  | .notIterable kind => "'" ++ kind ++ "' object is not iterable"
  | .keywords => "keywords must be strings"
  | .unexpectedArgument operation name =>
    operation ++ "() got an unexpected keyword argument " ++ quoted name
  | .missingArguments operation names =>
    operation ++ "() missing " ++ toString names.length ++ " required positional argument" ++
      (if names.length == 1 then "" else "s") ++ ": " ++ nameList names
  | .tooManyArguments operation least most given =>
    operation ++ "() takes " ++ (if least == most then toString most
      else "from " ++ toString least ++ " to " ++ toString most) ++
      " positional argument" ++ (if most == 1 && least == 1 then "" else "s") ++ " but " ++
      toString given ++ (if given == 1 then " was given" else " were given")
  | .logFormat format => "Invalid format '" ++ format ++ "' for '%' style"
  | .logField name => "Formatting field not found in record: " ++ quoted name
  | .logConversion text _ => text
  | .logCharacter => "%c arg not in range(0x110000)"
  | .logLevel shown => "Unknown level: " ++ shown
  | .levelKind shown => "Level not an integer or a valid string: " ++ shown
  | .attributeKind kind => "attribute name must be string, not '" ++ kind ++ "'"
  | .messageLevel => "level must be an integer"
  | .pathKind kind => "expected str, bytes or os.PathLike object, not " ++ kind
  | .encodingKind kind => "open() argument 'encoding' must be str or None, not " ++ kind
  | .loggerName => "A logger name must be a string"
  | .encoding name =>
    if namesOtherCodec name then
      "'" ++ name ++ "' is not a text encoding; use codecs.open() to handle arbitrary codecs"
    else "unknown encoding: " ++ name
  | .decoding text => text
  | .nothingStored name => quoted name

/-! ### Texts of values -/

/-- A number has too many digits to be written. -/
def Failure.unwritable : Failure :=
  .outOfRange ("Exceeds the limit (4300 digits) for integer string conversion; use " ++
    "sys.set_int_max_str_digits() to increase the limit")

/-- What can be written, or the failure of a number that cannot. -/
def orUnwritable {α : Type} : Option α → Except Failure α
  | some a => .ok a
  | none => .error .unwritable

/-- The text of a value as a message shows it. -/
def Value.text (v : Value) : Except Failure String := orUnwritable v.text?

/-- The text of a value with quotes around texts. -/
def Value.shown (v : Value) : Except Failure String := orUnwritable v.shown?

@[simp] theorem Value.text_str (s : String) : (Value.str s).text = .ok s := rfl

namespace Record

/-- The shown form of a code. -/
def shownCode : RecordCode → Except Failure String
  | .known c => .ok ("<ErrorCode." ++ c.code ++ ": " ++ quoted c.code ++ ">")
  | .custom v => v.shown

/-- The shown form of a record. -/
def shown (r : Record) : Except Failure String := do
  .ok (label r.kind ++ "(message=" ++ (← r.message.shown) ++ ", code=" ++ (← shownCode r.code) ++ ")")

end Record
end TextCriteria
