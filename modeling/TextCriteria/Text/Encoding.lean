import TextCriteria.Text.Codec

namespace TextCriteria.Text

/-!
# Encodings of text

Some encodings have rules of their own. All others are known by their names, and what their characters are
written as is told by a table for each.

* `Encoding` — the encodings; `Encoding.named?` — the encoding with a name.
* `CodeTables` — the tables of the encodings without rules of their own.
* `Encoding.encode?` — the bytes of a text, if the encoding has all its characters.
* `Encoding.decode` — the text of some bytes, or why they are no text.
-/

/-- A sequence of bytes. -/
abbrev Bytes := List UInt8

/-- The order of the bytes of a unit. -/
inductive Endian
  | little
  | big
  deriving DecidableEq, Repr

/-- The encodings. A marked encoding begins a file with a mark. -/
inductive Encoding
  | utf8 (marked : Bool)
  | utf16 (order : Option Endian)
  | utf32 (order : Option Endian)
  | latin1
  | ascii
  | further (codec : String)
  deriving DecidableEq, Repr

/-- The bytes of characters, by the name of the encoding. -/
abbrev CodeTables := List (String × List (Char × Bytes))

namespace Encoding

/-- The name of an encoding in messages. -/
def label : Encoding → String
  | .utf8 false => "utf-8"
  | .utf8 true => "utf-8-sig"
  | .utf16 none => "utf-16"
  | .utf16 (some .little) => "utf-16-le"
  | .utf16 (some .big) => "utf-16-be"
  | .utf32 none => "utf-32"
  | .utf32 (some .little) => "utf-32-le"
  | .utf32 (some .big) => "utf-32-be"
  | .latin1 => "latin-1"
  | .ascii => "ascii"
  | .further codec => codec

/-- The encoding with the first of its names. -/
def ofCodec : String → Encoding
  | "utf_8" => .utf8 false
  | "utf_8_sig" => .utf8 true
  | "utf_16" => .utf16 none
  | "utf_16_le" => .utf16 (some .little)
  | "utf_16_be" => .utf16 (some .big)
  | "utf_32" => .utf32 none
  | "utf_32_le" => .utf32 (some .little)
  | "utf_32_be" => .utf32 (some .big)
  | "latin_1" => .latin1
  | "ascii" => .ascii
  | codec => .further codec

/-- The encoding with a name. -/
def named? (name : String) : Option Encoding := (codecNamed? name).map ofCodec

/-! ### Bytes of text -/

/-- The bytes of a number, the lowest first. -/
def littleBytes : Nat → Nat → Bytes
  | 0, _ => []
  | count + 1, n => UInt8.ofNat (n % 256) :: littleBytes count (n / 256)

/-- The bytes of a number in an order. -/
def unitBytes (order : Endian) (count n : Nat) : Bytes :=
  match order with
  | .little => littleBytes count n
  | .big => (littleBytes count n).reverse

/-- The one or two units of sixteen bits of a character. -/
def units16 (c : Char) : List Nat :=
  let n := c.toNat
  if n < 0x10000 then [n]
  else [0xd800 + (n - 0x10000) / 0x400, 0xdc00 + (n - 0x10000) % 0x400]

/-- The bytes of a character in units of eight bits. -/
def utf8Bytes (c : Char) : Bytes :=
  let n := c.toNat
  let byte (k : Nat) := UInt8.ofNat k
  let tail (k : Nat) := UInt8.ofNat (0x80 + k % 64)
  if n < 0x80 then [byte n]
  else if n < 0x800 then [byte (0xc0 + n / 64), tail n]
  else if n < 0x10000 then [byte (0xe0 + n / 4096), tail (n / 64), tail n]
  else [byte (0xf0 + n / 262144), tail (n / 4096), tail (n / 64), tail n]

/-- The bytes of a character. -/
def encodeChar? (tables : CodeTables) (e : Encoding) (c : Char) : Option Bytes :=
  match e with
  | .utf8 _ => some (utf8Bytes c)
  | .utf16 order => some ((units16 c).flatMap (unitBytes (order.getD .little) 2))
  | .utf32 order => some (unitBytes (order.getD .little) 4 c.toNat)
  | .latin1 => if c.toNat < 256 then some [UInt8.ofNat c.toNat] else none
  | .ascii => if c.toNat < 128 then some [UInt8.ofNat c.toNat] else none
  | .further codec => tables.lookup codec >>= List.lookup c

/-- The mark at the start of a file. -/
def mark : Encoding → Bytes
  | .utf8 true => [0xef, 0xbb, 0xbf]
  | .utf16 none => [0xff, 0xfe]
  | .utf32 none => [0xff, 0xfe, 0, 0]
  | _ => []

/-- The bytes of a text, if the encoding has all its characters. -/
def encode? (e : Encoding) (tables : CodeTables) (s : String) : Option Bytes :=
  (s.toList.mapM (e.encodeChar? tables)).map List.flatten

/-! ### Text of bytes -/

/-- What is wrong with some bytes: where, how many and why. -/
structure DecodeFault where
  start : Nat
  count : Nat
  reason : String
  deriving DecidableEq, Repr

/-- Whether a byte continues a character. -/
def isTail (b : UInt8) : Bool := 0x80 ≤ b && b < 0xc0

/-- The least and the greatest second byte after a first one. -/
def secondRange (b : UInt8) : UInt8 × UInt8 :=
  if b == 0xe0 then (0xa0, 0xbf) else if b == 0xed then (0x80, 0x9f)
  else if b == 0xf0 then (0x90, 0xbf) else if b == 0xf4 then (0x80, 0x8f) else (0x80, 0xbf)

/-- The next `more` bytes of a character whose value so far is `n`, after `taken` bytes. -/
def tails (start : Nat) : Nat → Nat → Nat → Bytes → Except DecodeFault (Nat × Bytes)
  | 0, _, n, s => .ok (n, s)
  | _ + 1, taken, _, [] => .error ⟨start, taken, "unexpected end of data"⟩
  | more + 1, taken, n, b :: rest =>
    if isTail b then tails start more (taken + 1) (n * 64 + (b.toNat - 0x80)) rest
    else .error ⟨start, taken, "invalid continuation byte"⟩

/-- The character that begins with a byte, and what follows it. -/
def utf8Char (start : Nat) (b : UInt8) (rest : Bytes) : Except DecodeFault (Nat × Bytes) :=
  if b < 0x80 then .ok (b.toNat, rest)
  else if b < 0xc2 || 0xf4 < b then .error ⟨start, 1, "invalid start byte"⟩
  else
    let (more, n) :=
      if b < 0xe0 then (1, b.toNat - 0xc0) else if b < 0xf0 then (2, b.toNat - 0xe0)
      else (3, b.toNat - 0xf0)
    match rest with
    | [] => .error ⟨start, 1, "unexpected end of data"⟩
    | c :: _ =>
      let (lo, hi) := secondRange b
      if c < lo || hi < c then .error ⟨start, 1, "invalid continuation byte"⟩
      else tails start more 1 n rest

/-- Text in units of eight bits. -/
def decodeUtf8 (acc : List Char) (position : Nat) : Nat → Bytes → Except DecodeFault (List Char)
  | 0, _ => .ok acc.reverse
  | _, [] => .ok acc.reverse
  | fuel + 1, b :: rest => do
    let (n, rest') ← utf8Char position b rest
    decodeUtf8 (Char.ofNat n :: acc) (position + 1 + rest.length - rest'.length) fuel rest'

/-- The number that bytes stand for. -/
def ofBytes (order : Endian) (bytes : Bytes) : Nat :=
  let high := match order with
    | .little => bytes.reverse
    | .big => bytes
  high.foldl (fun n b => n * 256 + b.toNat) 0

/-- Text in units of sixteen bits. -/
def decodeUtf16 (order : Endian) (acc : List Char) (position : Nat) : Bytes →
    Except DecodeFault (List Char)
  | [] => .ok acc.reverse
  | [_] => .error ⟨position, 1, "truncated data"⟩
  | a :: b :: rest =>
    let high := ofBytes order [a, b]
    if 0xd800 ≤ high && high < 0xdc00 then
      match rest with
      | c :: d :: rest =>
        let low := ofBytes order [c, d]
        if 0xdc00 ≤ low && low < 0xe000 then
          decodeUtf16 order (Char.ofNat (0x10000 + (high - 0xd800) * 0x400 + (low - 0xdc00)) :: acc)
            (position + 4) rest
        else .error ⟨position, 2, "illegal UTF-16 surrogate"⟩
      | rest => .error ⟨position, 2 + rest.length, "unexpected end of data"⟩
    else if 0xdc00 ≤ high && high < 0xe000 then .error ⟨position, 2, "illegal encoding"⟩
    else decodeUtf16 order (Char.ofNat high :: acc) (position + 2) rest

/-- Text in units of thirty-two bits. -/
def decodeUtf32 (order : Endian) (acc : List Char) (position : Nat) : Bytes →
    Except DecodeFault (List Char)
  | [] => .ok acc.reverse
  | a :: b :: c :: d :: rest =>
    let n := ofBytes order [a, b, c, d]
    if 0x110000 ≤ n then .error ⟨position, 4, "code point not in range(0x110000)"⟩
    else decodeUtf32 order (Char.ofNat n :: acc) (position + 4) rest
  | rest => .error ⟨position, rest.length, "truncated data"⟩

/-- Text of one byte a character, below a bound. -/
def decodeBytes (bound : Nat) (acc : List Char) (position : Nat) : Bytes →
    Except DecodeFault (List Char)
  | [] => .ok acc.reverse
  | b :: rest =>
    if b.toNat < bound then decodeBytes bound (Char.ofNat b.toNat :: acc) (position + 1) rest
    else .error ⟨position, 1, "ordinal not in range(" ++ toString bound ++ ")"⟩

/-- Text in the characters of a table. `fuel` bounds their number. -/
def decodeByTable (table : List (Char × Bytes)) (acc : List Char) (position : Nat) :
    Nat → Bytes → Except DecodeFault (List Char)
  | 0, _ => .ok acc.reverse
  | _, [] => .ok acc.reverse
  | fuel + 1, bytes =>
    match table.find? fun e => !e.2.isEmpty && e.2.isPrefixOf bytes with
    | some (c, code) =>
      decodeByTable table (c :: acc) (position + code.length) fuel (bytes.drop code.length)
    | none => .error ⟨position, 1, "character maps to <undefined>"⟩

/-- Bytes without a mark at the start. -/
def dropMark (mark bytes : Bytes) : Bytes :=
  if bytes.take mark.length == mark then bytes.drop mark.length else bytes

/-- The text of some bytes. -/
def decode (e : Encoding) (bytes : Bytes) (tables : CodeTables := []) : Except DecodeFault (List Char) :=
  let bare := dropMark e.mark bytes
  match e with
  | .utf8 _ => decodeUtf8 [] 0 (bare.length + 1) bare
  | .utf16 (some order) => decodeUtf16 order [] 0 bytes
  | .utf16 none =>
    match bytes with
    | 0xfe :: 0xff :: rest => decodeUtf16 .big [] 2 rest
    | _ => decodeUtf16 .little [] (bytes.length - bare.length) bare
  | .utf32 (some order) => decodeUtf32 order [] 0 bytes
  | .utf32 none =>
    match bytes with
    | 0 :: 0 :: 0xfe :: 0xff :: rest => decodeUtf32 .big [] 4 rest
    | _ => decodeUtf32 .little [] (bytes.length - bare.length) bare
  | .latin1 => decodeBytes 256 [] 0 bytes
  | .ascii => decodeBytes 128 [] 0 bytes
  | .further codec => decodeByTable ((tables.lookup codec).getD []) [] 0 bytes.length bytes

/-- What is said about bytes that are no text. -/
def faultMessage (e : Encoding) (bytes : Bytes) (f : DecodeFault) : String :=
  let place :=
    if f.count == 1 then
      let b := (bytes.drop f.start).headD 0
      "byte 0x" ++ String.ofList (Nat.toDigits 16 (256 + b.toNat)).tail ++ " in position " ++
        toString f.start
    else
      "bytes in position " ++ toString f.start ++ "-" ++ toString (f.start + f.count - 1)
  "'" ++ e.label ++ "' codec can't decode " ++ place ++ ": " ++ f.reason

end Encoding

/-- A text with every kind of line break as one line feed. -/
def unifyBreaks : List Char → List Char
  | [] => []
  | '\r' :: '\n' :: rest => '\n' :: unifyBreaks rest
  | '\r' :: rest => '\n' :: unifyBreaks rest
  | c :: rest => c :: unifyBreaks rest

end TextCriteria.Text
