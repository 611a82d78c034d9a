import TextCriteria.Document.Node
import TextCriteria.Document.Numeral
import TextCriteria.Document.Timestamp

namespace TextCriteria.Document

open TextCriteria.Text

/-!
# Contents of documents

* `scalarValue` — the value of a scalar with a tag.
* `Node.flatEntries` — the entries of a mapping after those that are merged into it.
* `checkLevels` — faults level by level, from the outside in.
* `Node.content` — the value of a node without faults.
* `read` — the value of the only document of a text.
-/

/-- The node cannot be made a value. -/
def unmakeable {α : Type} : Except Failure α := .error (.document .construction)

/-! ### Scalars -/

/-- The truth values by their words. -/
def truthWords : List (String × Bool) :=
  [ ("yes", true), ("no", false), ("true", true), ("false", false), ("on", true), ("off", false)]

/-- The truth value of a word in any case. -/
def truthOf (text : String) : Except Failure Value :=
  let word := lowerCase text
  match truthWords.lookup word with
  | some b => .ok (.bool b)
  | none => .error (.nothingStored word)

/-- The value of a digit of base sixty-four. -/
def digit64? (c : Char) : Option Nat :=
  if 'A' ≤ c && c ≤ 'Z' then some (c.toNat - 65)
  else if 'a' ≤ c && c ≤ 'z' then some (c.toNat - 71)
  else if isAsciiDigit c then some (c.toNat + 4)
  else if c == '+' then some 62
  else if c == '/' then some 63
  else none

/-- The digits of base sixty-four, if they make whole bytes with the filling behind them. Other characters are
    passed over, and what follows a complete filling does not count. `acc` holds what was read, last digit
    first, and `fill` counts the signs of filling since the last digit. -/
def digits64? (acc : List Nat) (fill : Nat) : List Char → Option (List Nat)
  | [] => if acc.length % 4 == 0 then some acc.reverse else none
  | c :: rest =>
    if c == '=' then
      -- Two or three digits are filled up to four.
      if 2 ≤ acc.length % 4 && 4 ≤ acc.length % 4 + fill + 1 then some acc.reverse
      else digits64? acc (fill + 1) rest
    else
      match digit64? c with
      | some d => digits64? (d :: acc) 0 rest
      | none => digits64? acc fill rest

/-- The bytes of digits of base sixty-four, of which four make three bytes. -/
def bytesOfDigits : List Nat → Bytes
  | a :: b :: c :: d :: rest =>
    [UInt8.ofNat (a * 4 + b / 16), UInt8.ofNat (b % 16 * 16 + c / 4), UInt8.ofNat (c % 4 * 64 + d)] ++
      bytesOfDigits rest
  | [a, b, c] => [UInt8.ofNat (a * 4 + b / 16), UInt8.ofNat (b % 16 * 16 + c / 4)]
  | [a, b] => [UInt8.ofNat (a * 4 + b / 16)]
  | _ => []

/-- The value of bytes that are written in base sixty-four. -/
def bytesOf (text : String) : Except Failure Value :=
  let s := text.toList
  if s.all fun c => c.toNat < 128 then
    match digits64? [] 0 s with
    | some ds => .ok (.bytes (bytesOfDigits ds))
    | none => unmakeable
  else unmakeable

/-- The date or moment that a text states. -/
def timestampOf (text : String) : Except Failure Value :=
  match Timestamp.read? text.toList with
  | some t => t.value
  | none => .error (.noAttribute "NoneType" "groupdict")

/-- The tags of scalars and how their values are made. -/
def scalarMakers : List (String × (String → Except Failure Value)) :=
  [ ("null", fun _ => .ok .null), ("bool", truthOf),
    ("int", fun s => (wholeNumber s).map .int), ("float", fun s => (realNumber s).map .float),
    ("binary", bytesOf), ("timestamp", timestampOf), ("str", fun s => .ok (.str s))]

/-- How the values of scalars with a tag are made. -/
def makerFor? (tag : String) : Option (String → Except Failure Value) :=
  (scalarMakers.find? fun m => Tag.standard m.1 == tag).map (·.2)

/-- The kinds of values that are made of other nodes. -/
inductive Shape
  | list
  | mapping
  | set
  | pairs (single : Bool)
  deriving DecidableEq, Repr

/-- The tags of values that are made of other nodes. -/
def shapeFor? (tag : String) : Option Shape :=
  [("seq", Shape.list), ("map", .mapping), ("set", .set), ("omap", .pairs true),
    ("pairs", .pairs false)].findSome? fun s => if Tag.standard s.1 == tag then some s.2 else none

/-- The text of a node that stands for a scalar: a mapping may have one under the sign of a value. -/
def Node.scalarText : Node → Except Failure String
  | .scalar _ text => .ok text
  | .sequence _ _ => unmakeable
  | .mapping _ entries => entryText entries
where
  entryText : List (Node × Node) → Except Failure String
    | [] => unmakeable
    | (k, v) :: rest => if k.tag == Tag.value then v.scalarText else entryText rest

/-! ### Merging -/

/-- A sign of a value that is a key is a text. -/
def plainKey (k : Node) : Node :=
  match k with
  | .scalar tag text => .scalar (if tag == Tag.value then Tag.text else tag) text
  | k => k

mutual

/-- The entries of a mapping after those that are merged into it. -/
def Node.flatEntries : Node → Except Failure (List (Node × Node))
  | .mapping _ entries => do
    let (merged, own) ← splitEntries entries
    .ok (merged ++ own)
  | _ => unmakeable

/-- The entries that are merged into a mapping and its own ones. -/
def splitEntries : List (Node × Node) → Except Failure (List (Node × Node) × List (Node × Node))
  | [] => .ok ([], [])
  | (k, v) :: rest =>
    if k.tag == Tag.merge then do
      let here ← v.mergedEntries
      let (merged, own) ← splitEntries rest
      .ok (here ++ merged, own)
    else do
      let (merged, own) ← splitEntries rest
      .ok (merged, (plainKey k, v) :: own)

/-- The entries that a node gives to a mapping. Of a list of mappings the first one wins, so it comes
    last. -/
def Node.mergedEntries : Node → Except Failure (List (Node × Node))
  | .mapping _ entries => do
    let (merged, own) ← splitEntries entries
    .ok (merged ++ own)
  | .sequence _ items => do
    -- Later entries win, so the first mapping of the list goes to the end.
    .ok (← allFlatEntries items).reverse.flatten
  | .scalar _ _ => unmakeable

/-- The entries of some mappings. -/
def allFlatEntries : List Node → Except Failure (List (List (Node × Node)))
  | [] => .ok []
  | n :: rest => do
    let entries ← n.flatEntries
    .ok (entries :: (← allFlatEntries rest))

end

/-! ### Parts -/

/-- The parts of a node that its value is made of; keys are marked. -/
def Node.parts (n : Node) : Shape → Except Failure (List (Bool × Node))
  | .list =>
    match n with
    | .sequence _ items => .ok (items.map fun i => (false, i))
    | _ => unmakeable
  | .mapping | .set => do
    .ok ((← n.flatEntries).flatMap fun e => [(true, e.1), (false, e.2)])
  | .pairs _ =>
    match n with
    | .sequence _ items => do
      let pairs ← items.mapM fun
        | .mapping _ [(k, v)] => .ok [(false, k), (false, v)]
        | _ => unmakeable
      .ok pairs.flatten
    | _ => unmakeable

/-- A node whose value is made at once is checked; one that is made of others is left for later, and
    cannot be a key. -/
def checkPart (part : Bool × Node) : Except Failure (List Node) :=
  let n := part.2
  match makerFor? n.tag, shapeFor? n.tag with
  | some make, _ => do
    let _ ← make (← n.scalarText)
    .ok []
  -- Lists and mappings are no keys.
  | none, some _ => if part.1 then unmakeable else .ok [n]
  | none, none => unmakeable

/-- The parts of some nodes, checked one after the other. -/
def checkParts (nodes : List Node) : Except Failure (List Node) := do
  let later ← nodes.mapM fun n => do
    match shapeFor? n.tag with
    | some shape => do
      let parts ← n.parts shape
      .ok (← parts.mapM checkPart).flatten
    | none => .ok []
  .ok later.flatten

/-- Faults level by level. `depth` bounds the number of levels. -/
def checkLevels : Nat → List Node → Except Failure Unit
  | 0, _ => .ok ()
  | _, [] => .ok ()
  | depth + 1, nodes => do checkLevels depth (← checkParts nodes)

mutual

/-- How deep the nodes of a document are nested. -/
def Node.depth : Node → Nat
  | .scalar _ _ => 1
  | .sequence _ items => itemsDepth items + 1
  | .mapping _ entries => entriesDepth entries + 1

/-- The same for items. -/
def itemsDepth : List Node → Nat
  | [] => 0
  | n :: rest => max n.depth (itemsDepth rest)

/-- The same for entries. -/
def entriesDepth : List (Node × Node) → Nat
  | [] => 0
  | (k, v) :: rest => max (max k.depth v.depth) (entriesDepth rest)

end

/-! ### Values -/

/-- Whether two values are the same key. Truth values are the numbers zero and one. -/
def sameKey : Value → Value → Bool
  | .null, .null => true
  | .str a, .str b => a == b
  | .bytes a, .bytes b => a == b
  | .date a, .date b => a == b
  | .moment a s, .moment b t => a == b && s == t
  | a, b =>
    match number? a, number? b with
    | some x, some y => match x, y with
      | .inl m, .inl n => m == n
      | .inr x, .inr y => x == y
      | .inl n, .inr x | .inr x, .inl n => isNumber n x
    | _, _ => false
where
  number? : Value → Option (Int ⊕ Float)
    | .bool b => some (.inl (if b then 1 else 0))
    | .int n => some (.inl n)
    | .float x => some (.inr x)
    | _ => none
  isNumber (n : Int) (x : Float) : Bool := n.natAbs < Nat.pow 2 53 && Float.ofInt n == x

/-- An entry that replaces the value of an earlier one of its key. -/
def putEntry (k v : Value) : List (Value × Value) → List (Value × Value)
  | [] => [(k, v)]
  | (k', v') :: rest => if sameKey k' k then (k', v) :: rest else (k', v') :: putEntry k v rest

/-- Values in pairs. -/
def inPairs : List Value → List (Value × Value)
  | k :: v :: rest => (k, v) :: inPairs rest
  | _ => []

/-- The value that is made of parts. -/
def assemble (shape : Shape) (parts : List Value) : Value :=
  match shape with
  | .list => .list parts
  | .mapping => .dict (entries parts)
  -- A set is written as a mapping, of which only the keys count.
  | .set => .set ((entries parts).map (·.1))
  | .pairs _ => .list ((inPairs parts).map fun e => .tuple [e.1, e.2])
where
  entries (parts : List Value) : List (Value × Value) :=
    (inPairs parts).foldl (fun acc e => putEntry e.1 e.2 acc) []

/-- The value of a node. `depth` bounds the nesting. -/
def Node.content : Nat → Node → Except Failure Value
  | 0, _ => unmakeable
  | depth + 1, n =>
    match makerFor? n.tag, shapeFor? n.tag with
    | some make, _ => do make (← n.scalarText)
    | none, some shape => do
      let parts ← n.parts shape
      .ok (assemble shape (← parts.mapM fun p => Node.content depth p.2))
    | none, none => unmakeable

/-- The characters that documents may hold. -/
def isDocumentChar (c : Char) : Bool :=
  let n := c.toNat
  n == 9 || n == 10 || n == 13 || (32 ≤ n && n ≤ 126) || n == 0x85 || (0xa0 ≤ n && n ≤ 0xd7ff) ||
    (0xe000 ≤ n && n ≤ 0xfffd) || 0x10000 ≤ n

/-- The value of the only document of a text, or nothing if there is none. -/
def read (text : List Char) : Except Failure Value := do
  if !text.all isDocumentChar then .error (.document .characters)
  match ← nodeOf text with
  | none => .ok .null
  | some n =>
    let depth := n.depth + 1
    -- Of several faults the outermost one is reported, and on one level the first.
    let later ← checkPart (false, n)
    checkLevels depth later
    n.content depth

end TextCriteria.Document
