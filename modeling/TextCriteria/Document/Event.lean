import TextCriteria.Document.Token

namespace TextCriteria.Document

/-!
# Events of a document

* `Event` — the beginnings, ends and leaves of the structure of a document.
* `Goal` — what may come next; `Grammar`, the tokens that are left and the goals that are open.
* `Grammar.next` — the next event.
* `events` — all events, or those before a fault.
-/

/-- An anchor and a tag in front of a node. -/
structure Mark where
  anchor : Option String := none
  tag : Option String := none
  deriving DecidableEq, Repr

/-- The parts of the structure of a document. A scalar is `open_` if its text may tell its kind. -/
inductive Event
  | documentStart
  | documentEnd
  | streamEnd
  | alias (name : String)
  | scalar (mark : Mark) (open_ : Bool) (text : String)
  | sequenceStart (mark : Mark)
  | sequenceEnd
  | mappingStart (mark : Mark)
  | mappingEnd
  deriving DecidableEq, Repr

/-- What may come next. -/
inductive Goal
  | stream
  | document
  | content
  | documentEnd
  | node (block indentless : Bool)
  | blockItem
  | indentlessItem
  | blockKey
  | blockValue
  | flowItem (first : Bool)
  | pairKey
  | pairValue
  | pairEnd
  | flowKey (first : Bool)
  | flowValue
  | flowMissingValue
  | finished
  deriving DecidableEq, Repr

/-- The tokens that are left, with the fault that ends them, and the goals that are open. -/
structure Grammar where
  rest : List Token
  fault : Option Failure
  goal : Goal := .stream
  later : List Goal := []
  handles : List (String × String) := []

namespace Grammar

/-- An operation that may find that the tokens make no document. -/
abbrev Step := StateT Grammar (Except Failure)

/-- The tokens make no document. -/
def refuse {α : Type} : Step α := throw (.document .grammar)

/-- The next token. -/
def peek : Step Token := do
  match (← get).rest with
  | t :: _ => return t
  | [] => throw ((← get).fault.getD (.document .grammar))

/-- The next token is passed over. -/
def drop : Step Unit := modify fun g => { g with rest := g.rest.drop 1 }

/-- The goal after the present one. -/
def await (goal : Goal) : Step Unit := modify fun g => { g with goal }

/-- A goal for the time after the next ones. -/
def push (goal : Goal) : Step Unit := modify fun g => { g with later := goal :: g.later }

/-- Back to the last goal that was left open. -/
def pop : Step Unit :=
  modify fun g => { g with goal := g.later.headD .finished, later := g.later.drop 1 }

/-- A scalar that is not there. -/
def missing : Event := .scalar {} true ""

/-! ### Nodes -/

/-- The tag that a handle and an address stand for. -/
def tagText (handle : Option (List Char)) (address : List Char) : Step String := do
  match handle with
  | none => return String.ofList address
  | some h =>
    match (← get).handles.lookup (String.ofList h) with
    | some start => return start ++ String.ofList address
    | none => refuse

/-- The anchor, if it comes next. -/
def anchor? : Step (Option String) := do
  match ← peek with
  | .anchor name =>
    drop
    return some (String.ofList name)
  | _ => return none

/-- The handle and address of a tag, if it comes next. -/
def tag? : Step (Option (Option (List Char) × List Char)) := do
  match ← peek with
  | .tag handle address =>
    drop
    return some (handle, address)
  | _ => return none

/-- An anchor and a tag in any order. -/
def readMark : Step Mark := do
  let anchor ← anchor?
  let tag ← tag?
  -- The anchor may come before or after the tag, but only once.
  let anchor ← if anchor.isNone && tag.isSome then anchor? else pure anchor
  match tag with
  | none => return { anchor, tag := none }
  | some (handle, address) => return { anchor, tag := some (← tagText handle address) }

/-- A node with its mark. -/
def markedNode (block indentless : Bool) : Step Event := do
  let mark ← readMark
  let t ← peek
  match t, indentless, block with
  | .blockEntry, true, _ =>
    await .indentlessItem
    return .sequenceStart mark
  | .scalar plain text, _, _ =>
    drop
    pop
    return .scalar mark ((plain && mark.tag.isNone) || mark.tag == some "!") (String.ofList text)
  | .sequenceOpen, _, _ =>
    drop
    await (.flowItem true)
    return .sequenceStart mark
  | .mappingOpen, _, _ =>
    drop
    await (.flowKey true)
    return .mappingStart mark
  | .blockSequence, _, true =>
    drop
    await .blockItem
    return .sequenceStart mark
  | .blockMapping, _, true =>
    drop
    await .blockKey
    return .mappingStart mark
  | _, _, _ =>
    -- A mark with nothing behind it stands for an empty scalar.
    if mark.anchor.isSome || mark.tag.isSome then
      pop
      return .scalar mark (mark.tag.isNone || mark.tag == some "!") ""
    else refuse

/-- A node: an alias, or a node with its mark. -/
def node (block indentless : Bool) : Step Event := do
  match ← peek with
  | .alias name =>
    drop
    pop
    return .alias (String.ofList name)
  | _ => markedNode block indentless

/-- A node if the next token does not end its place, else a scalar that is not there. -/
def nodeUnless (ends : Token → Bool) (block indentless : Bool) (goal : Goal) : Step Event := do
  if ends (← peek) then
    await goal
    return missing
  else
    push goal
    node block indentless

/-! ### Documents -/

/-- The handles that need no directive. -/
def standardHandles : List (String × String) := [("!", "!"), ("!!", "tag:yaml.org,2002:")]

/-- Directives in front of a document. -/
def directives (versioned : Bool) (handles : List (String × String)) : List Token → Step Unit
  | .directive (.version major) :: rest => do
    if versioned || major != 1 then refuse
    drop
    directives true handles rest
  | .directive (.handle name address) :: rest => do
    let name := String.ofList name
    if (handles.lookup name).isSome then refuse
    drop
    directives versioned (handles ++ [(name, String.ofList address)]) rest
  | .directive .unknown :: rest => do
    drop
    directives versioned handles rest
  | _ => modify fun g => { g with handles := handles ++ standardHandles }

/-- Marks at the end of documents are passed over. -/
def dropEnds : List Token → Step Unit
  | .documentEnd :: rest => do
    drop
    dropEnds rest
  | _ => return

/-- A document with its mark, or the end. -/
def document : Step Event := do
  dropEnds (← get).rest
  match ← peek with
  | .streamEnd =>
    drop
    await .finished
    return .streamEnd
  | _ =>
    directives false [] (← get).rest
    match ← peek with
    | .documentStart =>
      drop
      push .documentEnd
      await .content
      return .documentStart
    | _ => refuse

/-- A document that may come without its mark. -/
def firstDocument : Step Event := do
  match ← peek with
  | .directive _ => document
  | .documentStart => document
  | .streamEnd => document
  | _ =>
    modify fun g => { g with handles := standardHandles }
    push .documentEnd
    await (.node true false)
    return .documentStart

/-- What a document holds. -/
def content : Step Event := do
  match ← peek with
  | .directive _ | .documentStart | .documentEnd | .streamEnd =>
    pop
    return missing
  | _ => node true false

/-- The end of a document. -/
def endDocument : Step Event := do
  match ← peek with
  | .documentEnd => drop
  | _ => pure ()
  await .document
  return .documentEnd

/-! ### Blocks -/

/-- What ends the place of a key or value in a block. -/
def endsPlace : Token → Bool
  | .key | .value | .blockEnd => true
  | _ => false

/-- What ends the place of an item in a block. -/
def endsItem : Token → Bool
  | .blockEntry | .blockEnd => true
  | _ => false

/-- What ends the place of an item in a sequence at the column of its key. -/
def endsIndentlessItem (t : Token) : Bool := t == .blockEntry || endsPlace t

/-- An item of a block, or its end. -/
def blockItem : Step Event := do
  match ← peek with
  | .blockEntry =>
    drop
    nodeUnless endsItem true false .blockItem
  | .blockEnd =>
    drop
    pop
    return .sequenceEnd
  | _ => refuse

/-- An item of a sequence at the column of its key, or its end. -/
def indentlessItem : Step Event := do
  match ← peek with
  | .blockEntry =>
    drop
    nodeUnless endsIndentlessItem true false .indentlessItem
  | _ =>
    pop
    return .sequenceEnd

/-- A key of a block, or its end. -/
def blockKey : Step Event := do
  match ← peek with
  | .key =>
    drop
    nodeUnless endsPlace true true .blockValue
  | .blockEnd =>
    drop
    pop
    return .mappingEnd
  | _ => refuse

/-- The value of a key in a block. -/
def blockValue : Step Event := do
  match ← peek with
  | .value =>
    drop
    nodeUnless endsPlace true true .blockKey
  | _ =>
    await .blockKey
    return missing

/-! ### Brackets -/

/-- A comma, except before the first item. -/
def comma (first : Bool) : Step Unit := do
  if !first then
    match ← peek with
    | .flowEntry => drop
    | _ => refuse

/-- An item between brackets, or their end. -/
def flowItem (first : Bool) : Step Event := do
  if (← peek) != .sequenceClose then
    comma first
    match ← peek with
    | .key =>
      await .pairKey
      return .mappingStart {}
    | .sequenceClose => pure ()
    | _ =>
      push (.flowItem false)
      return ← node false false
  let _ ← peek
  drop
  pop
  return .sequenceEnd

/-- What ends the place of a value in a pair between brackets. -/
def endsPairValue : Token → Bool
  | .flowEntry | .sequenceClose => true
  | _ => false

/-- What ends the place of a key in a pair between brackets. -/
def endsPairKey (t : Token) : Bool := t == .value || endsPairValue t

/-- The key of a pair between brackets. -/
def pairKey : Step Event := do
  drop
  nodeUnless endsPairKey false false .pairValue

/-- The value of a pair between brackets. -/
def pairValue : Step Event := do
  match ← peek with
  | .value =>
    drop
    nodeUnless endsPairValue false false .pairEnd
  | _ =>
    await .pairEnd
    return missing

/-- The end of a pair between brackets. -/
def pairEnd : Step Event := do
  await (.flowItem false)
  let _ ← peek
  return .mappingEnd

/-- What ends the place of a value between braces. -/
def endsFlowValue : Token → Bool
  | .flowEntry | .mappingClose => true
  | _ => false

/-- What ends the place of a key between braces. -/
def endsFlowKey (t : Token) : Bool := t == .value || endsFlowValue t

/-- A key between braces, or their end. -/
def flowKey (first : Bool) : Step Event := do
  if (← peek) != .mappingClose then
    comma first
    match ← peek with
    | .key =>
      drop
      return ← nodeUnless endsFlowKey false false .flowValue
    | .mappingClose => pure ()
    | _ =>
      push .flowMissingValue
      return ← node false false
  let _ ← peek
  drop
  pop
  return .mappingEnd

/-- The value of a key between braces. -/
def flowValue : Step Event := do
  match ← peek with
  | .value =>
    drop
    nodeUnless endsFlowValue false false (.flowKey false)
  | _ =>
    await (.flowKey false)
    return missing

/-- The value of an entry between braces that has none. -/
def flowMissingValue : Step Event := do
  await (.flowKey false)
  let _ ← peek
  return missing

/-! ### All events -/

/-- The next event. -/
def next : Step Event := do
  match (← get).goal with
  | .stream => firstDocument
  | .document => document
  | .content => content
  | .documentEnd => endDocument
  | .node block indentless => node block indentless
  | .blockItem => blockItem
  | .indentlessItem => indentlessItem
  | .blockKey => blockKey
  | .blockValue => blockValue
  | .flowItem first => flowItem first
  | .pairKey => pairKey
  | .pairValue => pairValue
  | .pairEnd => pairEnd
  | .flowKey first => flowKey first
  | .flowValue => flowValue
  | .flowMissingValue => flowMissingValue
  | .finished => refuse

/-- All events, or those before a fault. -/
def readAll (g : Grammar) : Nat → List Event × Option Failure
  | 0 => ([], none)
  | fuel + 1 =>
    match next.run g with
    | .error f => ([], some f)
    | .ok (.streamEnd, _) => ([.streamEnd], none)
    | .ok (e, g) =>
      let (es, fault) := g.readAll fuel
      (e :: es, fault)

end Grammar

/-- The events that some tokens make, and the fault that ends them, if there is one. -/
def events (tokens : List Token) (fault : Option Failure) : List Event × Option Failure :=
  let g : Grammar := { rest := tokens, fault }
  g.readAll (5 * (tokens.length + 2))

end TextCriteria.Document
