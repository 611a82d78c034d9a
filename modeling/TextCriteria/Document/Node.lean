import TextCriteria.Document.Event
import TextCriteria.Document.Tag

namespace TextCriteria.Document

/-!
# Nodes of a document

* `Node` — a tagged text, list of nodes or list of pairs of nodes.
* `Composer` — the events that are left and the nodes that have a name.
* `Composer.single` — the node of the only document, if there is one.
-/

/-- The structure of a document. -/
inductive Node
  | scalar (tag text : String)
  | sequence (tag : String) (items : List Node)
  | mapping (tag : String) (entries : List (Node × Node))
  deriving Inhabited, Repr

/-- The tag of a node. -/
def Node.tag : Node → String
  | .scalar tag _ | .sequence tag _ | .mapping tag _ => tag

/-- The events that are left, with the fault that ends them, and the nodes that have a name. The node
    of a name is missing as long as it is not complete. -/
structure Composer where
  rest : List Event
  fault : Option Failure
  anchors : List (String × Option Node) := []

namespace Composer

/-- An operation that may find that the events make no nodes. -/
abbrev Step := StateT Composer (Except Failure)

/-- The events make no nodes. -/
def refuse {α : Type} : Step α := throw (.document .composition)

/-- The next event. -/
def peek : Step Event := do
  match (← get).rest with
  | e :: _ => return e
  | [] => throw ((← get).fault.getD (.document .composition))

/-- The next event, which is passed over. -/
def take : Step Event := do
  let e ← peek
  modify fun c => { c with rest := c.rest.drop 1 }
  return e

/-- A node gets a name. -/
def name (anchor : Option String) (n : Option Node) : Step Unit :=
  match anchor with
  | some a => modify fun c => { c with anchors := (a, n) :: c.anchors }
  | none => return

/-- A name is given only once. -/
def checkName (anchor : Option String) : Step Unit := do
  match anchor with
  | some a => if ((← get).anchors.lookup a).isSome then refuse
  | none => return

/-- A tag, unless it says nothing. -/
def stated (mark : Mark) (default : String) : String :=
  match mark.tag with
  | some t => if t == "!" then default else t
  | none => default

/-- The node that an alias stands for. -/
def named (a : String) : Step Node := do
  match (← get).anchors.lookup a with
  | some (some n) => return n
  | some none => throw (.document .construction)
  | none => refuse

mutual

/-- The next node. -/
def node : Nat → Step Node
  | 0 => refuse
  | fuel + 1 => do
    match ← take with
    | .alias a => named a
    | .scalar mark isOpen text => do
      checkName mark.anchor
      let n := Node.scalar (stated mark (if isOpen then Tag.ofText text else Tag.text)) text
      name mark.anchor (some n)
      return n
    | .sequenceStart mark => do
      checkName mark.anchor
      name mark.anchor none
      let n := Node.sequence (stated mark Tag.list) (← items fuel)
      name mark.anchor (some n)
      return n
    | .mappingStart mark => do
      checkName mark.anchor
      name mark.anchor none
      let n := Node.mapping (stated mark Tag.mapping) (← entries fuel)
      name mark.anchor (some n)
      return n
    | _ => refuse

/-- The items up to the end of a list. -/
def items : Nat → Step (List Node)
  | 0 => refuse
  | fuel + 1 => do
    match ← peek with
    | .sequenceEnd => do
      let _ ← take
      return []
    | _ => do
      let n ← node fuel
      return n :: (← items fuel)

/-- The entries up to the end of a mapping. -/
def entries : Nat → Step (List (Node × Node))
  | 0 => refuse
  | fuel + 1 => do
    match ← peek with
    | .mappingEnd => do
      let _ ← take
      return []
    | _ => do
      let k ← node fuel
      let v ← node fuel
      return (k, v) :: (← entries fuel)

end

/-- The node of the only document, if there is one. -/
def single : Step (Option Node) := do
  let n ← match ← peek with
    | .streamEnd => pure none
    | _ => do
      let _ ← take
      let n ← node (2 * (← get).rest.length + 2)
      let _ ← take
      pure (some n)
  match ← peek with
  | .streamEnd => return n
  | _ => refuse

end Composer

/-- The node of the only document of a text, if there is one. -/
def nodeOf (text : List Char) : Except Failure (Option Node) := do
  let (ts, fault) := tokens text
  let (es, fault) := events ts fault
  let (n, _) ← Composer.single.run { rest := es, fault }
  .ok n

end TextCriteria.Document
