import TextCriteria.Failure.Basic
import TextCriteria.Text.Encoding
import TextCriteria.Text.Pieces

namespace TextCriteria

open TextCriteria.Text

/-!
# Files

Files and directories below a working directory, which paths show by a sign of its own.

* `Path.absolute`, `Path.join`, `Path.normal` — operations on the texts of paths.
* `Files.place` — where a path leads, step by step.
* `Files.write`, `Files.remove`, `Files.read` — whole files.
* `Files.makeDirectories`, `Files.openForAppend` — what a log file needs.
-/

/-! ### Paths -/

namespace Path

/-- The working directory as paths show it. -/
def workingDirectory : String := "<cwd>"

/-- Whether a path leads from the root. -/
def fromRoot (path : String) : Bool := path.toList.head? == some '/'

/-- Whether a path leads from the root or the working directory as shown. -/
def isAbsolute (path : String) : Bool :=
  fromRoot path || path == workingDirectory ||
    (workingDirectory ++ "/").toList.isPrefixOf path.toList

/-- A path below another one, unless it is absolute. -/
def join (base path : String) : String :=
  if isAbsolute path then path
  else if base.isEmpty || base.toList.getLast? == some '/' then base ++ path
  else base ++ "/" ++ path

/-- The steps of a path. -/
def steps (path : String) : List String :=
  (pieces '/' path.toList).map String.ofList

/-- The names of a path after steps that lead nowhere or back. -/
def names (path : String) : List String :=
  (steps path).foldl (fun acc step =>
    if step.isEmpty || step == "." then acc
    else if step == ".." then acc.dropLast
    else acc ++ [step]) []

/-- A path from the working directory, without steps that lead nowhere or back. -/
def normal (path : String) : String :=
  let whole := join workingDirectory path
  let body := "/".intercalate (names whole)
  if fromRoot whole then "/" ++ body
  else if isAbsolute body then body
  else "/" ++ body

/-- The directory that a path is in. -/
def parent (path : String) : String :=
  let front := "/".intercalate (steps path).dropLast
  if front.isEmpty && fromRoot path then "/" else front

end Path

/-! ### Files and directories -/

/-- What there is at a place. -/
inductive Node
  | directory
  | file (bytes : Bytes)
  deriving DecidableEq, Repr

/-- A place: the names on the way from the root. -/
abbrev Place := List String

/-- All files and directories, but for the root and the working directory. -/
structure Files where
  nodes : List (Place × Node) := []
  deriving DecidableEq, Repr

/-- Why a path leads nowhere. -/
inductive PathFault
  | missing
  | notDirectory
  | embeddedNull
  deriving DecidableEq, Repr

namespace Files

/-- What there is at a place. -/
def node? (f : Files) (place : Place) : Option Node :=
  if place.isEmpty || place == [Path.workingDirectory] then some .directory
  else f.nodes.lookup place

/-- A place with a new content. -/
def put (f : Files) (place : Place) (node : Node) : Files :=
  ⟨(place, node) :: f.nodes.filter fun n => n.1 != place⟩

/-- Goes on from a place. All places on the way have to be directories. -/
def walk (f : Files) (place : Place) : List String → Except PathFault Place
  | [] => .ok place
  | step :: rest =>
    match f.node? place with
    | none => .error .missing
    | some (.file _) => .error .notDirectory
    | some .directory =>
      if step.isEmpty || step == "." then f.walk place rest
      else if step == ".." then f.walk place.dropLast rest
      else f.walk (place ++ [step]) rest

/-- Where a path leads. -/
def place (f : Files) (path : String) : Except PathFault Place :=
  if path.toList.contains '\x00' then .error .embeddedNull
  else f.walk [] (Path.steps (Path.join Path.workingDirectory path))

/-- What there is at a path. -/
def at? (f : Files) (path : String) : Option Node :=
  match f.place path with
  | .ok place => f.node? place
  | .error _ => none

/-- The failure of a path that leads nowhere. -/
def pathFailure (path : String) : PathFault → Failure
  | .missing => .noFile path
  | .notDirectory => .notDirectory path
  | .embeddedNull => .outOfRange "embedded null byte"

/-- The bytes of a file. -/
def read (f : Files) (path : String) : Except Failure Bytes :=
  match f.place path with
  | .error fault => .error (pathFailure path fault)
  | .ok place =>
    match f.node? place with
    | some (.file bytes) => .ok bytes
    | some .directory => .error (.isDirectory path)
    | none => .error (.noFile path)

/-- Makes a directory whose own directory exists. `path` is how it is written. -/
def makeDirectory (f : Files) (path : String) : Except Failure Files :=
  match f.place path with
  | .error fault => .error (pathFailure path fault)
  | .ok place =>
    match f.node? place with
    | some .directory => .ok f
    | some (.file _) => .error (.fileExists path)
    | none => .ok (f.put place .directory)

/-- The paths of all directories on the way to a path, the path itself last. -/
def prefixes (names : List String) (start : String) : List String :=
  (List.range names.length).map fun i => start ++ "/".intercalate (names.take (i + 1))

/-- Makes a directory and those it is in, where they do not exist. -/
def makeDirectories (f : Files) (path : String) : Except Failure Files :=
  let path := Path.normal path
  let start := if Path.fromRoot path then "/" else ""
  let missing := (prefixes (Path.names path) start).filter fun p => (f.at? p).isNone
  match f.at? path with
  | some .directory => .ok f
  | some (.file _) => .error (.fileExists path)
  | none => missing.foldlM makeDirectory f

/-- A file with new content, in directories that are made if they do not exist. -/
def write (f : Files) (path : String) (bytes : Bytes) : Except Failure Files := do
  let f ← f.makeDirectories (Path.parent (Path.normal path))
  match f.place path with
  | .error fault => .error (pathFailure path fault)
  | .ok place =>
    match f.node? place with
    | some .directory => .error (.isDirectory path)
    | _ => .ok (f.put place (.file bytes))

/-- Without a file. -/
def remove (f : Files) (path : String) : Except Failure Files :=
  match f.place path with
  | .error fault => .error (pathFailure path fault)
  | .ok place =>
    match f.node? place with
    | some .directory => .error (.isDirectory path)
    | some (.file _) => .ok ⟨f.nodes.filter fun n => n.1 != place⟩
    | none => .error (.noFile path)

/-- Opens a file at whose end bytes will be added, and makes it if it does not exist. -/
def openForAppend (f : Files) (path : String) : Except Failure (Place × Files) :=
  match f.place path with
  | .error fault => .error (pathFailure path fault)
  | .ok place =>
    match f.node? place with
    | some .directory => .error (.isDirectory path)
    | some (.file _) => .ok (place, f)
    | none => .ok (place, f.put place (.file []))

/-- Bytes added at the end of a file. A file that is there no more stays away. -/
def append (f : Files) (place : Place) (bytes : Bytes) : Files :=
  match f.node? place with
  | some (.file old) => f.put place (.file (old ++ bytes))
  | _ => f

end Files
end TextCriteria
