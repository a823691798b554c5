import Tollgate.Text.Pieces

/-!
# Trees of files

A tree is given by its paths: each path below the root is a directory or a file with
its content. An action changes the tree and tells what changed, or it is refused and
leaves the tree alone.
-/

namespace Tollgate.Files

abbrev Path := List String

/-- The path that a text denotes; empty names and single dots lead nowhere. -/
def Path.ofText (s : String) : Path :=
  (Text.piecesOf (· == '/') s).filter fun name => name ≠ "" ∧ name ≠ "."

def Path.text (p : Path) : String :=
  "/".intercalate p

inductive Entry where
  | directory
  | file (content : String)
  deriving DecidableEq, Repr

abbrev Tree := List (Path × Entry)

/-- What an action changed. -/
inductive Change where
  | created (path : Path)
  /-- The content was written, be it the same as before. -/
  | modified (path : Path)
  | removed (path : Path)
  | moved (source target : Path)
  deriving DecidableEq, Repr

inductive Action where
  | write (path : Path) (content : String)
  | remove (path : Path)
  | rename (source target : Path)
  | makeDirectory (path : Path)
  | read (path : Path)
  deriving DecidableEq, Repr

namespace Tree

def empty : Tree := []

def content? (t : Tree) (p : Path) : Option String :=
  match t.lookup p with
  | some (.file content) => some content
  | _ => none

def isDirectory (t : Tree) (p : Path) : Bool :=
  p == [] || t.lookup p == some .directory

/-- Whether an entry may be made at a path: it is not the root, and it is in a
directory. -/
def hasPlace (t : Tree) (p : Path) : Bool :=
  p ≠ [] && t.isDirectory p.dropLast

def isBare (t : Tree) (p : Path) : Bool :=
  t.all fun (q, _) => q == p || !p.isPrefixOf q

def set (t : Tree) (p : Path) (e : Entry) : Tree :=
  (p, e) :: t.filter fun (q, _) => q ≠ p

def erase (t : Tree) (p : Path) : Tree :=
  t.filter fun (q, _) => q ≠ p

/-- The directories on the way to a path are made where they are missing. -/
def withDirectories (t : Tree) (p : Path) : Tree :=
  ((List.range p.length).map p.take).foldl
    (fun t q => if t.isDirectory q then t else t.set q .directory) t

/-- A path after what is at `source` was moved to `target`. -/
def movedPath (source target p : Path) : Path :=
  if source.isPrefixOf p then target ++ p.drop source.length else p

/-- Whether an entry may take the place of what is at a path: a file that of a file, a
directory that of a bare directory. -/
def yields (t : Tree) (target : Path) : Entry → Bool
  | .file _ => t.lookup target != some .directory
  | .directory =>
    match t.lookup target with
    | none => true
    | some .directory => t.isBare target
    | some (.file _) => false

/-- Moves what is at `source`. A path moved to itself stays as it is, and a directory
cannot be moved below itself. -/
def move (t : Tree) (source target : Path) : Option (List Change × Tree) :=
  match t.lookup source with
  | none => none
  | some e =>
    if source = target then some ([], t)
    else if t.hasPlace target && t.yields target e && !source.isPrefixOf target then
      some ([.moved source target],
        (t.erase target).map fun (p, e) => (movedPath source target p, e))
    else none

def act (t : Tree) : Action → Option (List Change × Tree)
  | .write p content =>
    if t.isDirectory p || !t.hasPlace p then none
    else
      let change := if (t.lookup p).isSome then Change.modified p else .created p
      some ([change], t.set p (.file content))
  | .remove p => (t.content? p).map fun _ => ([.removed p], t.erase p)
  | .rename source target => t.move source target
  | .makeDirectory p =>
    if t.hasPlace p && (t.lookup p).isNone then some ([.created p], t.set p .directory) else none
  | .read p => (t.content? p).map fun _ => ([], t)

end Tree

end Tollgate.Files
