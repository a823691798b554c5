import Tollgate.Files.Tree

/-!
# Watches

A watch looks at the entries of one directory and cares for one name among them. So
it also hears of a file that another one is moved onto. It hears of everything but
removals, and it follows its directory when that is moved.
-/

namespace Tollgate.Files

structure Watch where
  directory : Path
  name : String
  deriving DecidableEq, Repr

namespace Watch

/-- The watch for a file, which may be missing; its directory must be there. -/
def ofPath? (t : Tree) (file : Path) : Option Watch := do
  let name ← file.getLast?
  if t.isDirectory file.dropLast then some ⟨file.dropLast, name⟩ else none

def path (w : Watch) : Path :=
  w.directory ++ [w.name]

def hears (w : Watch) : Change → Bool
  | .created p => p == w.path
  | .modified p => p == w.path
  | .removed _ => false
  | .moved source target => source == w.path || target == w.path

/-- The watch after a change. It ends when another directory takes the place of its
own. -/
def after (w : Watch) : Change → Option Watch
  | .moved source target =>
    if target = w.directory then none
    else some { w with directory := Tree.movedPath source target w.directory }
  | _ => some w

end Watch

end Tollgate.Files
