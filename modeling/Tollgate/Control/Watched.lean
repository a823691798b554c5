import Tollgate.Control.Cycle
import Tollgate.Files.Watch
import Tollgate.Store.File

/-!
# Refreshing from a watched file

The rows are in a file, and a watch on it asks for a refresh whenever it hears of a
change. Without its directory the file is not watched, and it is not tried again.
-/

namespace Tollgate.Control

structure Watched where
  tree : Files.Tree
  file : Files.Path
  /-- None if the file is not watched. -/
  watch : Option Files.Watch
  control : Control
  /-- The instant at which rows must be active. -/
  now : Time.Instant
  /-- The shutdown was signalled; neither the watch nor the refreshes go on. -/
  stopped : Bool
  deriving DecidableEq, Repr

namespace Watched

def store (w : Watched) : Store.File :=
  ⟨w.file.text, w.tree.content? w.file⟩

def refresh (w : Watched) : Bool × Watched :=
  let (result, control) := w.control.refresh 0 (w.store.fetch w.now)
  (result.isOk, { w with control := control })

def start (tree : Files.Tree) (file : Files.Path) (control : Control) (now : Time.Instant) :
    Bool × Watched :=
  refresh ⟨tree, file, Files.Watch.ofPath? tree file, control, now, false⟩

/-- Whether a refresh follows a change. -/
def hears (w : Watched) (change : Files.Change) : Bool :=
  !w.stopped && w.watch.any fun watch => watch.hears change

/-- Changes the tree, unless that is refused. The result tells whether a refresh
followed. -/
def act (w : Watched) (action : Files.Action) : Option (Bool × Watched) :=
  match w.tree.act action with
  | none => none
  | some (changes, tree) =>
    let heard := changes.any w.hears
    let watch := changes.foldl (fun watch change => watch.bind (·.after change)) w.watch
    let w := { w with tree := tree, watch := watch }
    some (heard, if heard then w.refresh.2 else w)

def stop (w : Watched) : Watched :=
  { w with stopped := true }

end Watched

end Tollgate.Control
