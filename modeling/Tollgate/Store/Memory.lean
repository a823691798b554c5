import Tollgate.Policy.Row
import Tollgate.Policy.Table

/-!
# Rows in memory

Rows are kept by their names, one row for each name.
-/

namespace Tollgate.Store

open Policy (Row)
open Time (Instant)

abbrev Memory := List (String × Row)

namespace Memory

def empty : Memory := []

/-- Puts a row in, in place of one of the same name. -/
def upsert (m : Memory) (r : Row) : Memory :=
  Policy.putSorted (fun a b : String => a < b) r.name r m

def ofRows (rows : List Row) : Memory :=
  rows.foldl upsert empty

def remove (m : Memory) (name : String) : Memory :=
  m.filter fun (n, _) => n ≠ name

def fetch (m : Memory) (now : Instant) : List Row :=
  Row.newestFirst ((m.map Prod.snd).filter fun r => r.isActive now)

end Memory

end Tollgate.Store
