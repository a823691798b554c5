import Tollgate.Store.File
import Tollgate.Store.Memory

/-!
# The source of rows

A refresh fetches from memory or from a file. A source may be out of order, and it
may hang, so that a fetch that has begun waits until it goes on. Every fetch that
begins is counted.
-/

namespace Tollgate.Store

open Policy (Row)
open Time (Instant)

structure Source where
  memory : Memory
  file : Option File
  now : Instant
  /-- What a fetch fails with, if the source is out of order. -/
  failure : Option StoreError
  hangs : Bool
  fetches : Nat
  deriving DecidableEq, Repr

namespace Source

def ofMemory (memory : Memory) (now : Instant) : Source :=
  ⟨memory, none, now, none, false, 0⟩

def beginFetch (s : Source) : Source :=
  { s with fetches := s.fetches + 1 }

def fetch (s : Source) : Except StoreError (List Row) :=
  match s.failure with
  | some e => .error e
  | none =>
    match s.file with
    | some f => f.fetch s.now
    | none => .ok (s.memory.fetch s.now)

end Source

end Tollgate.Store
