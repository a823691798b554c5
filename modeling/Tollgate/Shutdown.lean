/-!
# Shutdown

One signal ends everything that listens. Those who subscribed before it receive it
once; a signalled future also resolves when the signal came before it was made.
-/

namespace Tollgate

/-- A subscription: whether the signal waits to be received. -/
structure Receiver where
  pending : Bool
  deriving DecidableEq, Repr

/-- A wait for the signal: its own subscription, and whether the signal had come when
it was made. -/
structure Signalled where
  receiver : Receiver
  already : Bool
  deriving DecidableEq, Repr

structure Shutdown where
  triggered : Bool
  receivers : List (String × Receiver)
  futures : List (String × Signalled)
  deriving DecidableEq, Repr

namespace Shutdown

def start : Shutdown :=
  ⟨false, [], []⟩

def receiverCount (s : Shutdown) : Nat :=
  s.receivers.length + s.futures.length

def without (id : String) (entries : List (String × α)) : List (String × α) :=
  entries.filter fun (k, _) => k ≠ id

def subscribe (s : Shutdown) (id : String) : Shutdown :=
  { s with receivers := (id, ⟨false⟩) :: without id s.receivers }

def signalled (s : Shutdown) (id : String) : Shutdown :=
  { s with futures := (id, ⟨⟨false⟩, s.triggered⟩) :: without id s.futures }

def drop (s : Shutdown) (id : String) : Shutdown :=
  { s with receivers := without id s.receivers, futures := without id s.futures }

/-- Gives the signal; only the first time has an effect. -/
def trigger (s : Shutdown) : Shutdown :=
  if s.triggered then s
  else
    { triggered := true
      receivers := s.receivers.map fun (k, _) => (k, ⟨true⟩)
      futures := s.futures.map fun (k, f) => (k, { f with receiver := ⟨true⟩ }) }

/-- Receives the signal if it waits; none if nobody subscribed under the name. -/
def receive (s : Shutdown) (id : String) : Option Bool × Shutdown :=
  match s.receivers.lookup id with
  | none => (none, s)
  | some r => (some r.pending, { s with receivers := (id, ⟨false⟩) :: without id s.receivers })

/-- Polls a future: it resolves, and is gone, once the signal has come. -/
def poll (s : Shutdown) (id : String) : Option Bool × Shutdown :=
  match s.futures.lookup id with
  | none => (none, s)
  | some f =>
    if f.already || f.receiver.pending then (some true, { s with futures := without id s.futures })
    else (some false, s)

end Shutdown

end Tollgate
