import Tollgate.Policy.Error

/-!
# Tables made from rows

A table maps keys to what their rows say. Rows come newest first, so the first row
of a key decides and later ones are passed over. Rows that cannot be read are
listed with their positions.
-/

namespace Tollgate.Policy

/-- Entries in the order in which their keys first came. -/
abbrev Table (κ α : Type) := List (κ × α)

namespace Table

variable {κ α : Type} [BEq κ]

def addNew (table : Table κ α) (entry : κ × α) : Table κ α :=
  if (table.lookup entry.1).isSome then table else table ++ [entry]

def ofEntries (entries : List (κ × α)) : Table κ α :=
  entries.foldl addNew []

end Table

/-- What became of a list of rows. -/
structure Outcome where
  /-- How many were put to use. -/
  applied : Nat
  /-- The positions of the refused ones, in order, with the causes. -/
  rejected : List (Nat × PolicyError)
  deriving Repr

/-- The refused results with their positions, counted from `start`. -/
def rejections (start : Nat) : List (Except PolicyError α) → List (Nat × PolicyError)
  | [] => []
  | .error e :: rest => (start, e) :: rejections (start + 1) rest
  | .ok _ :: rest => rejections (start + 1) rest

def accepted : List (Except PolicyError α) → List α
  | [] => []
  | .error _ :: rest => accepted rest
  | .ok a :: rest => a :: accepted rest

/-- Puts a value under a key of a sorted list, in place of the old one. -/
def putSorted [DecidableEq κ] (lt : κ → κ → Bool) (key : κ) (a : α) :
    List (κ × α) → List (κ × α)
  | [] => [(key, a)]
  | (k, b) :: rest =>
    if key = k then (key, a) :: rest
    else if lt key k then (key, a) :: (k, b) :: rest
    else (k, b) :: putSorted lt key a rest

def sortedBy (lt : κ → κ → Bool) (table : List (κ × α)) : List (κ × α) :=
  table.mergeSort fun a b => !lt b.1 a.1

end Tollgate.Policy
