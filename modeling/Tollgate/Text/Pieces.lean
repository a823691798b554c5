import Tollgate.Text.Blank

/-!
# Cutting a text at separators

Lists inside one text are written with a separator character. Cutting keeps every
piece, empty ones too, so there is always one piece more than there are
separators.
-/

namespace Tollgate.Text

def pieces (isSeparator : Char → Bool) : List Char → List (List Char)
  | [] => [[]]
  | c :: rest =>
    match pieces isSeparator rest with
    | [] => [[c]]
    | first :: more => if isSeparator c then [] :: first :: more else (c :: first) :: more

def piecesOf (isSeparator : Char → Bool) (s : String) : List String :=
  (pieces isSeparator s.toList).map String.ofList

/-- The trimmed texts between commas, blank ones dropped. -/
def commaItems (s : String) : List String :=
  ((piecesOf (· == ',') s).map trim).filter (· ≠ "")

def cutAtFirst (isSeparator : Char → Bool) : List Char → Option (List Char × List Char)
  | [] => none
  | c :: rest =>
    if isSeparator c then some ([], rest)
    else (cutAtFirst isSeparator rest).map fun (front, back) => (c :: front, back)

def startsWith (start cs : List Char) : Bool :=
  start.isPrefixOf cs

def afterStart? : List Char → List Char → Option (List Char)
  | [], cs => some cs
  | _ :: _, [] => none
  | s :: start, c :: cs => if s == c then afterStart? start cs else none

theorem pieces_ne_nil (isSeparator : Char → Bool) (cs : List Char) :
    pieces isSeparator cs ≠ [] := by
  cases cs with
  | nil => simp [pieces]
  | cons c rest =>
    simp only [pieces]
    split
    · simp
    · split <;> simp

theorem pieces_cons_separator {isSeparator : Char → Bool} {c : Char} (h : isSeparator c)
    (cs : List Char) : pieces isSeparator (c :: cs) = [] :: pieces isSeparator cs := by
  simp only [pieces]
  split
  · exact absurd ‹_› (pieces_ne_nil isSeparator cs)
  · simp [*]

end Tollgate.Text
