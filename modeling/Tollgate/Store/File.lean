import Tollgate.Policy.Row
import Tollgate.Store.Error

/-!
# Rows in a file

A file holds its rows as a JSON array and is read anew on every fetch. A file of
blanks holds no rows; a file that is missing or not such an array is an error.
-/

namespace Tollgate.Store

open Policy (Row)
open Time (Instant)

/-- A file as a fetch finds it. -/
structure File where
  /-- The path as messages show it. -/
  path : String
  /-- The content, none for a missing file. -/
  content : Option String
  deriving DecidableEq, Repr

namespace File

def rows (content : String) : Except Document.Problem (List Row) :=
  if Text.isBlankText content then .ok []
  else Document.readText (Document.Reader.list Row.reader) content

def fetch (f : File) (now : Instant) : Except StoreError (List Row) :=
  match f.content with
  | none => .error (.unavailable (f.path ++ ": " ++ missingFile))
  | some content =>
    match rows content with
    | .error p => .error (.undecodable (f.path ++ ": " ++ p.message))
    | .ok rows => .ok (Row.newestFirst (rows.filter fun r => r.isActive now))

end File

def File.textOf (rows : List Row) : String :=
  (Json.Value.list (rows.map Row.toJson)).write

end Tollgate.Store
