import Tollgate.Document.Text
import Tollgate.Policy.Table
import Tollgate.Text.Pieces

/-!
# Settings

Three categories carry plain settings: the mocked time, the signing keys, and the
groups of e-mail addresses that alarms go to.
-/

namespace Tollgate.Policy

open Document (Fields Reader)
open Time (Instant)

-- ---------------------------------------------------------------------------
-- Mocked time

namespace MockTime

/-- The instant that the data of a row pins the clock to, blanks around it ignored. -/
def ofData (data : String) : Except PolicyError Instant :=
  (Instant.ofText (Text.trim data)).mapError (.invalidTimestamp data)

end MockTime

-- ---------------------------------------------------------------------------
-- Signing keys

/-- The published signing keys, and those of the configuration to fall back to. -/
structure SigningKeys where
  defaults : List String
  current : List String
  deriving DecidableEq, Repr

namespace SigningKeys

def ofDefaults (defaults : List String) : SigningKeys :=
  ⟨defaults, defaults⟩

/-- The keys in the data of a row. -/
def ofData (data : String) : List String :=
  Text.commaItems data

/-- Publishes the keys of the newest row. Without a row, or with a row that has no
keys, the defaults are published. -/
def apply (s : SigningKeys) : Option (List String) → SigningKeys
  | some (k :: ks) => { s with current := k :: ks }
  | _ => { s with current := s.defaults }

/-- Whether the keys of the newest row leave the defaults in force. -/
def isDefault : Option (List String) → Bool
  | some (_ :: _) => false
  | _ => true

end SigningKeys

-- ---------------------------------------------------------------------------
-- E-mail groups

structure EmailGroup where
  name : String
  list : List String
  deriving DecidableEq, Repr

namespace EmailGroup

def fields : Fields (String × List String × Unit) :=
  .field "name" Reader.text none <|
  .field "list" (Reader.list Reader.text) (some []) .done

def ofData (data : String) : Except PolicyError EmailGroup := do
  let (name, list, ()) ←
    (Document.readText (Reader.record "EmailGroup" fields) data).mapError .json
  if Text.isBlankText name then throw (.empty "name")
  return ⟨name, list⟩

end EmailGroup

abbrev Emails := Table String (List String)

namespace Emails

/-- The table of the groups; the first group of a name stays. -/
def ofGroups (groups : List EmailGroup) : Emails :=
  Table.ofEntries (groups.map fun g => (g.name, g.list))

def recipients (emails : Emails) (group : String) : List String :=
  (emails.lookup group).getD []

end Emails

end Tollgate.Policy
