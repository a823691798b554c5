import Tollgate.Text.Ascii
import Tollgate.Text.Pieces

/-!
# Request targets

A request names its target by a path with a query, by an absolute URI, by an
authority alone, or by a star. Targets are taken as they are written: nothing is
decoded, and only a fragment is dropped.
-/

namespace Tollgate.Http

structure Uri where
  scheme : Option String
  authority : String
  /-- The path as written; empty if none was. -/
  rawPath : String
  query : Option String
  deriving DecidableEq, Repr

namespace Uri

def hasPath (u : Uri) : Bool :=
  u.scheme.isSome || u.rawPath ≠ "" || u.query.isSome

/-- The path; of an absolute target an empty path is the root. -/
def path (u : Uri) : String :=
  if u.hasPath then (if u.rawPath = "" then "/" else u.rawPath) else ""

def pathAndQuery (u : Uri) : String :=
  if u.hasPath then
    let written := u.rawPath ++ match u.query with
      | some q => "?" ++ q
      | none => ""
    if written = "" then "/" else written
  else ""

def text (u : Uri) : String :=
  (match u.scheme with
    | some s => s ++ "://"
    | none => "") ++
  u.authority ++ u.path ++
  (match u.query with
    | some q => "?" ++ q
    | none => "")

-- ---------------------------------------------------------------------------
-- Reading

/-- The characters of a path: visible ones but `#`, `<`, `>`, `?` and backquote. -/
def isPathChar (c : Char) : Bool :=
  let n := c.toNat
  n == 0x21 || n == 0x22 || (0x24 ≤ n && n ≤ 0x3B) || n == 0x3D || (0x40 ≤ n && n ≤ 0x5F) ||
    (0x61 ≤ n && n ≤ 0x7E) || 0x7F ≤ n

/-- The characters of a query: visible ones but `"`, `#`, `<` and `>`; a `?` may stand
again. -/
def isQueryChar (c : Char) : Bool :=
  let n := c.toNat
  n == 0x21 || (0x24 ≤ n && n ≤ 0x3B) || n == 0x3D || 0x3F ≤ n

def pathAndQueryOf (scheme : Option String) (authority : String) (cs : List Char) : Option Uri :=
  let written := cs.takeWhile (· != '#')
  match Text.cutAtFirst (· == '?') written with
  | none =>
    if written.all isPathChar then some ⟨scheme, authority, String.ofList written, none⟩ else none
  | some (path, query) =>
    if path.all isPathChar && query.all isQueryChar then
      some ⟨scheme, authority, String.ofList path, some (String.ofList query)⟩
    else none

def isSchemeChar (c : Char) : Bool :=
  Text.isLetter c || Text.isDigit c || c == '+' || c == '-' || c == '.'

def schemeLimit : Nat := 64

/-- Reads a scheme and the `://` behind it. The outer result is none if the scheme is
too long, the inner one if there is no scheme. -/
def scheme? (cs : List Char) : Option (Option (String × List Char)) :=
  let name := cs.takeWhile isSchemeChar
  match Text.afterStart? [':', '/', '/'] (cs.drop name.length) with
  | none => some none
  | some rest =>
    let lower := String.ofList (name.map Char.toLower)
    if lower = "http" ∨ lower = "https" then some (some (lower, rest))
    else if schemeLimit < name.length then none
    else some (some (String.ofList name, rest))

def isAuthorityChar (c : Char) : Bool :=
  Text.isLetter c || Text.isDigit c || "!$&'()*+,-.;=_~".toList.contains c

/-- What was seen of an authority. Colons and percent signs count anew behind the
user's part and behind brackets. -/
structure Seen where
  colons : Nat
  opened : Bool
  closed : Bool
  percent : Bool
  endsInAt : Bool

def colonLimit : Nat := 8

/-- One character of an authority. -/
def Seen.next (s : Seen) (c : Char) : Option Seen :=
  let s := { s with endsInAt := false }
  if c == ':' then if s.colons < colonLimit then some { s with colons := s.colons + 1 } else none
  else if c == '[' then if s.percent || s.opened then none else some { s with opened := true }
  else if c == ']' then
    if !s.opened || s.closed then none
    else some { s with closed := true, colons := 0, percent := false }
  else if c == '@' then some { s with colons := 0, percent := false, endsInAt := true }
  else if c == '%' then some { s with percent := true }
  else if isAuthorityChar c then some s
  else none

def isAuthority (cs : List Char) : Bool :=
  match cs.foldlM Seen.next ⟨0, false, false, false, false⟩ with
  | none => false
  | some s => s.opened == s.closed && s.colons ≤ 1 && !s.endsInAt && !s.percent

def endsAuthority (c : Char) : Bool :=
  c == '/' || c == '?' || c == '#'

def lengthLimit : Nat := 65534

def ofText? (s : String) : Option Uri :=
  if lengthLimit < s.utf8ByteSize then none
  else
    match s.toList with
    | [] => none
    | ['*'] => some ⟨none, "", "*", none⟩
    | '/' :: cs => pathAndQueryOf none "" ('/' :: cs)
    | cs =>
      match scheme? cs with
      | none => none
      | some none =>
        if isAuthority cs then some ⟨none, s, "", none⟩ else none
      | some (some (scheme, rest)) =>
        let authority := rest.takeWhile (!endsAuthority ·)
        if authority.isEmpty || !isAuthority authority then none
        else
          pathAndQueryOf (some scheme) (String.ofList authority) (rest.drop authority.length)

end Uri

end Tollgate.Http
