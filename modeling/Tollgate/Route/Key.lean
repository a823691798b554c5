import Tollgate.Text.Ascii
import Tollgate.Text.Pieces

/-!
# Route keys

A route is named by its method and the pattern of its path, as in `GET /users/me`.
Every registry uses this text as its key, so operators may write the method in any
case and blanks around and between the two parts.
-/

namespace Tollgate.Route

/-- The key of a route: the method in upper case, a space, and the pattern. -/
structure Key where
  text : String
  deriving DecidableEq, Repr

namespace Key

def ofParts (method pattern : String) : Key :=
  ⟨Text.upperCase method ++ " " ++ pattern⟩

def parts (k : Key) : String × String :=
  match Text.cutAtFirst (· == ' ') k.text.toList with
  | some (method, pattern) => (String.ofList method, String.ofList pattern)
  | none => ("", "")

def method (k : Key) : String :=
  k.parts.1

def pattern (k : Key) : String :=
  k.parts.2

/-- Whether the characters are a method name: ASCII letters, at least one. -/
def isMethod (cs : List Char) : Bool :=
  !cs.isEmpty && cs.all Text.isLetter

/-- Whether the characters are a pattern: they start with a slash. -/
def isPattern : List Char → Bool
  | '/' :: _ => true
  | _ => false

def ofText? (s : String) : Option Key :=
  match Text.cutAtFirst Text.isBlank (Text.trimBoth s.toList) with
  | none => none
  | some (method, rest) =>
    let pattern := Text.trimBoth rest
    if isMethod method && isPattern pattern then
      some (ofParts (String.ofList method) (String.ofList pattern))
    else none

def le (a b : Key) : Bool :=
  !(b.text < a.text)

def sort (keys : List Key) : List Key :=
  keys.mergeSort le

end Key

end Tollgate.Route
