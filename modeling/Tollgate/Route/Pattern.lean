import Tollgate.Text.Pieces

/-!
# Path patterns

The pattern of a route is a path whose segments are literal, a capture `{name}`,
or, in the last place, a catch-all `{*name}`. `check` finds the first segment that
breaks these rules.
-/

namespace Tollgate.Route

inductive PatternError where
  | unsupportedCapture (segment : String)
  | partialCapture (segment : String)
  | badName (segment : String)
  | earlyCatchAll (segment : String)
  deriving DecidableEq, Repr

def PatternError.message : PatternError → String
  | .unsupportedCapture s =>
    "segment `" ++ s ++ "` uses an unsupported capture prefix, write `\x7bname\x7d` instead"
  | .partialCapture s => "segment `" ++ s ++ "` must be a single `\x7bname\x7d` capture"
  | .badName s => "segment `" ++ s ++ "` has an invalid capture name"
  | .earlyCatchAll s => "catch-all `" ++ s ++ "` must be the last segment"

namespace Pattern

def segments (cs : List Char) : List (List Char) :=
  (Text.pieces (· == '/') cs).drop 1

def isBrace (c : Char) : Bool :=
  c == '\x7b' || c == '\x7d'

/-- What stands between the braces of a segment that is one capture. -/
def inside? : List Char → Option (List Char)
  | [] => none
  | c :: rest =>
    if c == '\x7b' && rest.getLast? == some '\x7d' then some rest.dropLast else none

/-- The star of a catch-all and the name behind it. -/
def nameOf : List Char → Bool × List Char
  | '*' :: name => (true, name)
  | name => (false, name)

def isName (cs : List Char) : Bool :=
  !cs.isEmpty && cs.all fun c => !isBrace c && c != '*' && c != ':'

/-- Whether a segment starts like a capture of another syntax. -/
def isForeignCapture : List Char → Bool
  | ':' :: _ => true
  | '*' :: _ => true
  | _ => false

/-- Checks one segment; `last` says whether it is the last one. -/
def checkSegment (last : Bool) (segment : List Char) : Except PatternError Unit :=
  let shown := String.ofList segment
  if isForeignCapture segment then .error (.unsupportedCapture shown)
  else if !segment.any isBrace then .ok ()
  else
    match inside? segment with
    | none => .error (.partialCapture shown)
    | some inner =>
      let (catchAll, name) := nameOf inner
      if !isName name then .error (.badName shown)
      else if catchAll && !last then .error (.earlyCatchAll shown)
      else .ok ()

def checkAll : List (List Char) → Except PatternError Unit
  | [] => .ok ()
  | segment :: rest =>
    match checkSegment rest.isEmpty segment with
    | .error e => .error e
    | .ok () => checkAll rest

def check (pattern : String) : Except PatternError Unit :=
  checkAll (segments pattern.toList)

def eraseName : List Char → List Char
  | '\x7b' :: '*' :: _ => ['\x7b', '*', '\x7d']
  | '\x7b' :: _ => ['\x7b', '\x7d']
  | segment => segment

/-- The pattern with the names of its captures left out. Two patterns of one shape
match the same paths. -/
def shape (pattern : String) : List (List Char) :=
  (Text.pieces (· == '/') pattern.toList).map eraseName

end Pattern

end Tollgate.Route
