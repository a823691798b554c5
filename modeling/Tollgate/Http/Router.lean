import Tollgate.Http.Message
import Tollgate.Route.Key
import Tollgate.Route.Pattern

/-!
# Routing

Routes are mounted one after another. A request goes to the route whose pattern
matches its path and whose method admits its own. Literal segments win over
captures, and captures over a catch-all; when a choice fails further on the next
one is tried. A capture and a catch-all cannot be mounted in the same place.
-/

namespace Tollgate.Http

inductive Segment where
  | literal (cs : List Char)
  | capture
  | catchAll
  deriving DecidableEq, Repr

/-- The kind of a segment that keeps to the rules of patterns. -/
def Segment.ofChars : List Char → Segment
  | '\x7b' :: '*' :: _ => .catchAll
  | '\x7b' :: _ => .capture
  | cs => .literal cs

/-- Whether there is a capture in one pattern where the other has a catch-all, behind
segments that match the same. -/
def Segment.clash : List Segment → List Segment → Bool
  | .capture :: _, .catchAll :: _ => true
  | .catchAll :: _, .capture :: _ => true
  | s :: rest, s' :: rest' => s == s' && clash rest rest'
  | _, _ => false

structure Mount where
  key : Route.Key
  method : String
  pattern : String
  segments : List Segment
  deriving DecidableEq, Repr

inductive MountError where
  | unsupportedMethod (key : Route.Key)
  /-- A pattern that matches the same paths is mounted under another spelling, there is a
  capture in the place of a catch-all, or the same route is mounted already. -/
  | collision (key : Route.Key)
  deriving DecidableEq, Repr

def MountError.key : MountError → Route.Key
  | .unsupportedMethod key => key
  | .collision key => key

/-- The mounted routes in their order. -/
structure Router where
  mounts : List Mount
  deriving DecidableEq, Repr

namespace Mount

/-- The methods that a route can be mounted for. -/
def supportedMethods : List String :=
  ["CONNECT", "DELETE", "GET", "HEAD", "OPTIONS", "PATCH", "POST", "PUT", "TRACE"]

def ofKey (key : Route.Key) : Mount :=
  let pattern := key.pattern
  ⟨key, key.method, pattern, (Route.Pattern.segments pattern.toList).map Segment.ofChars⟩

/-- Whether the two cannot be mounted together. -/
def collidesWith (a b : Mount) : Bool :=
  if a.pattern = b.pattern then a.method == b.method
  else Route.Pattern.shape a.pattern == Route.Pattern.shape b.pattern ||
    Segment.clash a.segments b.segments

/-- What the method of a mounted route adds to the list of allowed methods. -/
def allows (m : Mount) : String :=
  if m.method = "GET" then "GET,HEAD" else m.method

end Mount

inductive Dispatch where
  | found (m : Mount)
  | methodNotAllowed (allow : String)
  | notFound
  deriving DecidableEq, Repr

namespace Router

def empty : Router := ⟨[]⟩

def mount (r : Router) (key : Route.Key) : Except MountError Router :=
  let m := Mount.ofKey key
  if !Mount.supportedMethods.contains m.method then .error (.unsupportedMethod key)
  else if r.mounts.any fun other => other.collidesWith m then .error (.collision key)
  else .ok ⟨r.mounts ++ [m]⟩

def ofKeys (keys : List Route.Key) : Except MountError Router :=
  keys.foldlM mount empty

/-- A pattern that still has to match, with what is left of its segments. -/
abbrev Candidate := List Segment × String

def advance (accepts : Segment → Bool) (candidates : List Candidate) : List Candidate :=
  candidates.filterMap fun (segments, pattern) =>
    match segments with
    | [] => none
    | s :: rest => if accepts s then some (rest, pattern) else none

/-- The pattern that matches the segments of a path. A capture takes any segment but
an empty last one; a catch-all takes all that is left unless it is empty. -/
def best (candidates : List Candidate) : List (List Char) → Option String
  | [] => (candidates.find? fun (segments, _) => segments.isEmpty).map Prod.snd
  | segment :: rest =>
    let literals := advance (· == .literal segment) candidates
    let captures := advance (· == .capture) candidates
    let catchAlls := advance (· == .catchAll) candidates
    best literals rest <|>
      (if segment.isEmpty && rest.isEmpty then none else best captures rest) <|>
      (if segment.isEmpty && rest.isEmpty then none else catchAlls.head?.map Prod.snd)

/-- The segments of a path, none if it does not start with a slash. -/
def pathSegments? (path : String) : Option (List (List Char)) :=
  match path.toList with
  | '/' :: cs => some (Text.pieces (· == '/') cs)
  | _ => none

def patternFor (r : Router) (path : String) : Option String := do
  let segments ← pathSegments? path
  best (r.mounts.map fun m => (m.segments, m.pattern)) segments

def mountsOf (r : Router) (pattern : String) : List Mount :=
  r.mounts.filter fun m => m.pattern == pattern

/-- The route among those of a pattern that admits a method. HEAD is also admitted by
a route for GET. -/
def admitting (mounts : List Mount) (method : String) : Option Mount :=
  (mounts.find? fun m => m.method == method) <|>
    (if method = "HEAD" then mounts.find? fun m => m.method == "GET" else none)

def dispatch (r : Router) (method path : String) : Dispatch :=
  match r.patternFor path with
  | none => .notFound
  | some pattern =>
    let mounts := r.mountsOf pattern
    match admitting mounts method with
    | some m => .found m
    | none => .methodNotAllowed (",".intercalate (mounts.map Mount.allows))

end Router

end Tollgate.Http
