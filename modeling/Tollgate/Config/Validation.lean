import Tollgate.Address.Reading
import Tollgate.Config.Schema
import Tollgate.Policy.Error
import Tollgate.Route.Pattern

/-!
# Validation of a configuration

A configuration is checked as a whole before it is put to use, and every rule that
it breaks is reported: schedule, routes in their order, keys, and addresses.
-/

namespace Tollgate.Config

inductive RouteError where
  | noKey (text : String)
  | badPattern (error : Tollgate.Route.PatternError)
  deriving DecidableEq, Repr

def RouteError.message : RouteError → String
  | .noKey text => (Policy.PolicyError.invalidRouter text).message
  | .badPattern error => error.message

inductive Violation where
  | zeroRefreshInterval
  | noRoutes
  | invalidRoute (index : Nat) (error : RouteError)
  | duplicateRoute (key : Tollgate.Route.Key)
  | conflictingRoute (first second : String)
  | noDefaultSigningKeys
  | missingAdminKey
  | invalidAddress (field value : String)
  deriving DecidableEq, Repr

def Violation.message : Violation → String
  | .zeroRefreshInterval => "refresh.interval_secs must be greater than zero"
  | .noRoutes => "at least one route must be configured"
  | .invalidRoute index error => "route " ++ Text.ofNat index ++ " is invalid: " ++ error.message
  | .duplicateRoute key => "route " ++ key.text ++ " is registered more than once"
  | .conflictingRoute first second =>
    "route patterns " ++ first ++ " and " ++ second ++ " differ only in capture names"
  | .noDefaultSigningKeys => "signing.default_keys must not be empty"
  | .missingAdminKey => "admin.api_key must be set when the admin API is enabled"
  | .invalidAddress field value => field ++ " is not a socket address: " ++ value

def violationsText (violations : List Violation) : String :=
  ", ".intercalate (violations.map Violation.message)

/-- What the routes before one have taken: their keys, and for each shape the first
pattern that has it. -/
structure Taken where
  keys : List Tollgate.Route.Key
  shapes : List (List (List Char) × String)

def Taken.none : Taken := ⟨[], []⟩

def Route.mountable (r : Route) : Except RouteError Tollgate.Route.Key :=
  match r.key? with
  | .none => .error (.noKey r.keyText)
  | some key =>
    match Tollgate.Route.Pattern.check key.pattern with
    | .error e => .error (.badPattern e)
    | .ok () => .ok key

/-- Checks one route against those before it. -/
def checkRoute (index : Nat) (r : Route) (taken : Taken) : List Violation × Taken :=
  match r.mountable with
  | .error e => ([.invalidRoute index e], taken)
  | .ok key =>
    if taken.keys.contains key then ([.duplicateRoute key], taken)
    else
      let keys := key :: taken.keys
      let shape := Tollgate.Route.Pattern.shape key.pattern
      match taken.shapes.lookup shape with
      | some first =>
        (if first ≠ key.pattern then [.conflictingRoute first key.pattern] else [],
         { taken with keys := keys })
      | .none => ([], ⟨keys, (shape, key.pattern) :: taken.shapes⟩)

def checkRoutes (index : Nat) (taken : Taken) : List Route → List Violation
  | [] => []
  | r :: rest =>
    let (violations, taken) := checkRoute index r taken
    violations ++ checkRoutes (index + 1) taken rest

def checkAddress (field value : String) : List Violation :=
  if (Address.Socket.ofText? value).isSome then [] else [.invalidAddress field value]

def violations (c : Config) : List Violation :=
  (if c.refresh.intervalSecs = 0 then [.zeroRefreshInterval] else []) ++
  (if c.routes.isEmpty then [.noRoutes] else []) ++
  checkRoutes 0 .none c.routes ++
  (if c.signing.defaultKeys.all Text.isBlankText then [.noDefaultSigningKeys] else []) ++
  (if c.admin.enabled then
    (if Text.isBlankText c.admin.apiKey then [.missingAdminKey] else []) ++
      checkAddress "admin.bind_address" c.admin.bindAddress
   else []) ++
  checkAddress "listener.bind_address" c.listener.bindAddress ++
  (if c.observability.metricsEnabled then
    checkAddress "observability.metrics_address" c.observability.metricsAddress
   else [])

def isValid (c : Config) : Bool :=
  (violations c).isEmpty

end Tollgate.Config
