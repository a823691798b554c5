import Tollgate.Document.Text
import Tollgate.Route.Key

/-!
# Configuration

A configuration has sections, and every section and every field but those of a
route may be left out. A route names a method and a path; its key is read from the
two together.
-/

namespace Tollgate.Config

open Document (Fields Reader)

-- ---------------------------------------------------------------------------
-- Sections

structure Listener where
  bindAddress : String
  deriving DecidableEq, Repr

def Listener.default : Listener := ⟨"0.0.0.0:8080"⟩

def Listener.reader : Reader Listener :=
  (Reader.record "ListenerConfig"
    (.field "bind_address" Reader.text (some Listener.default.bindAddress) .done)).as
    fun (bindAddress, ()) => ⟨bindAddress⟩

structure Route where
  method : String
  path : String
  deriving DecidableEq, Repr

def Route.reader : Reader Route :=
  (Reader.record "RouteConfig"
    (.field "method" Reader.text none <| .field "path" Reader.text none .done)).as
    fun (method, path, ()) => ⟨method, path⟩

/-- The text that the key of a route is read from. -/
def Route.keyText (r : Route) : String :=
  r.method ++ " " ++ r.path

/-- The key of a route, none if its fields do not name one. -/
def Route.key? (r : Route) : Option Tollgate.Route.Key :=
  Tollgate.Route.Key.ofText? r.keyText

structure Refresh where
  intervalSecs : Nat
  deriving DecidableEq, Repr

def Refresh.default : Refresh := ⟨60⟩

def Refresh.reader : Reader Refresh :=
  (Reader.record "RefreshConfig"
    (.field "interval_secs" Reader.word64 (some Refresh.default.intervalSecs) .done)).as
    fun (intervalSecs, ()) => ⟨intervalSecs⟩

structure Store where
  /-- The file of the rows; without it rows are held in memory. -/
  path : Option String
  watch : Bool
  deriving DecidableEq, Repr

def Store.default : Store := ⟨none, false⟩

def Store.reader : Reader Store :=
  (Reader.record "StoreConfig"
    (.field "path" (Reader.optional Reader.text) (some Store.default.path) <|
     .field "watch" Reader.boolean (some Store.default.watch) .done)).as
    fun (path, watch, ()) => ⟨path, watch⟩

structure Signing where
  defaultKeys : List String
  deriving DecidableEq, Repr

def Signing.default : Signing := ⟨["default-signing-key"]⟩

def Signing.reader : Reader Signing :=
  (Reader.record "SigningConfig"
    (.field "default_keys" (Reader.list Reader.text) (some Signing.default.defaultKeys) .done)).as
    fun (defaultKeys, ()) => ⟨defaultKeys⟩

structure Governance where
  /-- Take the client's address from the forwarding header. -/
  trustForwardedFor : Bool
  alarmGroup : String
  alarmHistory : Nat
  deriving DecidableEq, Repr

def Governance.default : Governance := ⟨false, "alarm", 100⟩

def Governance.reader : Reader Governance :=
  (Reader.record "GovernanceConfig"
    (.field "trust_forwarded_for" Reader.boolean (some Governance.default.trustForwardedFor) <|
     .field "alarm_group" Reader.text (some Governance.default.alarmGroup) <|
     .field "alarm_history" Reader.size (some Governance.default.alarmHistory) .done)).as
    fun (trustForwardedFor, alarmGroup, alarmHistory, ()) =>
      ⟨trustForwardedFor, alarmGroup, alarmHistory⟩

structure Timeouts where
  requestSecs : Nat
  deriving DecidableEq, Repr

def Timeouts.default : Timeouts := ⟨30⟩

def Timeouts.reader : Reader Timeouts :=
  (Reader.record "TimeoutConfig"
    (.field "request_secs" Reader.word64 (some Timeouts.default.requestSecs) .done)).as
    fun (requestSecs, ()) => ⟨requestSecs⟩

structure Observability where
  logLevel : String
  metricsEnabled : Bool
  metricsAddress : String
  deriving DecidableEq, Repr

def Observability.default : Observability := ⟨"info", true, "0.0.0.0:9090"⟩

def Observability.reader : Reader Observability :=
  (Reader.record "ObservabilityConfig"
    (.field "log_level" Reader.text (some Observability.default.logLevel) <|
     .field "metrics_enabled" Reader.boolean (some Observability.default.metricsEnabled) <|
     .field "metrics_address" Reader.text (some Observability.default.metricsAddress) .done)).as
    fun (logLevel, metricsEnabled, metricsAddress, ()) => ⟨logLevel, metricsEnabled, metricsAddress⟩

structure Admin where
  enabled : Bool
  apiKey : String
  bindAddress : String
  deriving DecidableEq, Repr

def Admin.default : Admin := ⟨false, "", "127.0.0.1:8081"⟩

def Admin.reader : Reader Admin :=
  (Reader.record "AdminConfig"
    (.field "enabled" Reader.boolean (some Admin.default.enabled) <|
     .field "api_key" Reader.text (some Admin.default.apiKey) <|
     .field "bind_address" Reader.text (some Admin.default.bindAddress) .done)).as
    fun (enabled, apiKey, bindAddress, ()) => ⟨enabled, apiKey, bindAddress⟩

end Tollgate.Config

namespace Tollgate

-- ---------------------------------------------------------------------------
-- The whole

structure Config where
  listener : Config.Listener
  routes : List Config.Route
  refresh : Config.Refresh
  store : Config.Store
  signing : Config.Signing
  governance : Config.Governance
  timeouts : Config.Timeouts
  observability : Config.Observability
  admin : Config.Admin
  deriving DecidableEq, Repr

namespace Config

open Document (Fields Reader)

def defaultRoutes : List Route :=
  [⟨"GET", "/"⟩, ⟨"GET", "/ping"⟩, ⟨"GET", "/users/me"⟩]

def default : Config :=
  ⟨.default, defaultRoutes, .default, .default, .default, .default, .default, .default, .default⟩

def fields : Fields (Listener × List Route × Refresh × Store × Signing × Governance × Timeouts ×
    Observability × Admin × Unit) :=
  .field "listener" Listener.reader (some .default) <|
  .field "routes" (Reader.list Route.reader) (some defaultRoutes) <|
  .field "refresh" Refresh.reader (some .default) <|
  .field "store" Store.reader (some .default) <|
  .field "signing" Signing.reader (some .default) <|
  .field "governance" Governance.reader (some .default) <|
  .field "timeouts" Timeouts.reader (some .default) <|
  .field "observability" Observability.reader (some .default) <|
  .field "admin" Admin.reader (some .default) .done

def reader : Reader Config :=
  (Reader.record "GovernorConfig" fields).as
    fun (listener, routes, refresh, store, signing, governance, timeouts, observability, admin,
        ()) =>
      ⟨listener, routes, refresh, store, signing, governance, timeouts, observability, admin⟩

def routeKeys (c : Config) : Except String (List Tollgate.Route.Key) :=
  c.routes.mapM fun r =>
    match r.key? with
    | some key => .ok key
    | none => .error r.keyText

def toJson (c : Config) : Json.Value :=
  .table
    [("listener", .table [("bind_address", .text c.listener.bindAddress)]),
     ("routes", .list (c.routes.map fun r =>
        .table [("method", .text r.method), ("path", .text r.path)])),
     ("refresh", .table [("interval_secs", .ofNat c.refresh.intervalSecs)]),
     ("store", .table [("path", .ofText? c.store.path), ("watch", .boolean c.store.watch)]),
     ("signing", .table [("default_keys", .ofTexts c.signing.defaultKeys)]),
     ("governance", .table
        [("trust_forwarded_for", .boolean c.governance.trustForwardedFor),
         ("alarm_group", .text c.governance.alarmGroup),
         ("alarm_history", .ofNat c.governance.alarmHistory)]),
     ("timeouts", .table [("request_secs", .ofNat c.timeouts.requestSecs)]),
     ("observability", .table
        [("log_level", .text c.observability.logLevel),
         ("metrics_enabled", .boolean c.observability.metricsEnabled),
         ("metrics_address", .text c.observability.metricsAddress)]),
     ("admin", .table
        [("enabled", .boolean c.admin.enabled), ("api_key", .text c.admin.apiKey),
         ("bind_address", .text c.admin.bindAddress)])]

end Config

end Tollgate
