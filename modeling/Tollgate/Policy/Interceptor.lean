import Tollgate.Document.Text
import Tollgate.Policy.Table
import Tollgate.Route.Key

/-!
# Interceptors

An `httpServerInterceptor` row names scripts that run before and after the handler
of a route. A row without a router is ignored.
-/

namespace Tollgate.Policy

open Document (Fields Problem Reader)

structure Interceptor where
  before : String
  after : String
  deriving DecidableEq, Repr

namespace Interceptor

def isEmpty (i : Interceptor) : Bool :=
  Text.isBlankText i.before && Text.isBlankText i.after

def fields : Fields (String × String × Unit) :=
  .field "before" Reader.text (some "") <|
  .field "after" Reader.text (some "") .done

/-- Reads the data of a row; none if it has no router. -/
def ofData (data : String) : Except PolicyError (Option (Route.Key × Interceptor)) := do
  let (router, before, after, ()) ←
    (Document.readText
      (Reader.twoPass "InterceptorRow" "router" Reader.text (some "") fields) data).mapError .json
  if Text.isBlankText router then return none
  match Route.Key.ofText? router with
  | some key => return some (key, ⟨before, after⟩)
  | none => throw (.invalidRouter router)

end Interceptor

abbrev Interceptors := Table Route.Key Interceptor

namespace Interceptors

def ofRows (rows : List String) : Interceptors × Outcome :=
  let results := rows.map Interceptor.ofData
  let table := Table.ofEntries ((accepted results).filterMap id)
  (table, ⟨table.length, rejections 0 results⟩)

def list (interceptors : Interceptors) : List (Route.Key × Interceptor) :=
  sortedBy (fun a b : Route.Key => a.text < b.text) interceptors

end Interceptors

end Tollgate.Policy
