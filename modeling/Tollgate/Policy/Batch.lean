import Tollgate.Policy.Row

/-!
# Batches

One refresh sorts the active rows into a batch. Of mocked times and signing keys
only the first row counts; every other category keeps all its rows in order.
-/

namespace Tollgate.Policy

structure Batch where
  mockTime : Option Row
  signedKey : Option Row
  blockIp : List Row
  routerConcurrency : List Row
  router : List Row
  requestConcurrency : List Row
  email : List Row
  interceptor : List Row
  deriving Repr

namespace Batch

def empty : Batch :=
  ⟨none, none, [], [], [], [], [], []⟩

def cons (r : Row) (b : Batch) : Batch :=
  match r.category with
  | .mockTime => { b with mockTime := some r }
  | .signedKey => { b with signedKey := some r }
  | .blockIp => { b with blockIp := r :: b.blockIp }
  | .routerConcurrency => { b with routerConcurrency := r :: b.routerConcurrency }
  | .router => { b with router := r :: b.router }
  | .requestConcurrency => { b with requestConcurrency := r :: b.requestConcurrency }
  | .email => { b with email := r :: b.email }
  | .httpServerInterceptor => { b with interceptor := r :: b.interceptor }
  | .unknown => b

def ofRows (rows : List Row) : Batch :=
  rows.foldr cons empty

end Batch

end Tollgate.Policy
