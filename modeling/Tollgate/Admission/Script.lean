import Tollgate.Http.Message

/-!
# Scripts around a handler

An interceptor names scripts, and a runner decides what a script means. A runner may
change the request before the handler and the head of the response after it, it keeps a
state of its own, and it may take its time. A script may fail; it never fails its
request.
-/

namespace Tollgate.Admission

open Http (Request Response)

structure ScriptError where
  text : String
  deriving DecidableEq, Repr

/-- What running a script gives: whether it failed, what it made of its message, and the
state of its runner. -/
structure Scripted (α σ : Type) where
  outcome : Except ScriptError Unit
  value : α
  state : σ

structure ScriptRunner (σ : Type) where
  before : String → Request → σ → Scripted Request σ
  after : String → Response.Head → σ → Scripted Response.Head σ
  /-- The ticks between the token of a request and its answer. -/
  lasts : Request → Nat

def ScriptRunner.passthrough : ScriptRunner σ where
  before _ r s := ⟨.ok (), r, s⟩
  after _ h s := ⟨.ok (), h, s⟩
  lasts _ := 0

inductive ScriptNote where
  | before (script method uri : String)
  | after (script : String) (status : Nat)
  deriving DecidableEq, Repr

def failingScript : String := "fail"

def afterHeader : String := "x-after"

def noted (script : String) : Except ScriptError Unit :=
  if script = failingScript then .error ⟨script⟩ else .ok ()

/-- Notes every script, oldest first. An after-script is left in a header of the
response, if it can be the value of one and is not the failing script. -/
def ScriptRunner.noting : ScriptRunner (List ScriptNote) where
  before script r notes := ⟨noted script, r, notes ++ [.before script r.method r.uri.text]⟩
  after script h notes :=
    let marked := script ≠ failingScript && Http.Headers.isValue script
    ⟨noted script,
      if marked then { h with headers := h.headers.set afterHeader script } else h,
      notes ++ [.after script h.status]⟩
  lasts _ := 0

end Tollgate.Admission
