import Tollgate.Admission.Passage

/-!
# Scripts and the handler

Whatever a runner does and whatever state it keeps, a request that has its token runs its
handler once. The before-script of its route runs before it and the after-script behind
it, each unless it is blank. Whether a script fails makes no difference, and no script
replaces the body that the handler gave.
-/

namespace Tollgate.Admission

open Control (Plane)
open Http (Request Response)

inductive Ran where
  | before (script : String)
  | handler
  | after (script : String)
  deriving DecidableEq, Repr

def due (p : Plane) (route : Route.Key) : List Ran :=
  match p.interceptors.lookup route with
  | none => [.handler]
  | some scripts =>
    (if Text.isBlankText scripts.before then [] else [.before scripts.before]) ++ [.handler] ++
      if Text.isBlankText scripts.after then [] else [.after scripts.after]

variable {σ α : Type}

-- ---------------------------------------------------------------------------
-- What ran

def noteScript (ran : String → Ran) (run : String → α → σ → Scripted α σ) (script : String) (a : α)
    (s : σ × List Ran) : Scripted α (σ × List Ran) :=
  let done := run script a s.1
  ⟨done.outcome, done.value, (done.state, s.2 ++ [ran script])⟩

def ScriptRunner.recording (runner : ScriptRunner σ) : ScriptRunner (σ × List Ran) where
  before := noteScript .before runner.before
  after := noteScript .after runner.after
  lasts := runner.lasts

def recordingHandler (handler : Request → σ → Response × σ) (r : Request) (s : σ × List Ran) :
    Response × (σ × List Ran) :=
  let (response, state) := handler r s.1
  (response, (state, s.2 ++ [.handler]))

theorem runScript_noteScript (ran : String → Ran) (run : String → α → σ → Scripted α σ)
    (script : String) (a : α) (s : σ) (record : List Ran) :
    runScript (noteScript ran run) script a (s, record) =
      let (a, s) := runScript run script a s
      (a, (s, record ++ if Text.isBlankText script then [] else [ran script])) := by
  rw [runScript, runScript]
  split
  next _ => rw [List.append_nil]
  next _ => rfl

theorem runHandler_recording (runner : ScriptRunner σ) (handler : Request → σ → Response × σ)
    (p : Plane) (route : Route.Key) (r : Request) (s : σ) (record : List Ran) :
    runHandler runner.recording (recordingHandler handler) p route r (s, record) =
      let (response, s) := runHandler runner handler p route r s
      (response, (s, record ++ due p route)) := by
  rw [runHandler, runHandler, due]
  cases p.interceptors.lookup route with
  | none => rfl
  | some scripts =>
    simp only [ScriptRunner.recording, recordingHandler, runScript_noteScript, List.append_assoc]

-- ---------------------------------------------------------------------------
-- Scripts that fail

/-- The runner whose scripts end otherwise, and do the same. -/
def ScriptRunner.ending (runner : ScriptRunner σ)
    (before : String → Request → σ → Except ScriptError Unit)
    (after : String → Response.Head → σ → Except ScriptError Unit) : ScriptRunner σ where
  before script r s := { runner.before script r s with outcome := before script r s }
  after script h s := { runner.after script h s with outcome := after script h s }
  lasts := runner.lasts

theorem runHandler_ending (runner : ScriptRunner σ)
    (before : String → Request → σ → Except ScriptError Unit)
    (after : String → Response.Head → σ → Except ScriptError Unit)
    (handler : Request → σ → Response × σ) (p : Plane) (route : Route.Key) (r : Request) (s : σ) :
    runHandler (runner.ending before after) handler p route r s =
      runHandler runner handler p route r s :=
  rfl

def handed (runner : ScriptRunner σ) (p : Plane) (route : Route.Key) (r : Request) (s : σ) :
    Request × σ :=
  match p.interceptors.lookup route with
  | none => (r, s)
  | some scripts => runScript runner.before scripts.before r s

/-- The body is the one that the handler gave to the request as its before-script left it. -/
theorem body_runHandler (runner : ScriptRunner σ) (handler : Request → σ → Response × σ)
    (p : Plane) (route : Route.Key) (r : Request) (s : σ) :
    (runHandler runner handler p route r s).1.body =
      (handler (handed runner p route r s).1 (handed runner p route r s).2).1.body := by
  rw [runHandler, handed]
  cases p.interceptors.lookup route <;> rfl

theorem runHandler_of_no_after (runner : ScriptRunner σ) (handler : Request → σ → Response × σ)
    (p : Plane) (route : Route.Key) (r : Request) (s : σ)
    (none : ∀ scripts, p.interceptors.lookup route = some scripts → Text.isBlankText scripts.after) :
    runHandler runner handler p route r s =
      handler (handed runner p route r s).1 (handed runner p route r s).2 := by
  rw [runHandler, handed]
  cases found : p.interceptors.lookup route with
  | none => rfl
  | some scripts =>
    simp only [runScript, if_pos (none scripts found)]
    rfl

-- ---------------------------------------------------------------------------
-- All of it

/-- What comes of a request that runs its handler between scripts: what is due runs once and
in order, no failure of a script changes anything, and the response is the handler's but
for what an after-script does to its head. -/
structure Handling (runner : ScriptRunner σ) (handler : Request → σ → Response × σ) (p : Plane)
    (route : Route.Key) (r : Request) (s : σ) (result : Response × σ) : Prop where
  once : ∀ record, runHandler runner.recording (recordingHandler handler) p route r (s, record) =
    (result.1, (result.2, record ++ due p route))
  failures : ∀ before after,
    runHandler (runner.ending before after) handler p route r s = result
  body : result.1.body =
    (handler (handed runner p route r s).1 (handed runner p route r s).2).1.body
  bare : (∀ scripts, p.interceptors.lookup route = some scripts →
      Text.isBlankText scripts.after) →
    result = handler (handed runner p route r s).1 (handed runner p route r s).2

theorem handling_runHandler (runner : ScriptRunner σ) (handler : Request → σ → Response × σ)
    (p : Plane) (route : Route.Key) (r : Request) (s : σ) :
    Handling runner handler p route r s (runHandler runner handler p route r s) where
  once := runHandler_recording runner handler p route r s
  failures before after := runHandler_ending runner before after handler p route r s
  body := body_runHandler runner handler p route r s
  bare := runHandler_of_no_after runner handler p route r s

end Tollgate.Admission
