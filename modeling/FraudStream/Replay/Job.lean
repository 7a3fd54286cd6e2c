import Mathlib.Data.List.Basic

/-
  The replay job, from its source to its results.

  What the source yields, and what each call of the scoring
  function, the sink, the callback and the summary does, are
  the environment of a run. The cancel flag is tested when an
  event is taken, and nowhere else. A call that the flag is
  set in belongs to the event it is made for.

  Key definitions include:
    * `ReplayEnv`
    * `ReplayEnv.attempt`
    * `ReplayJob.loop`
    * `ReplayJob.runReplay`
    * `ReplayJob.start`
-/

------------------------------------------------------------
-- Status
------------------------------------------------------------

namespace FraudStream

inductive ReplayStatus where
| pending
| running
| completed
| failed
| cancelled
deriving DecidableEq, Repr

/- `str(status)` -/
def ReplayStatus.text : ReplayStatus → String
| .pending => "ReplayStatus.pending"
| .running => "ReplayStatus.running"
| .completed => "ReplayStatus.completed"
| .failed => "ReplayStatus.failed"
| .cancelled => "ReplayStatus.cancelled"

structure ReplayJobStatus where
  status : ReplayStatus
  totalEvents : Int
  processedEvents : Nat
  failedEvents : Nat
  errorMessage : Option String
deriving DecidableEq, Repr

structure ReplayJob (ρ : Type) where
  status : ReplayJobStatus
  results : List ρ
deriving DecidableEq, Repr

/- A job that was not started. -/
def ReplayJob.pending (ρ : Type) : ReplayJob ρ where
  status :=
    { status := .pending
      totalEvents := 0
      processedEvents := 0
      failedEvents := 0
      errorMessage := none }
  results := []

end FraudStream

------------------------------------------------------------
-- The Environment Of A Run
------------------------------------------------------------

namespace FraudStream

/- What a call raises: an `Exception` with its text, or the
   cancellation of the task or an exit of the interpreter,
   which are none. -/
inductive Raised where
| error (message : String)
| cancelled
| exit
deriving DecidableEq, Repr

/- When `cancel()` is called: before the first event is taken,
   after an event was taken and before the next one, or after
   the last event. -/
inductive CancelMoment where
| beforeEvents
| during (event : Nat)
| afterEvents
deriving DecidableEq, Repr

/- The flag is set when an event is taken. -/
def CancelMoment.precedes
    (event : Nat) : CancelMoment → Bool
| .beforeEvents => true
| .during other => other < event
| .afterEvents => false

structure ReplayEnv (ε ρ : Type) where
  openSink : Option Raised
  openAdapter : Option Raised
  count : Except Raised Int
  events : List ε
  sourceEnd : Option Raised
  process : Nat → ε → Except Raised ρ
  send : Nat → ρ → Option Raised
  callback : Option (Nat → ρ → Option Raised)
  summary : List ρ → Option Raised
  closeSink : Option Raised
  cancel : Option CancelMoment

/- What becomes of an event in the body of the loop, with the
   result that was collected. -/
inductive Attempt (ρ : Type) where
| processed (result : ρ)
| failed (collected : Option ρ)
| escaped (raised : Raised) (collected : Option ρ)
deriving DecidableEq, Repr

namespace ReplayEnv

variable {ε ρ : Type}

/- The flag at the test of an event. -/
def isCancelled
    (env : ReplayEnv ε ρ)
    (event : Nat) : Bool :=
  match env.cancel with
  | none => false
  | some moment => moment.precedes event

/- Only an `Exception` is caught in the body. -/
def caught
    (collected : Option ρ) : Raised → Attempt ρ
| .error _ => .failed collected
| .cancelled => .escaped .cancelled collected
| .exit => .escaped .exit collected

/- The body of the loop. The result is collected before it is
   sent and called back. -/
def attempt
    (env : ReplayEnv ε ρ)
    (event : Nat)
    (e : ε) : Attempt ρ :=
  match env.process event e with
  | .error raised => caught none raised
  | .ok result =>
      match env.send event result with
      | some raised => caught (some result) raised
      | none =>
          match
            env.callback.bind (fun call => call event result)
          with
          | some raised => caught (some result) raised
          | none => .processed result

/- A summary of no results does nothing. -/
def computeSummary
    (env : ReplayEnv ε ρ)
    (results : List ρ) : Option Raised :=
  if results.isEmpty then none else env.summary results

end ReplayEnv

end FraudStream

------------------------------------------------------------
-- The Job
------------------------------------------------------------

namespace FraudStream

namespace ReplayJob

variable {ε ρ : Type}

def setStatus
    (job : ReplayJob ρ)
    (status : ReplayStatus) : ReplayJob ρ :=
  { job with status := { job.status with status := status } }

/- The counters of the loop. -/
structure Progress (ρ : Type) where
  job : ReplayJob ρ
  processed : Nat
  failed : Nat

/- How the loop is left. -/
inductive LoopExit where
| exhausted
| cancelled
| raised (r : Raised)
deriving DecidableEq, Repr

def collect
    (p : Progress ρ)
    (collected : Option ρ) : Progress ρ :=
  { p with
    job :=
      { p.job with
        results := p.job.results ++ collected.toList } }

/- Each hundredth processed event updates the status. -/
def countProcessed (p : Progress ρ) : Progress ρ :=
  let processed := p.processed + 1
  { p with
    processed := processed
    job :=
      if processed % 100 = 0 then
        { p.job with
          status :=
            { p.job.status with
              processedEvents := processed } }
      else
        p.job }

def countFailed (p : Progress ρ) : Progress ρ :=
  { p with failed := p.failed + 1 }

/- The loop from an event on. -/
def loop
    (env : ReplayEnv ε ρ) :
    Nat → List ε → Progress ρ → Progress ρ × LoopExit
| _, [], p =>
    match env.sourceEnd with
    | none => (p, .exhausted)
    | some raised => (p, .raised raised)
| event, e :: es, p =>
    if env.isCancelled event then
      (p, .cancelled)
    else
      match env.attempt event e with
      | .processed result =>
          loop env (event + 1) es
            (countProcessed (collect p (some result)))
      | .failed collected =>
          loop env (event + 1) es
            (countFailed (collect p collected))
      | .escaped raised collected =>
          (collect p collected, .raised raised)

/- The counters are copied to the status when the events are
   exhausted. -/
def finish
    (env : ReplayEnv ε ρ)
    (p : Progress ρ) : ReplayJob ρ × Option Raised :=
  let job :=
    { p.job with
      status :=
        { p.job.status with
          processedEvents := p.processed
          failedEvents := p.failed } }
  match env.computeSummary job.results with
  | some raised => (job, some raised)
  | none => (job.setStatus .completed, none)

/- What follows the loop. -/
def leave
    (env : ReplayEnv ε ρ)
    (p : Progress ρ) :
    LoopExit → ReplayJob ρ × Option Raised
| .exhausted => finish env p
| .cancelled => (p.job.setStatus .cancelled, none)
| .raised raised => (p.job, some raised)

/- The counters before the first event. -/
def begin
    (job : ReplayJob ρ)
    (total : Int) : Progress ρ where
  job :=
    { job with
      status := { job.status with totalEvents := total } }
  processed := 0
  failed := 0

/- `_run_replay`, with what it raises. -/
def runReplay
    (env : ReplayEnv ε ρ)
    (job : ReplayJob ρ) : ReplayJob ρ × Option Raised :=
  match env.openAdapter with
  | some raised => (job, some raised)
  | none =>
      match env.count with
      | .error raised => (job, some raised)
      | .ok total =>
          let left := loop env 0 env.events (job.begin total)
          leave env left.1 left.2

/- The handlers of `start`. The cancellation of the task is
   raised again, and no handler takes an exit. -/
def handle
    (job : ReplayJob ρ) :
    Option Raised → ReplayJob ρ × Option Raised
| none => (job, none)
| some .cancelled =>
    (job.setStatus .cancelled, some .cancelled)
| some .exit => (job, some .exit)
| some (.error message) =>
    ({ job with
        status :=
          { job.status with
            status := .failed
            errorMessage := some message } },
      none)

/- `start`, with what it raises. The sink is created outside
   of the handlers, and closed last. -/
def start
    (env : ReplayEnv ε ρ)
    (job : ReplayJob ρ) : ReplayJob ρ × Option Raised :=
  if job.status.status ≠ .pending then
    (job,
      some
        (.error
          ("Job already started (status: " ++
            job.status.status.text ++ ")")))
  else
    let running := job.setStatus .running
    match env.openSink with
    | some raised => (running, some raised)
    | none =>
        let ran := runReplay env running
        let handled := handle ran.1 ran.2
        match env.closeSink with
        | some raised => (handled.1, some raised)
        | none => handled

end ReplayJob

end FraudStream
