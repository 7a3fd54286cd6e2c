import Mathlib.Data.List.Basic
import Mathlib.Data.List.Induction

/-
  Stopping and restarting the consumer of the dashboard.

  A stop only sets an event, which the worker tests between
  its polls. A start does nothing while the worker is alive,
  also when that worker is about to find the event set.

  Key definitions include:
    * `WorkerPoint.advance`
    * `ConsumerThreads.step`
    * `ConsumerThreads.Kept`
    * `ConsumerThreads.StartsInTime`

  Main results:
    * `ConsumerThreads.onlyNewestAlive_of_run`
    * `ConsumerThreads.kept_start_iff`
    * `ConsumerThreads.keeps_running_iff`
-/

------------------------------------------------------------
-- Threads
------------------------------------------------------------

namespace FraudStream

/- Where a worker is in `_run`: the tests of the outer and
   the inner loop, what is between them, and the way out. -/
inductive WorkerPoint where
| testing
| connecting
| receiving
| polling
| closing
| leaving
| finished
deriving DecidableEq, Repr

namespace WorkerPoint

/- A step of the worker, in which it may raise. What it
   raises is caught, and the consumer is closed. -/
def advance
    (stopSet raises : Bool) : WorkerPoint → WorkerPoint
| .testing => if stopSet then .leaving else .connecting
| .connecting => if raises then .closing else .receiving
| .receiving => if stopSet then .closing else .polling
| .polling => if raises then .closing else .receiving
| .closing => .testing
| .leaving => .finished
| .finished => .finished

/- The worker is in one of its loops. -/
def isRunning : WorkerPoint → Bool
| .leaving | .finished => false
| _ => true

end WorkerPoint

inductive ConsumerCall where
| start
| stop
deriving DecidableEq, Repr

/- The workers that were started, the newest first, and the
   event that all of them watch. -/
structure ConsumerThreads where
  workers : List WorkerPoint
  stopEvent : Bool
  lastCall : Option ConsumerCall
deriving DecidableEq, Repr

inductive ConsumerEvent where
| start
| stop
| work (i : Nat) (raises : Bool)
deriving DecidableEq, Repr

namespace ConsumerThreads

/- A new consumer. -/
def init : ConsumerThreads where
  workers := []
  stopEvent := false
  lastCall := none

/- `self._thread` is the newest worker. -/
def isAlive (s : ConsumerThreads) : Bool :=
  s.workers.head?.any (fun w => w ≠ .finished)

def start (s : ConsumerThreads) : ConsumerThreads :=
  if s.isAlive then
    { s with lastCall := some .start }
  else
    { workers := .testing :: s.workers
      stopEvent := false
      lastCall := some .start }

def stop (s : ConsumerThreads) : ConsumerThreads :=
  { s with stopEvent := true, lastCall := some .stop }

def step (s : ConsumerThreads) :
    ConsumerEvent → ConsumerThreads
| .start => s.start
| .stop => s.stop
| .work i raises =>
    { s with
      workers :=
        s.workers.modify i
          (WorkerPoint.advance s.stopEvent raises) }

/- The calls and the steps of the workers, in some order. -/
def run (events : List ConsumerEvent) : ConsumerThreads :=
  events.foldl step init

/- A worker runs, and the event that it watches is clear. -/
def Kept (s : ConsumerThreads) : Prop :=
  (∃ w ∈ s.workers, w.isRunning = true) ∧
    s.stopEvent = false

/- Whenever the last call was `start`, a worker is kept. -/
def KeepsRunning (events : List ConsumerEvent) : Prop :=
  ∀ before after, events = before ++ after →
    (run before).lastCall = some .start → (run before).Kept

/- No `start` comes while a worker is alive that was told to
   stop. -/
def StartsInTime (events : List ConsumerEvent) : Prop :=
  ∀ before after, events = before ++ .start :: after →
    (run before).isAlive = true →
      (run before).stopEvent = false

end ConsumerThreads

end FraudStream

------------------------------------------------------------
-- The Newest Worker
------------------------------------------------------------

namespace FraudStream

namespace ConsumerThreads

variable {s : ConsumerThreads}

/- The other workers have finished, and the newest leaves
   only once the event is set. -/
structure OnlyNewestAlive (s : ConsumerThreads) : Prop where
  others : ∀ w ∈ s.workers.tail, w = .finished
  leaves :
    s.workers.head? = some .leaving → s.stopEvent = true

theorem onlyNewestAlive_start
    (hNewest : s.OnlyNewestAlive) :
    s.start.OnlyNewestAlive := by
  unfold start
  split
  · exact ⟨hNewest.others, hNewest.leaves⟩
  · rename_i hDead
    refine ⟨?_, by simp⟩
    intro w hMem
    rw [List.tail_cons] at hMem
    cases hWorkers : s.workers with
    | nil =>
        rw [hWorkers] at hMem
        cases hMem
    | cons newest others =>
        rw [hWorkers] at hMem
        rcases List.mem_cons.1 hMem with hHead | hTail
        · simpa [isAlive, hWorkers, ← hHead] using hDead
        · exact hNewest.others w (by simp [hWorkers, hTail])

theorem onlyNewestAlive_work
    (hNewest : s.OnlyNewestAlive)
    (i : Nat)
    (raises : Bool) :
    (s.step (.work i raises)).OnlyNewestAlive := by
  cases hWorkers : s.workers with
  | nil => constructor <;> simp [step, hWorkers]
  | cons newest others =>
      have hOthers : ∀ w ∈ others, w = .finished := by
        intro w hMem
        exact hNewest.others w (by simp [hWorkers, hMem])
      cases i with
      | zero =>
          constructor
          · simpa [step, hWorkers] using hOthers
          · intro hLeaving
            cases newest <;> cases raises <;>
              cases hStop : s.stopEvent <;>
              simp_all [step, WorkerPoint.advance]
      | succ i =>
          constructor
          · intro w hMem
            simp only [step, hWorkers, List.modify_succ_cons,
              List.tail_cons] at hMem
            rcases List.mem_iff_getElem?.1 hMem with
              ⟨n, hGet⟩
            rw [List.getElem?_modify] at hGet
            rcases Option.map_eq_some_iff.1 hGet with
              ⟨w', hOld, hEq⟩
            have hFinished :=
              hOthers w' (List.mem_of_getElem? hOld)
            rw [hFinished] at hEq
            rw [← hEq]
            split <;> rfl
          · intro hLeaving
            apply hNewest.leaves
            simpa [step, hWorkers] using hLeaving

theorem onlyNewestAlive_of_run
    (events : List ConsumerEvent) :
    (run events).OnlyNewestAlive := by
  induction events using List.reverseRecOn with
  | nil => exact ⟨by simp [run, init], by simp [run, init]⟩
  | append_singleton events event ih =>
      rw [run, List.foldl_append, List.foldl_cons,
        List.foldl_nil, ← run]
      cases event with
      | start => exact onlyNewestAlive_start ih
      | stop => exact ⟨ih.others, fun _ => rfl⟩
      | work i raises =>
          exact onlyNewestAlive_work ih i raises

end ConsumerThreads

end FraudStream

------------------------------------------------------------
-- Kept Workers
------------------------------------------------------------

namespace FraudStream

namespace WorkerPoint

/- A worker leaves its loops only when it finds the event
   set. -/
theorem isRunning_advance
    {w : WorkerPoint}
    (hRunning : w.isRunning = true)
    (raises : Bool) :
    (w.advance false raises).isRunning = true := by
  cases w <;> cases raises <;>
    first
    | rfl
    | cases hRunning

end WorkerPoint

namespace ConsumerThreads

variable {s : ConsumerThreads}

theorem run_append_singleton
    (events : List ConsumerEvent)
    (event : ConsumerEvent) :
    run (events ++ [event]) = (run events).step event := by
  rw [run, List.foldl_append]
  rfl

/- After a start a worker is kept, unless the start found
   one that was alive and told to stop. -/
theorem kept_start_iff
    (hNewest : s.OnlyNewestAlive) :
    s.start.Kept ↔
      (s.isAlive = true → s.stopEvent = false) := by
  unfold start
  split
  · rename_i hAlive
    refine ⟨fun hKept _ => hKept.2, ?_⟩
    intro hClear
    have hStop := hClear hAlive
    refine ⟨?_, hStop⟩
    cases hWorkers : s.workers with
    | nil => simp [isAlive, hWorkers] at hAlive
    | cons newest others =>
        refine ⟨newest, List.mem_cons_self, ?_⟩
        have hAt := hNewest.leaves
        rw [hWorkers, List.head?_cons] at hAt
        cases newest with
        | leaving =>
            rw [hAt rfl] at hStop
            cases hStop
        | finished => simp [isAlive, hWorkers] at hAlive
        | _ => rfl
  · rename_i hDead
    constructor
    · intro _ hAlive
      exact absurd hAlive hDead
    · intro _
      exact ⟨⟨.testing, List.mem_cons_self, rfl⟩, rfl⟩

/- No step of a worker takes a kept one away. -/
theorem kept_work
    (hKept : s.Kept)
    (i : Nat)
    (raises : Bool) :
    (s.step (.work i raises)).Kept := by
  rcases hKept with ⟨⟨w, hMem, hRunning⟩, hStop⟩
  refine ⟨?_, hStop⟩
  rcases List.mem_iff_getElem?.1 hMem with ⟨n, hGet⟩
  refine ⟨if i = n then w.advance false raises else w,
    ?_, ?_⟩
  · apply List.mem_iff_getElem?.2
    refine ⟨n, ?_⟩
    simp only [step, List.getElem?_modify, hGet, hStop]
    split <;> rfl
  · split
    · exact WorkerPoint.isRunning_advance hRunning raises
    · exact hRunning

theorem startsInTime_of_append
    {events later : List ConsumerEvent}
    (hInTime : StartsInTime (events ++ later)) :
    StartsInTime events := by
  intro before after hEq
  apply hInTime before (after ++ later)
  rw [hEq, List.append_assoc, List.cons_append]

/- By induction on the run: a start in time keeps a worker,
   and the steps that follow leave it. -/
theorem kept_of_startsInTime
    (events : List ConsumerEvent)
    (hInTime : StartsInTime events)
    (hLast : (run events).lastCall = some .start) :
    (run events).Kept := by
  induction events using List.reverseRecOn with
  | nil => cases hLast
  | append_singleton events event ih =>
      rw [run_append_singleton] at hLast ⊢
      cases event with
      | start =>
          apply (kept_start_iff
            (onlyNewestAlive_of_run events)).2
          exact hInTime events [] rfl
      | stop => cases hLast
      | work i raises =>
          apply kept_work
          exact ih (startsInTime_of_append hInTime) hLast

/- A worker is kept after every start exactly when no start
   finds one that is alive and told to stop. -/
theorem keeps_running_iff
    (events : List ConsumerEvent) :
    KeepsRunning events ↔ StartsInTime events := by
  constructor
  · intro hKeeps before after hEq
    have hKept :=
      hKeeps (before ++ [.start]) after
        (by rw [hEq, List.append_assoc,
              List.singleton_append])
    rw [run_append_singleton] at hKept
    apply (kept_start_iff (onlyNewestAlive_of_run before)).1
    apply hKept
    simp only [step, start]
    split <;> rfl
  · intro hInTime before after hEq hLast
    rw [hEq] at hInTime
    exact kept_of_startsInTime before
      (startsInTime_of_append hInTime) hLast

/- The worker that the second start finds polls once more
   at most, then it leaves. -/
theorem restart_in_window_exits :
    ¬ KeepsRunning [.start, .stop, .start] := by
  intro hKeeps
  have hKept := hKeeps [.start, .stop, .start] [] rfl rfl
  cases hKept.2

end ConsumerThreads

end FraudStream
