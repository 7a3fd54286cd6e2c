import FraudStream.Library.Custody
import FraudStream.Library.SharedThreads

/-
  The result sink of a replay and its Iceberg buffer.

  A call of `send_result` appends its result to the buffer
  under the lock. `_flush_buffer` takes the buffer under the
  lock, writes the batch without the lock, and puts it back
  under the lock when the write raises. It is run by the
  flush thread, by `flush` and by `close`; any number of
  calls interleave.

  Main declarations:
    * `ResultSink.Phase`
    * `ResultSink.Step`
    * `ResultSink.contents`
    * `ResultSink.effect_of_step`
    * `ResultSink.accounted_of_reachable`
    * `ResultSink.sent_results_are_held_once`
-/

------------------------------------------------------------
-- Calls And Their Phases
------------------------------------------------------------

namespace FraudStream

namespace ResultSink

/- The calls on a sink. The flush thread is one call that
   loops. -/
inductive Call (ρ : Type) where
| sendResult : ρ → Call ρ
| flush
| close
| flushLoop

/- A result and the call that sent it, which tells two
   sends of equal results apart. -/
structure Sent (ι ρ : Type) where
  call : ι
  result : ρ
deriving DecidableEq

variable {ι ρ : Type}

/- Where a run of `_flush_buffer` is. -/
inductive FlushPhase (ι ρ : Type) where
| locking
| checking
| copied : List (Sent ι ρ) → FlushPhase ι ρ
| cleared : List (Sent ι ρ) → FlushPhase ι ρ
| writing : List (Sent ι ρ) → FlushPhase ι ρ
| failed : List (Sent ι ρ) → FlushPhase ι ρ
| restoring : List (Sent ι ρ) → FlushPhase ι ρ
| restored

/- Where a call is. -/
inductive Phase (ι ρ : Type) where
| pending
| enqueueing
| locking
| appending
| appended
| sent
| waiting
| draining
| flushing : FlushPhase ι ρ → Phase ι ρ
| returned

/- The call is inside `with self._lock`. -/
def Phase.Inside : Phase ι ρ → Prop
| .appending => True
| .appended => True
| .flushing .checking => True
| .flushing (.copied _) => True
| .flushing (.cleared _) => True
| .flushing (.restoring _) => True
| .flushing .restored => True
| _ => False

/- The batch of a flush once the buffer is cleared, until it
   is written or put back. -/
def Phase.inFlight : Phase ι ρ → List (Sent ι ρ)
| .flushing (.cleared batch) => batch
| .flushing (.writing batch) => batch
| .flushing (.failed batch) => batch
| .flushing (.restoring batch) => batch
| _ => []

/- The result of a send is in the buffer or beyond it. -/
def Phase.HasAppended : Phase ι ρ → Prop
| .appended => True
| .sent => True
| _ => False

/- The flush thread tests its loop condition again; the
   other callers return. -/
def afterFlush : Call ρ → Phase ι ρ
| .flushLoop => .pending
| _ => .returned

/- The fields of the sink. `handed` lists the results given
   to `_send_to_kafka`, `written` the batches that
   `table.append` has committed. -/
structure Sink (ι ρ : Type) where
  buffer : List (Sent ι ρ)
  queue : List ρ
  handed : List ρ
  stop : Bool
  holder : Option ι
  written : List (List (Sent ι ρ))

def emptySink : Sink ι ρ where
  buffer := []
  queue := []
  handed := []
  stop := false
  holder := none
  written := []

/- What the sink is built with and runs on. `importable`:
   no import of a write fails. A queue of size zero or less
   is unbounded. -/
structure SinkConfig where
  icebergTable : Option String
  maxQueueSize : Int
  importable : Bool

def SinkConfig.QueueFull
    (config : SinkConfig)
    (queued : ℕ) : Prop :=
  0 < config.maxQueueSize ∧ config.maxQueueSize ≤ queued

instance
    (config : SinkConfig)
    (queued : ℕ) :
    Decidable (config.QueueFull queued) :=
  inferInstanceAs (Decidable (_ ∧ _))

end ResultSink

end FraudStream

------------------------------------------------------------
-- Steps
------------------------------------------------------------

namespace FraudStream

namespace ResultSink

variable {ι ρ : Type}

/- One step of one call on the sink. -/
inductive Step
    (config : SinkConfig)
    (calls : ι → Call ρ)
    (i : ι) :
    Sink ι ρ → Phase ι ρ → Sink ι ρ → Phase ι ρ → Prop where
-- `send_result`: the queue first, the buffer in any case.
| beginSend {s : Sink ι ρ} {r : ρ} :
    calls i = .sendResult r →
    Step config calls i s .pending s .enqueueing
| enqueue {s : Sink ι ρ} {r : ρ} :
    calls i = .sendResult r →
    ¬ config.QueueFull s.queue.length →
    Step config calls i s .enqueueing
      { s with queue := s.queue ++ [r] } .locking
| sendDirectly {s : Sink ι ρ} {r : ρ} :
    calls i = .sendResult r →
    config.QueueFull s.queue.length →
    Step config calls i s .enqueueing
      { s with handed := s.handed ++ [r] } .locking
| lockSend {s : Sink ι ρ} :
    s.holder = none →
    Step config calls i s .locking
      { s with holder := some i } .appending
| append {s : Sink ι ρ} {r : ρ} :
    calls i = .sendResult r →
    Step config calls i s .appending
      { s with buffer := s.buffer ++ [⟨i, r⟩] } .appended
| unlockSend {s : Sink ι ρ} :
    Step config calls i s .appended
      { s with holder := none } .sent
-- `_flush_loop`
| test {s : Sink ι ρ} :
    calls i = .flushLoop →
    s.stop = false →
    Step config calls i s .pending s .waiting
| endLoop {s : Sink ι ρ} :
    calls i = .flushLoop →
    s.stop = true →
    Step config calls i s .pending s .returned
| wake {s : Sink ι ρ} :
    Step config calls i s .waiting s (.flushing .locking)
-- `flush` and `close`. The flush of the producer can raise.
| beginFlush {s : Sink ι ρ} :
    calls i = .flush →
    Step config calls i s .pending s .draining
| beginClose {s : Sink ι ρ} :
    calls i = .close →
    Step config calls i s .pending
      { s with stop := true } .draining
| drain {s : Sink ι ρ} {r : ρ} {rest : List ρ} :
    s.queue = r :: rest →
    Step config calls i s .draining
      { s with queue := rest, handed := s.handed ++ [r] }
      .draining
| drained {s : Sink ι ρ} :
    s.queue = [] →
    Step config calls i s .draining s (.flushing .locking)
| producerRaises {s : Sink ι ρ} :
    s.queue = [] →
    Step config calls i s .draining s .returned
-- `_flush_buffer`
| noTable {s : Sink ι ρ} :
    config.icebergTable = none →
    Step config calls i s (.flushing .locking) s
      (afterFlush (calls i))
| lockFlush {s : Sink ι ρ} :
    config.icebergTable.isSome = true →
    s.holder = none →
    Step config calls i s (.flushing .locking)
      { s with holder := some i } (.flushing .checking)
| nothingToFlush {s : Sink ι ρ} :
    s.buffer = [] →
    Step config calls i s (.flushing .checking)
      { s with holder := none } (afterFlush (calls i))
| copy {s : Sink ι ρ} :
    s.buffer ≠ [] →
    Step config calls i s (.flushing .checking) s
      (.flushing (.copied s.buffer))
| clear {s : Sink ι ρ} {batch : List (Sent ι ρ)} :
    Step config calls i s (.flushing (.copied batch))
      { s with buffer := [] } (.flushing (.cleared batch))
| unlockFlush {s : Sink ι ρ} {batch : List (Sent ι ρ)} :
    Step config calls i s (.flushing (.cleared batch))
      { s with holder := none } (.flushing (.writing batch))
-- `_write_to_iceberg`. An ImportError of the write is
-- logged, and the batch is dropped.
| write {s : Sink ι ρ} {batch : List (Sent ι ρ)} :
    Step config calls i s (.flushing (.writing batch))
      { s with written := s.written ++ [batch] }
      (afterFlush (calls i))
| writeRaises {s : Sink ι ρ} {batch : List (Sent ι ρ)} :
    Step config calls i s (.flushing (.writing batch)) s
      (.flushing (.failed batch))
| writeSkipped {s : Sink ι ρ} {batch : List (Sent ι ρ)} :
    config.importable = false →
    Step config calls i s (.flushing (.writing batch)) s
      (afterFlush (calls i))
| lockRestore {s : Sink ι ρ} {batch : List (Sent ι ρ)} :
    s.holder = none →
    Step config calls i s (.flushing (.failed batch))
      { s with holder := some i }
      (.flushing (.restoring batch))
| restore {s : Sink ι ρ} {batch : List (Sent ι ρ)} :
    Step config calls i s (.flushing (.restoring batch))
      { s with buffer := s.buffer ++ batch }
      (.flushing .restored)
| unlockRestore {s : Sink ι ρ} :
    Step config calls i s (.flushing .restored)
      { s with holder := none } (afterFlush (calls i))

/- The calls as threads that share the sink. -/
def threads
    (config : SinkConfig)
    (calls : ι → Call ρ) :
    SharedThreads ι (Sink ι ρ) (Phase ι ρ) where
  step := Step config calls

/- A new sink, before any call. -/
def newSink :
    SharedThreads.Config ι (Sink ι ρ) (Phase ι ρ) where
  shared := emptySink
  point := fun _ => .pending

/- A sink and its calls during an interleaving. -/
def Reachable
    [DecidableEq ι]
    (config : SinkConfig)
    (calls : ι → Call ρ) :
    SharedThreads.Config ι (Sink ι ρ) (Phase ι ρ) → Prop :=
  SharedThreads.Reachable (threads config calls) newSink

end ResultSink

end FraudStream

------------------------------------------------------------
-- The Lock
------------------------------------------------------------

namespace FraudStream

namespace ResultSink

variable {ι ρ : Type}
variable {config : SinkConfig}
variable {calls : ι → Call ρ}
variable {i : ι}
variable {s s' : Sink ι ρ}
variable {p p' : Phase ι ρ}

theorem not_inside_afterFlush
    (call : Call ρ) :
    ¬ (afterFlush call : Phase ι ρ).Inside := by
  cases call <;> exact id

theorem inFlight_afterFlush
    (call : Call ρ) :
    (afterFlush call : Phase ι ρ).inFlight = [] := by
  cases call <;> rfl

theorem not_hasAppended_afterFlush
    (call : Call ρ) :
    ¬ (afterFlush call : Phase ι ρ).HasAppended := by
  cases call <;> exact id

theorem afterFlush_ne_flushing
    (call : Call ρ)
    (phase : FlushPhase ι ρ) :
    afterFlush call ≠ .flushing phase := by
  intro hEq
  cases call <;> cases hEq

/- A step that ends inside begins inside or takes a free
   lock. -/
theorem holder_of_step
    (hStep : Step config calls i s p s' p')
    (hHeld : p.Inside → s.holder = some i)
    (hInside : p'.Inside) :
    s'.holder = some i := by
  cases hStep with
  | lockSend hFree => rfl
  | lockFlush hTable hFree => rfl
  | lockRestore hFree => rfl
  | append hCall => exact hHeld trivial
  | copy hNonempty => exact hHeld trivial
  | clear => exact hHeld trivial
  | restore => exact hHeld trivial
  | noTable hTable =>
      exact absurd hInside (not_inside_afterFlush _)
  | nothingToFlush hEmpty =>
      exact absurd hInside (not_inside_afterFlush _)
  | write => exact absurd hInside (not_inside_afterFlush _)
  | writeSkipped hImports =>
      exact absurd hInside (not_inside_afterFlush _)
  | unlockRestore =>
      exact absurd hInside (not_inside_afterFlush _)
  | _ => exact hInside.elim

/- No step takes the lock from another call. -/
theorem holder_of_step_of_ne
    (hStep : Step config calls i s p s' p')
    (hHeld : p.Inside → s.holder = some i)
    {j : ι}
    (hOther : j ≠ i)
    (hHolder : s.holder = some j) :
    s'.holder = some j := by
  have hOutside : ¬ p.Inside := by
    intro hInside
    rw [hHeld hInside] at hHolder
    exact hOther (Option.some.inj hHolder).symm
  cases hStep with
  | lockSend hFree =>
      rw [hFree] at hHolder
      cases hHolder
  | lockFlush hTable hFree =>
      rw [hFree] at hHolder
      cases hHolder
  | lockRestore hFree =>
      rw [hFree] at hHolder
      cases hHolder
  | unlockSend => exact absurd trivial hOutside
  | nothingToFlush hEmpty => exact absurd trivial hOutside
  | unlockFlush => exact absurd trivial hOutside
  | unlockRestore => exact absurd trivial hOutside
  | _ => exact hHolder

/- Outside the lock no step touches the buffer. -/
theorem buffer_of_step
    (hStep : Step config calls i s p s' p')
    (hOutside : ¬ p.Inside) :
    s'.buffer = s.buffer := by
  cases hStep with
  | append hCall => exact absurd trivial hOutside
  | clear => exact absurd trivial hOutside
  | restore => exact absurd trivial hOutside
  | _ => rfl

/- The copy is taken of the whole buffer. -/
theorem buffer_of_copy
    {batch : List (Sent ι ρ)}
    (hStep : Step config calls i s p s' p')
    (hCopied : p' = .flushing (.copied batch)) :
    s'.buffer = batch := by
  cases hStep with
  | copy hNonempty =>
      cases hCopied
      rfl
  | noTable hTable =>
      exact absurd hCopied (afterFlush_ne_flushing _ _)
  | nothingToFlush hEmpty =>
      exact absurd hCopied (afterFlush_ne_flushing _ _)
  | write =>
      exact absurd hCopied (afterFlush_ne_flushing _ _)
  | writeSkipped hImports =>
      exact absurd hCopied (afterFlush_ne_flushing _ _)
  | unlockRestore =>
      exact absurd hCopied (afterFlush_ne_flushing _ _)
  | _ => cases hCopied

theorem locked_threads
    (config : SinkConfig)
    (calls : ι → Call ρ) :
    (threads config calls).Locked (·.holder)
      Phase.Inside where
  inside := holder_of_step
  others := holder_of_step_of_ne

variable [DecidableEq ι]

/- The copy is the buffer until the buffer is cleared: the
   flush is inside the lock, so nobody else appends. -/
theorem buffer_of_copied
    {c : SharedThreads.Config ι (Sink ι ρ) (Phase ι ρ)}
    (hRun : Reachable config calls c)
    {j : ι}
    {batch : List (Sent ι ρ)}
    (hCopied : c.point j = .flushing (.copied batch)) :
    c.shared.buffer = batch := by
  have hStart :
      ∀ k, ¬ (newSink.point k : Phase ι ρ).Inside :=
    fun _ => id
  induction hRun generalizing batch with
  | start => cases hCopied
  | @act c i s p hRun hAct ih =>
      by_cases hSame : j = i
      · subst hSame
        rw [c.point_go_self] at hCopied
        rw [c.shared_go]
        exact buffer_of_copy hAct hCopied
      · rw [c.point_go_of_ne hSame] at hCopied
        rw [c.shared_go, buffer_of_step hAct, ih hCopied]
        intro hInside
        have hUnique :=
          (locked_threads config calls).inside_unique hStart
            hRun hInside (by rw [hCopied]; trivial)
        exact hSame hUnique.symm

end ResultSink

end FraudStream

------------------------------------------------------------
-- Where The Results Are
------------------------------------------------------------

namespace FraudStream

namespace ResultSink

variable {ι ρ : Type}

/- The places of a result: the buffer, the batch of one
   flush, and the written batches. -/
inductive Place (ι : Type) where
| buffer
| inFlight : ι → Place ι
| written : ℕ → Place ι
deriving DecidableEq

/- What each place holds. -/
def contents
    (c : SharedThreads.Config ι (Sink ι ρ) (Phase ι ρ)) :
    Custody.Contents (Place ι) (Sent ι ρ)
| .buffer => c.shared.buffer
| .inFlight i => (c.point i).inFlight
| .written n => c.shared.written.getD n []

theorem inFlight_ne_buffer
    (i : ι) :
    Place.inFlight i ≠ .buffer :=
  nofun

theorem written_ne_buffer
    (n : ℕ) :
    (.written n : Place ι) ≠ .buffer :=
  nofun

theorem written_ne_inFlight
    (n : ℕ)
    (i : ι) :
    Place.written n ≠ .inFlight i :=
  nofun

theorem inFlight_injective :
    Function.Injective (Place.inFlight : ι → Place ι) :=
  fun _ _ => Place.inFlight.inj

theorem written_injective :
    Function.Injective (Place.written : ℕ → Place ι) :=
  fun _ _ => Place.written.inj

/- A batch is appended behind the written ones. -/
theorem getD_concat
    (batches : List (List (Sent ι ρ)))
    (batch : List (Sent ι ρ))
    (n : ℕ) :
    (batches ++ [batch]).getD n [] =
      if n = batches.length then
        batch
      else
        batches.getD n [] := by
  rw [List.getD_eq_getElem?_getD, List.getElem?_append,
    List.getD_eq_getElem?_getD]
  rcases Nat.lt_trichotomy n batches.length with
    hLess | hEq | hMore
  · rw [if_pos hLess, if_neg (Nat.ne_of_lt hLess)]
  · simp [hEq]
  · have hPast : n - batches.length ≠ 0 := by omega
    rw [if_neg (Nat.not_lt_of_gt hMore),
      if_neg (Nat.ne_of_gt hMore),
      List.getElem?_eq_none (Nat.le_of_lt hMore),
      List.getElem?_singleton, if_neg hPast]

/- The call has appended its result. -/
def Entered
    (calls : ι → Call ρ)
    (c : SharedThreads.Config ι (Sink ι ρ) (Phase ι ρ))
    (x : Sent ι ρ) : Prop :=
  calls x.call = .sendResult x.result ∧
    (c.point x.call).HasAppended

/- What a step does to the places: nothing, a result enters
   the buffer, or a whole batch moves on. -/
inductive Effect
    (calls : ι → Call ρ)
    (i : ι)
    (s : Sink ι ρ)
    (p : Phase ι ρ)
    (s' : Sink ι ρ)
    (p' : Phase ι ρ) : Prop where
| elsewhere :
    s'.buffer = s.buffer →
    s'.written = s.written →
    p'.inFlight = p.inFlight →
    (p'.HasAppended ↔ p.HasAppended) →
    Effect calls i s p s' p'
| enters (r : ρ) :
    calls i = .sendResult r →
    p = .appending →
    p' = .appended →
    s'.buffer = s.buffer ++ [⟨i, r⟩] →
    s'.written = s.written →
    Effect calls i s p s' p'
| taken (batch : List (Sent ι ρ)) :
    p = .flushing (.copied batch) →
    p' = .flushing (.cleared batch) →
    s'.buffer = [] →
    s'.written = s.written →
    Effect calls i s p s' p'
| committed (batch : List (Sent ι ρ)) :
    p = .flushing (.writing batch) →
    p' = afterFlush (calls i) →
    s'.buffer = s.buffer →
    s'.written = s.written ++ [batch] →
    Effect calls i s p s' p'
| putBack (batch : List (Sent ι ρ)) :
    p = .flushing (.restoring batch) →
    p' = .flushing .restored →
    s'.buffer = s.buffer ++ batch →
    s'.written = s.written →
    Effect calls i s p s' p'

variable {config : SinkConfig}
variable {calls : ι → Call ρ}

theorem effect_of_step
    {i : ι}
    {s s' : Sink ι ρ}
    {p p' : Phase ι ρ}
    (hImports : config.importable = true)
    (hStep : Step config calls i s p s' p') :
    Effect calls i s p s' p' := by
  cases hStep with
  | append hCall => exact .enters _ hCall rfl rfl rfl rfl
  | clear => exact .taken _ rfl rfl rfl rfl
  | write => exact .committed _ rfl rfl rfl rfl
  | restore => exact .putBack _ rfl rfl rfl rfl
  | writeSkipped hMissing =>
      rw [hImports] at hMissing
      cases hMissing
  | noTable hTable =>
      refine .elsewhere rfl rfl (inFlight_afterFlush _) ?_
      exact iff_of_false (not_hasAppended_afterFlush _) id
  | nothingToFlush hEmpty =>
      refine .elsewhere rfl rfl (inFlight_afterFlush _) ?_
      exact iff_of_false (not_hasAppended_afterFlush _) id
  | unlockRestore =>
      refine .elsewhere rfl rfl (inFlight_afterFlush _) ?_
      exact iff_of_false (not_hasAppended_afterFlush _) id
  | _ => exact .elsewhere rfl rfl rfl Iff.rfl

end ResultSink

end FraudStream

------------------------------------------------------------
-- What A Step Changes
------------------------------------------------------------

namespace FraudStream

namespace ResultSink

open Custody

variable {ι ρ : Type}
variable [DecidableEq ι]
variable {config : SinkConfig}
variable {calls : ι → Call ρ}
variable {c : SharedThreads.Config ι (Sink ι ρ) (Phase ι ρ)}

/- A step changes the buffer, the batch of its own call and
   the written batches. -/
theorem contents_go_eq
    {i : ι}
    {s : Sink ι ρ}
    {p : Phase ι ρ}
    {d : Contents (Place ι) (Sent ι ρ)}
    (hBuffer : d .buffer = s.buffer)
    (hOwn : d (.inFlight i) = p.inFlight)
    (hOthers :
      ∀ j, j ≠ i → d (.inFlight j) = contents c (.inFlight j))
    (hWritten : ∀ n, d (.written n) = s.written.getD n []) :
    contents (c.go i s p) = d := by
  funext place
  cases place with
  | buffer => exact hBuffer.symm
  | inFlight j =>
      by_cases hSame : j = i
      · subst hSame
        simp [contents, SharedThreads.Config.go, hOwn]
      · simp [contents, SharedThreads.Config.go, hSame,
          hOthers]
  | written n => exact (hWritten n).symm

/- An appended result enters the buffer. -/
theorem contents_go_enters
    {i : ι}
    {r : ρ}
    {s : Sink ι ρ}
    (hBefore : c.point i = .appending)
    (hBuffer : s.buffer = c.shared.buffer ++ [⟨i, r⟩])
    (hWritten : s.written = c.shared.written) :
    contents (c.go i s .appended) =
      put (contents c) .buffer ⟨i, r⟩ := by
  apply contents_go_eq
  · rw [put_self, hBuffer]
    rfl
  · rw [put_of_ne (inFlight_ne_buffer i), contents, hBefore]
    rfl
  · intro j _
    exact put_of_ne (inFlight_ne_buffer j) _
  · intro n
    rw [put_of_ne (written_ne_buffer n), hWritten]
    rfl

/- A cleared buffer is in flight. -/
theorem contents_go_taken
    {i : ι}
    {batch : List (Sent ι ρ)}
    {s : Sink ι ρ}
    (hBefore : c.point i = .flushing (.copied batch))
    (hCopied : c.shared.buffer = batch)
    (hBuffer : s.buffer = [])
    (hWritten : s.written = c.shared.written) :
    contents (c.go i s (.flushing (.cleared batch))) =
      move (contents c) .buffer (.inFlight i) := by
  apply contents_go_eq
  · rw [move_source, hBuffer]
  · rw [move_target (inFlight_ne_buffer i).symm, contents,
      contents, hBefore, hCopied]
    rfl
  · intro j hOther
    exact
      move_of_ne (inFlight_ne_buffer j)
        (inFlight_injective.ne hOther)
  · intro n
    rw [move_of_ne (written_ne_buffer n)
        (written_ne_inFlight n i),
      hWritten]
    rfl

/- A committed batch is the last written one. -/
theorem contents_go_committed
    {i : ι}
    {batch : List (Sent ι ρ)}
    {s : Sink ι ρ}
    {p : Phase ι ρ}
    (hBefore : c.point i = .flushing (.writing batch))
    (hAfter : p.inFlight = [])
    (hBuffer : s.buffer = c.shared.buffer)
    (hWritten : s.written = c.shared.written ++ [batch]) :
    contents (c.go i s p) =
      move (contents c) (.inFlight i)
        (.written c.shared.written.length) := by
  apply contents_go_eq
  · rw [move_of_ne (inFlight_ne_buffer i).symm
        (written_ne_buffer _).symm,
      hBuffer]
    rfl
  · rw [move_source, hAfter]
  · intro j hOther
    exact
      move_of_ne (inFlight_injective.ne hOther)
        (written_ne_inFlight _ j).symm
  · intro n
    rw [hWritten, getD_concat]
    split
    · next hLast =>
        rw [hLast, move_target (written_ne_inFlight _ i).symm,
          contents, contents, hBefore]
        simp [Phase.inFlight]
    · next hEarlier =>
        exact
          move_of_ne (written_ne_inFlight n i)
            (written_injective.ne hEarlier)

/- A batch whose write raised is back in the buffer. -/
theorem contents_go_putBack
    {i : ι}
    {batch : List (Sent ι ρ)}
    {s : Sink ι ρ}
    (hBefore : c.point i = .flushing (.restoring batch))
    (hBuffer : s.buffer = c.shared.buffer ++ batch)
    (hWritten : s.written = c.shared.written) :
    contents (c.go i s (.flushing .restored)) =
      move (contents c) (.inFlight i) .buffer := by
  apply contents_go_eq
  · rw [move_target (inFlight_ne_buffer i), contents,
      contents, hBefore, hBuffer]
    rfl
  · rw [move_source]
    rfl
  · intro j hOther
    exact
      move_of_ne (inFlight_injective.ne hOther)
        (inFlight_ne_buffer j)
  · intro n
    rw [move_of_ne (written_ne_inFlight n i)
        (written_ne_buffer n),
      hWritten]
    rfl

/- A call that stays on its side of the append changes
   nothing of what has entered. -/
theorem entered_go
    {i : ι}
    {s : Sink ι ρ}
    {p : Phase ι ρ}
    (hSame : p.HasAppended ↔ (c.point i).HasAppended) :
    Entered calls (c.go i s p) = Entered calls c := by
  funext x
  by_cases hCall : x.call = i
  · simp [Entered, SharedThreads.Config.go, hCall, hSame]
  · simp [Entered, SharedThreads.Config.go, hCall]

/- The append of a call enters its result. -/
theorem entered_go_append
    {i : ι}
    {r : ρ}
    {s : Sink ι ρ}
    (hCall : calls i = .sendResult r)
    (x : Sent ι ρ) :
    Entered calls (c.go i s .appended) x ↔
      x = ⟨i, r⟩ ∨ Entered calls c x := by
  rcases x with ⟨j, r'⟩
  by_cases hSame : j = i
  · subst hSame
    simp only [Entered, SharedThreads.Config.go, hCall,
      Function.update_self, Phase.HasAppended, and_true,
      Call.sendResult.injEq, Sent.mk.injEq, true_and]
    constructor
    · intro hEq
      exact .inl hEq.symm
    · rintro (hEq | ⟨hEq, -⟩)
      · exact hEq.symm
      · exact hEq
  · simp [Entered, SharedThreads.Config.go, hSame]

end ResultSink

end FraudStream

------------------------------------------------------------
-- No Result Is Lost Or Duplicated
------------------------------------------------------------

namespace FraudStream

namespace ResultSink

open Custody

variable {ι ρ : Type}
variable [DecidableEq ι] [DecidableEq ρ]
variable {config : SinkConfig}
variable {calls : ι → Call ρ}
variable {c : SharedThreads.Config ι (Sink ι ρ) (Phase ι ρ)}

/- What one step preserves. -/
theorem accounted_go
    {i : ι}
    {s : Sink ι ρ}
    {p : Phase ι ρ}
    (hImports : config.importable = true)
    (hRun : Reachable config calls c)
    (hStep : Step config calls i c.shared (c.point i) s p)
    (hAccounted : Accounted (contents c) (Entered calls c)) :
    Accounted (contents (c.go i s p))
      (Entered calls (c.go i s p)) := by
  have hEffect := effect_of_step hImports hStep
  cases hEffect with
  | elsewhere hBuffer hWritten hFlight hSame =>
      have hContents :
          contents (c.go i s p) = contents c :=
        contents_go_eq hBuffer.symm hFlight.symm
          (fun _ _ => rfl) (fun n => by rw [hWritten]; rfl)
      rw [entered_go hSame, hContents]
      exact hAccounted
  | enters r hCall hBefore hAfter hBuffer hWritten =>
      have hNew : ¬ Entered calls c ⟨i, r⟩ := by
        intro hEntered
        have hAppended := hEntered.2
        rw [hBefore] at hAppended
        exact hAppended
      rw [hAfter,
        contents_go_enters hBefore hBuffer hWritten]
      exact
        accounted_put .buffer hNew
          (entered_go_append hCall) hAccounted
  | taken batch hBefore hAfter hBuffer hWritten =>
      have hCopied := buffer_of_copied hRun hBefore
      rw [hAfter,
        contents_go_taken hBefore hCopied hBuffer hWritten,
        entered_go (by rw [hBefore]; exact Iff.rfl)]
      exact
        accounted_move (inFlight_ne_buffer i).symm hAccounted
  | committed batch hBefore hAfter hBuffer hWritten =>
      have hFlight : p.inFlight = [] := by
        rw [hAfter, inFlight_afterFlush]
      have hSame :
          p.HasAppended ↔ (c.point i).HasAppended := by
        rw [hBefore, hAfter]
        exact iff_of_false (not_hasAppended_afterFlush _) id
      rw [contents_go_committed hBefore hFlight hBuffer
          hWritten,
        entered_go hSame]
      exact
        accounted_move (written_ne_inFlight _ i).symm
          hAccounted
  | putBack batch hBefore hAfter hBuffer hWritten =>
      rw [hAfter,
        contents_go_putBack hBefore hBuffer hWritten,
        entered_go (by rw [hBefore]; exact Iff.rfl)]
      exact accounted_move (inFlight_ne_buffer i) hAccounted

/- What every interleaving preserves. -/
theorem accounted_of_reachable
    (hImports : config.importable = true)
    (hRun : Reachable config calls c) :
    Accounted (contents c) (Entered calls c) := by
  apply
    SharedThreads.reachable_induction
      (fun c => Accounted (contents c) (Entered calls c))
      hRun
  · have hEmpty :
        contents (newSink : SharedThreads.Config ι
            (Sink ι ρ) (Phase ι ρ)) =
          fun _ => [] := by
      funext place
      cases place <;> rfl
    rw [hEmpty]
    exact accounted_nil (fun _ hEntered => hEntered.2)
  · intro c i s p hRun hAccounted hStep
    exact accounted_go hImports hRun hStep hAccounted

/-
  A result whose `send_result` has finished is held once, by
  the buffer, by the batch of one flush or by one written
  batch, in every interleaving of the calls and whatever
  writes raise.
-/
theorem sent_results_are_held_once
    (config : SinkConfig)
    (calls : ι → Call ρ)
    {c : SharedThreads.Config ι (Sink ι ρ) (Phase ι ρ)}
    (hImports : config.importable = true)
    (hRun : Reachable config calls c)
    {i : ι}
    {r : ρ}
    (hCall : calls i = .sendResult r)
    (hSent : c.point i = .sent) :
    HeldOnce (contents c) ⟨i, r⟩ := by
  apply (accounted_of_reachable hImports hRun ⟨i, r⟩).1
  refine ⟨hCall, ?_⟩
  rw [hSent]
  trivial

/- One call sends a result, another one flushes. -/
def sampleCalls : Bool → Call String
| false => .sendResult "r"
| true => .flush

def sampleConfig : SinkConfig where
  icebergTable := some "default.replay_results"
  maxQueueSize := 10000
  importable := true

/- The write of the flush raises, and the batch is not yet
   back in the buffer. -/
theorem reachable_failed_flush :
    ∃ c,
      Reachable sampleConfig sampleCalls c ∧
        c.point false = .sent ∧
        c.point true =
          .flushing (.failed [⟨false, "r"⟩]) := by
  have hStart :
      Reachable sampleConfig sampleCalls newSink := .start
  have hQueued :=
    (hStart.act false _ _ (.beginSend rfl)).act false _ _
      (.enqueue rfl (by decide))
  have hSent :=
    ((hQueued.act false _ _ (.lockSend rfl)).act false _ _
      (.append rfl)).act false _ _ .unlockSend
  have hDrained :=
    ((hSent.act true _ _ (.beginFlush rfl)).act true _ _
      (.drain rfl)).act true _ _ (.drained rfl)
  have hTaken :=
    ((hDrained.act true _ _ (.lockFlush rfl rfl)).act true
      _ _ (.copy (List.cons_ne_nil _ _))).act true _ _ .clear
  have hFailed :=
    (hTaken.act true _ _ .unlockFlush).act true _ _
      .writeRaises
  exact ⟨_, hFailed, rfl, rfl⟩

theorem result_of_failed_flush_is_held_once :
    ∃ c,
      Reachable sampleConfig sampleCalls c ∧
        c.point false = .sent ∧
        HeldOnce (contents c) ⟨false, "r"⟩ := by
  rcases reachable_failed_flush with ⟨c, hRun, hSent, -⟩
  exact
    ⟨c, hRun, hSent,
      sent_results_are_held_once sampleConfig sampleCalls
        rfl hRun rfl hSent⟩

end ResultSink

end FraudStream
