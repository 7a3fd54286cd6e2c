import FraudStream.Replay.ResultSink
import Mathlib.Data.List.Rotate

/-
  One caller that sends its results and closes the sink.

  Nothing takes results off the queue before the sink is
  closed. Once the queue is full, a send hands its result to
  Kafka ahead of those that are queued, and the buffer keeps
  every result when there is no table to write it to.

  Key definitions include:
    * `ResultSink.OneCaller`
    * `ResultSink.produced`
    * `ResultSink.InOrderAndBounded`

  Main results:
    * `ResultSink.callerInv_of_run`
    * `ResultSink.exists_closed`
    * `ResultSink.inOrderAndBounded_iff`
-/

------------------------------------------------------------
-- Runs Of One Caller
------------------------------------------------------------

namespace FraudStream

namespace ResultSink

variable {ρ : Type}

/- The calls of the caller, by their positions, and the flush
   thread. -/
def callerCalls (results : List ρ) : Option ℕ → Call ρ
| none => .flushLoop
| some k =>
    match results[k]? with
    | some r => .sendResult r
    | none => .close

/- The sink, the calls of the caller and the flush thread. -/
abbrev SinkRun (ρ : Type) : Type :=
  SharedThreads.Config (Option ℕ) (Sink (Option ℕ) ρ)
    (Phase (Option ℕ) ρ)

/- The caller makes call `k` once the call before it has
   returned; the flush thread may step at any time. -/
inductive OneCaller
    (config : SinkConfig)
    (results : List ρ) : ℕ → SinkRun ρ → Prop where
| start : OneCaller config results 0 newSink
| caller
    {k : ℕ}
    {c : SinkRun ρ}
    {s : Sink (Option ℕ) ρ}
    {p : Phase (Option ℕ) ρ} :
    OneCaller config results k c →
    Step config (callerCalls results) (some k) c.shared
      (c.point (some k)) s p →
    OneCaller config results k (c.go (some k) s p)
| background
    {k : ℕ}
    {c : SinkRun ρ}
    {s : Sink (Option ℕ) ρ}
    {p : Phase (Option ℕ) ρ} :
    OneCaller config results k c →
    Step config (callerCalls results) none c.shared
      (c.point none) s p →
    OneCaller config results k (c.go none s p)
| next
    {k : ℕ}
    {c : SinkRun ρ} :
    OneCaller config results k c →
    c.point (some k) = .sent →
    OneCaller config results (k + 1) c

/- The calls of `produce`: a result that cannot be serialised
   is logged instead. -/
def produced
    (serializes : ρ → Bool)
    (c : SinkRun ρ) : List ρ :=
  c.shared.handed.filter serializes

/- Once the sink is closed, every result was produced once
   and in order; and without a table the queue and the buffer
   never hold more than the queue may. -/
structure InOrderAndBounded
    (config : SinkConfig)
    (serializes : ρ → Bool)
    (results : List ρ) : Prop where
  ordered :
    ∀ c, OneCaller config results results.length c →
      c.point (some results.length) = .returned →
        produced serializes c = results
  bounded :
    config.icebergTable = none →
      ∀ k c, OneCaller config results k c →
        ((c.shared.queue.length + c.shared.buffer.length :
            ℕ) : Int) ≤
          config.maxQueueSize

end ResultSink

end FraudStream

------------------------------------------------------------
-- What The Steps Of Each Call Do
------------------------------------------------------------

namespace FraudStream

namespace ResultSink

variable {ι ρ : Type}
variable {config : SinkConfig}
variable {calls : ι → Call ρ}
variable {i : ι}
variable {s s' : Sink ι ρ}
variable {p p' : Phase ι ρ}

/- The phases of a send, of a close and of the flush
   thread. -/
def Phase.OfSend : Phase ι ρ → Prop
| .pending | .enqueueing | .locking => True
| .appending | .appended | .sent => True
| _ => False

def Phase.OfClose : Phase ι ρ → Prop
| .pending | .draining | .flushing _ | .returned => True
| _ => False

def Phase.OfLoop : Phase ι ρ → Prop
| .pending | .waiting | .flushing _ | .returned => True
| _ => False

/- The result was put on the queue, or handed on. -/
def Phase.putCount : Phase ι ρ → ℕ
| .locking | .appending | .appended | .sent => 1
| _ => 0

/- The result is in the buffer. -/
def Phase.appendCount : Phase ι ρ → ℕ
| .appended | .sent => 1
| _ => 0

/- A close has begun to empty the queue, or has done so. -/
def Phase.Closing : Phase ι ρ → Prop
| .draining | .flushing _ | .returned => True
| _ => False

def Phase.Drained : Phase ι ρ → Prop
| .flushing _ | .returned => True
| _ => False

/- A flush leaves the queue alone, and goes on to another of
   its phases or to what follows it. -/
theorem flush_of_step
    {x : FlushPhase ι ρ}
    (hStep : Step config calls i s (.flushing x) s' p') :
    (s'.queue = s.queue ∧ s'.handed = s.handed) ∧
      (p' = afterFlush (calls i) ∨
        ∃ y, p' = .flushing y) := by
  cases hStep with
  | noTable | nothingToFlush | write | writeSkipped =>
      exact ⟨⟨rfl, rfl⟩, .inl rfl⟩
  | unlockRestore => exact ⟨⟨rfl, rfl⟩, .inl rfl⟩
  | _ => exact ⟨⟨rfl, rfl⟩, .inr ⟨_, rfl⟩⟩

/- A send puts its result on the queue or, when it is full,
   hands it on; its other steps leave both lists. -/
theorem send_of_step
    {r : ρ}
    (hCall : calls i = .sendResult r)
    (hPhase : p.OfSend)
    (hStep : Step config calls i s p s' p') :
    p'.OfSend ∧
      ((p'.putCount = p.putCount ∧
          s'.queue = s.queue ∧ s'.handed = s.handed) ∨
        (p.putCount = 0 ∧ p'.putCount = 1 ∧
          ((¬ config.QueueFull s.queue.length ∧
              s'.queue = s.queue ++ [r] ∧
              s'.handed = s.handed) ∨
            (config.QueueFull s.queue.length ∧
              s'.queue = s.queue ∧
              s'.handed = s.handed ++ [r])))) := by
  cases hStep with
  | beginSend hSend => exact ⟨trivial, .inl ⟨rfl, rfl, rfl⟩⟩
  | enqueue hSend hRoom =>
      rw [hCall] at hSend
      cases hSend
      exact ⟨trivial, .inr
        ⟨rfl, rfl, .inl ⟨hRoom, rfl, rfl⟩⟩⟩
  | sendDirectly hSend hFull =>
      rw [hCall] at hSend
      cases hSend
      exact ⟨trivial, .inr
        ⟨rfl, rfl, .inr ⟨hFull, rfl, rfl⟩⟩⟩
  | lockSend hFree => exact ⟨trivial, .inl ⟨rfl, rfl, rfl⟩⟩
  | append hSend => exact ⟨trivial, .inl ⟨rfl, rfl, rfl⟩⟩
  | unlockSend => exact ⟨trivial, .inl ⟨rfl, rfl, rfl⟩⟩
  | test hOther | endLoop hOther
  | beginFlush hOther | beginClose hOther =>
      rw [hCall] at hOther
      cases hOther
  | _ => cases hPhase

/- A close takes the results off the queue in order, and goes
   on once the queue is empty. -/
theorem close_of_step
    (hCall : calls i = .close)
    (hPhase : p.OfClose)
    (hEmpty : p.Drained → s.queue = [])
    (hStep : Step config calls i s p s' p') :
    p'.OfClose ∧ p'.Closing ∧
      s'.handed ++ s'.queue = s.handed ++ s.queue ∧
      (p'.Drained → s'.queue = []) := by
  cases p with
  | flushing x =>
      have hFlush := flush_of_step hStep
      rw [hFlush.1.1, hFlush.1.2]
      rcases hFlush.2 with hAfter | ⟨y, rfl⟩
      · rw [hAfter, hCall]
        exact ⟨trivial, trivial, rfl, fun _ => hEmpty trivial⟩
      · exact ⟨trivial, trivial, rfl, fun _ => hEmpty trivial⟩
  | pending =>
      cases hStep with
      | beginClose hClose =>
          exact ⟨trivial, trivial, rfl, False.elim⟩
      | beginSend hOther | test hOther
      | endLoop hOther | beginFlush hOther =>
          rw [hCall] at hOther
          cases hOther
  | draining =>
      cases hStep with
      | drain hQueue =>
          refine ⟨trivial, trivial, ?_, False.elim⟩
          rw [hQueue, List.append_assoc]
          rfl
      | drained hQueue =>
          exact ⟨trivial, trivial, rfl, fun _ => hQueue⟩
      | producerRaises hQueue =>
          exact ⟨trivial, trivial, rfl, fun _ => hQueue⟩
  | returned => cases hStep
  | _ => cases hPhase

/- The flush thread leaves the queue alone. -/
theorem loop_of_step
    (hCall : calls i = .flushLoop)
    (hPhase : p.OfLoop)
    (hStep : Step config calls i s p s' p') :
    p'.OfLoop ∧
      s'.queue = s.queue ∧ s'.handed = s.handed := by
  cases p with
  | flushing x =>
      have hFlush := flush_of_step hStep
      rcases hFlush.2 with hAfter | ⟨y, rfl⟩
      · rw [hAfter, hCall]
        exact ⟨trivial, hFlush.1⟩
      · exact ⟨trivial, hFlush.1⟩
  | pending =>
      cases hStep with
      | test hLoop | endLoop hLoop =>
          exact ⟨trivial, rfl, rfl⟩
      | beginSend hOther | beginFlush hOther
      | beginClose hOther =>
          rw [hCall] at hOther
          cases hOther
  | waiting =>
      cases hStep
      exact ⟨trivial, rfl, rfl⟩
  | returned => cases hStep
  | _ => cases hPhase

/- Without a table no flush gets to the buffer, and only an
   append changes it. -/
theorem append_of_step
    (hTable : config.icebergTable = none)
    (hPhase : ∀ x, p = .flushing x → x = .locking)
    (hStep : Step config calls i s p s' p') :
    (∀ x, p' = .flushing x → x = .locking) ∧
      s'.buffer.length + p.appendCount =
        s.buffer.length + p'.appendCount := by
  have hAfter :
      ∀ x, (afterFlush (calls i) : Phase ι ρ) = .flushing x →
        x = .locking :=
    fun x hEq => absurd hEq (afterFlush_ne_flushing _ x)
  have hCount :
      (afterFlush (calls i) : Phase ι ρ).appendCount = 0 := by
    cases calls i <;> rfl
  cases hStep with
  | noTable hNone => exact ⟨hAfter, by rw [hCount]; rfl⟩
  | lockFlush hSome hFree =>
      rw [hTable] at hSome
      cases hSome
  | append hCall =>
      refine ⟨nofun, ?_⟩
      simp [Phase.appendCount]
  | wake =>
      refine ⟨?_, rfl⟩
      intro x hEq
      cases hEq
      rfl
  | drained hQueue =>
      refine ⟨?_, rfl⟩
      intro x hEq
      cases hEq
      rfl
  | nothingToFlush => cases hPhase _ rfl
  | copy => cases hPhase _ rfl
  | clear => cases hPhase _ rfl
  | unlockFlush => cases hPhase _ rfl
  | write => cases hPhase _ rfl
  | writeRaises => cases hPhase _ rfl
  | writeSkipped => cases hPhase _ rfl
  | lockRestore => cases hPhase _ rfl
  | restore => cases hPhase _ rfl
  | unlockRestore => cases hPhase _ rfl
  | _ => exact ⟨nofun, rfl⟩

end ResultSink

end FraudStream

------------------------------------------------------------
-- The Queue Of One Caller
------------------------------------------------------------

namespace FraudStream

namespace ResultSink

variable {ρ : Type}
variable {config : SinkConfig}
variable {results : List ρ}
variable {k : ℕ}
variable {c : SinkRun ρ}

theorem callerCalls_of_lt
    (hLess : k < results.length) :
    callerCalls results (some k) =
      .sendResult results[k] := by
  simp [callerCalls, hLess]

theorem callerCalls_close :
    callerCalls results (some results.length) = .close := by
  simp [callerCalls]

theorem queueFull_iff
    (hMax : 1 ≤ config.maxQueueSize)
    (queued : ℕ) :
    config.QueueFull queued ↔
      config.maxQueueSize.toNat ≤ queued := by
  unfold SinkConfig.QueueFull
  omega

/- A list that is cut at `m` takes a new item in its first
   part while that is shorter, and in its second part
   afterwards. -/
theorem take_concat_of_lt
    {l : List ρ}
    {m : ℕ}
    (hLess : l.length < m)
    (r : ρ) :
    (l ++ [r]).take m = l.take m ++ [r] ∧
      (l ++ [r]).drop m = l.drop m := by
  have hLength : (l ++ [r]).length ≤ m := by
    rw [List.length_append, List.length_singleton]
    omega
  rw [List.take_of_length_le hLength,
    List.drop_of_length_le hLength,
    List.take_of_length_le (Nat.le_of_lt hLess),
    List.drop_of_length_le (Nat.le_of_lt hLess)]
  exact ⟨rfl, rfl⟩

theorem take_concat_of_le
    {l : List ρ}
    {m : ℕ}
    (hLe : m ≤ l.length)
    (r : ρ) :
    (l ++ [r]).take m = l.take m ∧
      (l ++ [r]).drop m = l.drop m ++ [r] :=
  ⟨List.take_append_of_le_length hLe,
    List.drop_append_of_le_length hLe⟩

/- The first results are on the queue until it is closed, and
   the others are handed to Kafka. -/
structure CallerInv
    (config : SinkConfig)
    (results : List ρ)
    (k : ℕ)
    (c : SinkRun ρ) : Prop where
  inRange : k ≤ results.length
  later : ∀ j, k < j → c.point (some j) = .pending
  loop : (c.point none).OfLoop
  sending : k < results.length → (c.point (some k)).OfSend
  closing : k = results.length → (c.point (some k)).OfClose
  queued :
    ¬ (c.point (some k)).Closing →
      c.shared.queue =
          (results.take
            (k + (c.point (some k)).putCount)).take
            config.maxQueueSize.toNat ∧
        c.shared.handed =
          (results.take
            (k + (c.point (some k)).putCount)).drop
            config.maxQueueSize.toNat
  emptied :
    (c.point (some k)).Closing →
      c.shared.handed ++ c.shared.queue =
        results.drop config.maxQueueSize.toNat ++
          results.take config.maxQueueSize.toNat
  drained :
    (c.point (some k)).Drained → c.shared.queue = []

theorem not_closing_of_ofSend
    {p : Phase (Option ℕ) ρ}
    (hSend : p.OfSend) :
    ¬ p.Closing := by
  cases p <;> first | exact id | cases hSend

theorem not_drained_of_ofSend
    {p : Phase (Option ℕ) ρ}
    (hSend : p.OfSend) :
    ¬ p.Drained := by
  cases p <;> first | exact id | cases hSend

theorem callerInv_start :
    CallerInv config results 0 newSink where
  inRange := Nat.zero_le _
  later := fun _ _ => rfl
  loop := trivial
  sending := fun _ => trivial
  closing := fun _ => trivial
  queued := by
    intro _
    simp [newSink, emptySink, Phase.putCount]
  emptied := False.elim
  drained := False.elim

/- A step of the caller leaves the calls after it alone. -/
theorem CallerInv.later_go
    (hInv : CallerInv config results k c)
    (s : Sink (Option ℕ) ρ)
    (p : Phase (Option ℕ) ρ) :
    ∀ j, k < j →
      (c.go (some k) s p).point (some j) = .pending := by
  intro j hLater
  have hOther : some j ≠ some k := by
    simpa using Nat.ne_of_gt hLater
  rw [c.point_go_of_ne hOther]
  exact hInv.later j hLater

/- Results that are cut at the size of the queue stay so when
   the next one is put or, if the queue is full, handed on. -/
theorem cut_of_put
    (hMax : 1 ≤ config.maxQueueSize)
    (hLess : k < results.length)
    {s s' : Sink (Option ℕ) ρ}
    (hQueue :
      s.queue =
        (results.take k).take config.maxQueueSize.toNat)
    (hHanded :
      s.handed =
        (results.take k).drop config.maxQueueSize.toNat)
    (hPut :
      (¬ config.QueueFull s.queue.length ∧
          s'.queue = s.queue ++ [results[k]] ∧
          s'.handed = s.handed) ∨
        (config.QueueFull s.queue.length ∧
          s'.queue = s.queue ∧
          s'.handed = s.handed ++ [results[k]])) :
    s'.queue =
        (results.take (k + 1)).take
          config.maxQueueSize.toNat ∧
      s'.handed =
        (results.take (k + 1)).drop
          config.maxQueueSize.toNat := by
  have hTake :
      results.take (k + 1) =
        results.take k ++ [results[k]] :=
    List.take_succ_eq_append_getElem hLess
  have hLength : (results.take k).length = k := by
    rw [List.length_take]
    omega
  rw [queueFull_iff hMax, hQueue, List.length_take,
    hLength] at hPut
  rw [hTake]
  rcases hPut with
    ⟨hRoom, hNewQueue, hNewHanded⟩ |
      ⟨hFull, hNewQueue, hNewHanded⟩
  · have hShort :
        (results.take k).length <
          config.maxQueueSize.toNat := by
      omega
    rcases take_concat_of_lt hShort results[k] with
      ⟨hFirst, hSecond⟩
    rw [hFirst, hSecond, hNewQueue, hNewHanded, hHanded]
    exact ⟨rfl, rfl⟩
  · have hLong :
        config.maxQueueSize.toNat ≤
          (results.take k).length := by
      omega
    rcases take_concat_of_le hLong results[k] with
      ⟨hFirst, hSecond⟩
    rw [hFirst, hSecond, hNewQueue, hNewHanded, hHanded]
    exact ⟨rfl, rfl⟩

/- A step of a send keeps the results cut at the size of the
   queue. -/
theorem callerInv_send
    (hMax : 1 ≤ config.maxQueueSize)
    (hInv : CallerInv config results k c)
    (hLess : k < results.length)
    {s : Sink (Option ℕ) ρ}
    {p : Phase (Option ℕ) ρ}
    (hStep :
      Step config (callerCalls results) (some k) c.shared
        (c.point (some k)) s p) :
    CallerInv config results k (c.go (some k) s p) := by
  have hPhase := hInv.sending hLess
  rcases send_of_step (callerCalls_of_lt hLess) hPhase
      hStep with
    ⟨hSend, hLists⟩
  rcases hInv.queued (not_closing_of_ofSend hPhase) with
    ⟨hQueue, hHanded⟩
  refine
    ⟨hInv.inRange, hInv.later_go s p, hInv.loop,
      ?_, ?_, ?_, ?_, ?_⟩
  · intro _
    rw [c.point_go_self]
    exact hSend
  · intro hClose
    omega
  · intro _
    rw [c.point_go_self, c.shared_go]
    rcases hLists with
      ⟨hCount, hSameQueue, hSameHanded⟩ |
        ⟨hBefore, hAfter, hPut⟩
    · rw [hCount, hSameQueue, hSameHanded]
      exact ⟨hQueue, hHanded⟩
    · rw [hBefore, Nat.add_zero] at hQueue hHanded
      rw [hAfter]
      exact cut_of_put hMax hLess hQueue hHanded hPut
  · intro hClosing
    rw [c.point_go_self] at hClosing
    exact absurd hClosing (not_closing_of_ofSend hSend)
  · intro hDrained
    rw [c.point_go_self] at hDrained
    exact absurd hDrained (not_drained_of_ofSend hSend)

/- A step of the close keeps the results that were handed on,
   followed by those on the queue. -/
theorem callerInv_close
    (hInv : CallerInv config results results.length c)
    {s : Sink (Option ℕ) ρ}
    {p : Phase (Option ℕ) ρ}
    (hStep :
      Step config (callerCalls results) (some results.length)
        c.shared (c.point (some results.length)) s p) :
    CallerInv config results results.length
      (c.go (some results.length) s p) := by
  have hPhase := hInv.closing rfl
  rcases close_of_step callerCalls_close hPhase hInv.drained
      hStep with
    ⟨hClose, hClosing, hLists, hDrained⟩
  have hBefore :
      c.shared.handed ++ c.shared.queue =
        results.drop config.maxQueueSize.toNat ++
          results.take config.maxQueueSize.toNat := by
    by_cases hBegun :
        (c.point (some results.length)).Closing
    · exact hInv.emptied hBegun
    · rcases hInv.queued hBegun with ⟨hQueue, hHanded⟩
      rw [hQueue, hHanded,
        List.take_of_length_le (Nat.le_add_right _ _)]
  refine
    ⟨hInv.inRange, hInv.later_go s p, hInv.loop,
      ?_, ?_, ?_, ?_, ?_⟩
  · intro hLess
    omega
  · intro _
    rw [c.point_go_self]
    exact hClose
  · intro hOpen
    rw [c.point_go_self] at hOpen
    exact absurd hClosing hOpen
  · intro _
    exact hLists.trans hBefore
  · rw [c.point_go_self]
    exact hDrained

theorem callerInv_loop
    (hInv : CallerInv config results k c)
    {s : Sink (Option ℕ) ρ}
    {p : Phase (Option ℕ) ρ}
    (hStep :
      Step config (callerCalls results) none c.shared
        (c.point none) s p) :
    CallerInv config results k (c.go none s p) := by
  rcases loop_of_step rfl hInv.loop hStep with
    ⟨hLoop, hQueue, hHanded⟩
  have hCaller :
      ∀ j, (c.go none s p).point (some j) =
        c.point (some j) :=
    fun j => c.point_go_of_ne (by simp) s p
  constructor
  · exact hInv.inRange
  · intro j hLater
    rw [hCaller]
    exact hInv.later j hLater
  · rw [c.point_go_self]
    exact hLoop
  · rw [hCaller]
    exact hInv.sending
  · rw [hCaller]
    exact hInv.closing
  · rw [hCaller]
    change _ → s.queue = _ ∧ s.handed = _
    rw [hQueue, hHanded]
    exact hInv.queued
  · rw [hCaller]
    change _ → s.handed ++ s.queue = _
    rw [hQueue, hHanded]
    exact hInv.emptied
  · rw [hCaller]
    change _ → s.queue = _
    rw [hQueue]
    exact hInv.drained

/- The next call begins with the lists of the one before. -/
theorem callerInv_next
    (hInv : CallerInv config results k c)
    (hSent : c.point (some k) = .sent) :
    CallerInv config results (k + 1) c := by
  have hLess : k < results.length := by
    apply Nat.lt_of_le_of_ne hInv.inRange
    intro hEq
    have hClose := hInv.closing hEq
    rw [hSent] at hClose
    exact hClose
  have hPending :
      c.point (some (k + 1)) = .pending :=
    hInv.later (k + 1) (Nat.lt_succ_self k)
  have hQueued := hInv.queued
  rw [hSent] at hQueued
  constructor
  · exact hLess
  · intro j hLater
    exact hInv.later j (Nat.lt_of_succ_lt hLater)
  · exact hInv.loop
  · intro _
    rw [hPending]
    trivial
  · intro _
    rw [hPending]
    trivial
  · intro _
    rw [hPending]
    exact hQueued id
  · rw [hPending]
    exact False.elim
  · rw [hPending]
    exact False.elim

theorem callerInv_of_run
    (hMax : 1 ≤ config.maxQueueSize)
    (hRun : OneCaller config results k c) :
    CallerInv config results k c := by
  induction hRun with
  | start => exact callerInv_start
  | caller hRun hStep ih =>
      rcases Nat.lt_or_eq_of_le ih.inRange with
        hLess | rfl
      · exact callerInv_send hMax ih hLess hStep
      · exact callerInv_close ih hStep
  | background hRun hStep ih =>
      exact callerInv_loop ih hStep
  | next hRun hSent ih => exact callerInv_next ih hSent

end ResultSink

end FraudStream

------------------------------------------------------------
-- The Buffer Without A Table
------------------------------------------------------------

namespace FraudStream

namespace ResultSink

variable {ρ : Type}
variable {config : SinkConfig}
variable {results : List ρ}
variable {k : ℕ}
variable {c : SinkRun ρ}

/- No flush gets past its test of the table, and the buffer
   has the results of all sends so far. -/
structure BufferInv (k : ℕ) (c : SinkRun ρ) : Prop where
  flushing :
    ∀ i x, c.point i = .flushing x → x = .locking
  length :
    c.shared.buffer.length =
      k + (c.point (some k)).appendCount

theorem appendCount_of_ofLoop
    {p : Phase (Option ℕ) ρ}
    (hLoop : p.OfLoop) :
    p.appendCount = 0 := by
  cases p <;> first | rfl | cases hLoop

theorem bufferInv_of_run
    (hMax : 1 ≤ config.maxQueueSize)
    (hTable : config.icebergTable = none)
    (hRun : OneCaller config results k c) :
    BufferInv k c := by
  induction hRun with
  | start => exact ⟨nofun, rfl⟩
  | @caller k c s p hRun hStep ih =>
      rcases append_of_step hTable (ih.flushing (some k))
          hStep with
        ⟨hFlushing, hLength⟩
      constructor
      · intro i x hPoint
        by_cases hSame : i = some k
        · subst hSame
          rw [c.point_go_self] at hPoint
          exact hFlushing x hPoint
        · rw [c.point_go_of_ne hSame] at hPoint
          exact ih.flushing i x hPoint
      · have hBefore := ih.length
        rw [c.point_go_self, c.shared_go]
        omega
  | @background k c s p hRun hStep ih =>
      rcases append_of_step hTable (ih.flushing none)
          hStep with
        ⟨hFlushing, hLength⟩
      have hLoop := (callerInv_of_run hMax hRun).loop
      have hLoop' :=
        (callerInv_of_run hMax
          (OneCaller.background hRun hStep)).loop
      rw [c.point_go_self] at hLoop'
      rw [appendCount_of_ofLoop hLoop,
        appendCount_of_ofLoop hLoop'] at hLength
      constructor
      · intro i x hPoint
        by_cases hSame : i = none
        · subst hSame
          rw [c.point_go_self] at hPoint
          exact hFlushing x hPoint
        · rw [c.point_go_of_ne hSame] at hPoint
          exact ih.flushing i x hPoint
      · rw [c.point_go_of_ne (by simp), c.shared_go]
        exact hLength.trans ih.length
  | @next k c hRun hSent ih =>
      refine ⟨ih.flushing, ?_⟩
      have hPending :=
        (callerInv_of_run hMax hRun).later (k + 1)
          (Nat.lt_succ_self k)
      have hLength := ih.length
      rw [hSent] at hLength
      rw [hPending]
      exact hLength

end ResultSink

end FraudStream

------------------------------------------------------------
-- Runs That End
------------------------------------------------------------

namespace FraudStream

namespace ResultSink

variable {ρ : Type}
variable {config : SinkConfig}
variable {results : List ρ}
variable {k : ℕ}
variable {c : SinkRun ρ}

/- The caller steps on while the flush thread rests. -/
theorem OneCaller.step
    (hRun : OneCaller config results k c)
    {p p' : Phase (Option ℕ) ρ}
    {s : Sink (Option ℕ) ρ}
    (hPoint : c.point (some k) = p)
    (hStep :
      Step config (callerCalls results) (some k) c.shared
        p s p') :
    ∃ c', OneCaller config results k c' ∧
      c'.shared = s ∧ c'.point (some k) = p' := by
  rw [← hPoint] at hStep
  exact ⟨_, hRun.caller hStep, rfl, c.point_go_self _ _ _⟩

/- A send that finds the lock free returns. -/
theorem exists_sent
    (hRun : OneCaller config results k c)
    (hLess : k < results.length)
    (hPoint : c.point (some k) = .pending)
    (hFree : c.shared.holder = none) :
    ∃ c', OneCaller config results k c' ∧
      c'.point (some k) = .sent ∧
      c'.shared.holder = none := by
  have hCall := callerCalls_of_lt hLess
  rcases hRun.step hPoint (.beginSend hCall) with
    ⟨c₁, hRun₁, hShared₁, hPoint₁⟩
  have hPut :
      ∃ c₂, OneCaller config results k c₂ ∧
        c₂.point (some k) = .locking ∧
        c₂.shared.holder = none := by
    by_cases hFull :
        config.QueueFull c₁.shared.queue.length
    · rcases hRun₁.step hPoint₁
          (.sendDirectly hCall hFull) with
        ⟨c₂, hRun₂, hShared₂, hPoint₂⟩
      refine ⟨c₂, hRun₂, hPoint₂, ?_⟩
      rw [hShared₂, hShared₁]
      exact hFree
    · rcases hRun₁.step hPoint₁ (.enqueue hCall hFull) with
        ⟨c₂, hRun₂, hShared₂, hPoint₂⟩
      refine ⟨c₂, hRun₂, hPoint₂, ?_⟩
      rw [hShared₂, hShared₁]
      exact hFree
  rcases hPut with ⟨c₂, hRun₂, hPoint₂, hFree₂⟩
  rcases hRun₂.step hPoint₂ (.lockSend hFree₂) with
    ⟨c₃, hRun₃, hShared₃, hPoint₃⟩
  rcases hRun₃.step hPoint₃ (.append hCall) with
    ⟨c₄, hRun₄, hShared₄, hPoint₄⟩
  rcases hRun₄.step hPoint₄ .unlockSend with
    ⟨c₅, hRun₅, hShared₅, hPoint₅⟩
  refine ⟨c₅, hRun₅, hPoint₅, ?_⟩
  rw [hShared₅]

/- Every call begins in some run. -/
theorem exists_pending
    (hMax : 1 ≤ config.maxQueueSize)
    (hLe : k ≤ results.length) :
    ∃ c, OneCaller config results k c ∧
      c.point (some k) = .pending ∧
      c.shared.holder = none := by
  induction k with
  | zero => exact ⟨newSink, .start, rfl, rfl⟩
  | succ k ih =>
      rcases ih (Nat.le_of_succ_le hLe) with
        ⟨c, hRun, hPoint, hFree⟩
      rcases exists_sent hRun hLe hPoint hFree with
        ⟨c', hRun', hSent, hFree'⟩
      refine ⟨c', hRun'.next hSent, ?_, hFree'⟩
      exact (callerInv_of_run hMax hRun').later (k + 1)
        (Nat.lt_succ_self k)

/- By induction on the queue: a close empties it. -/
theorem exists_drained
    (queue : List ρ)
    (hRun : OneCaller config results k c)
    (hPoint : c.point (some k) = .draining)
    (hFree : c.shared.holder = none)
    (hQueue : c.shared.queue = queue) :
    ∃ c', OneCaller config results k c' ∧
      c'.point (some k) = .flushing .locking ∧
      c'.shared.holder = none := by
  induction queue generalizing c with
  | nil =>
      rcases hRun.step hPoint (.drained hQueue) with
        ⟨c', hRun', hShared', hPoint'⟩
      refine ⟨c', hRun', hPoint', ?_⟩
      rw [hShared', hFree]
  | cons r rest ih =>
      rcases hRun.step hPoint (.drain hQueue) with
        ⟨c', hRun', hShared', hPoint'⟩
      apply ih hRun' hPoint'
      · rw [hShared']
        exact hFree
      · rw [hShared']

/- A close that finds the lock free returns. -/
theorem exists_closed
    (hMax : 1 ≤ config.maxQueueSize)
    (results : List ρ) :
    ∃ c, OneCaller config results results.length c ∧
      c.point (some results.length) = .returned := by
  have hAfter :
      (afterFlush (callerCalls results
        (some results.length)) :
          Phase (Option ℕ) ρ) = .returned := by
    rw [callerCalls_close]
    rfl
  rcases exists_pending hMax (le_refl results.length) with
    ⟨c, hRun, hPoint, hFree⟩
  rcases hRun.step hPoint (.beginClose callerCalls_close) with
    ⟨c₁, hRun₁, hShared₁, hPoint₁⟩
  have hFree₁ : c₁.shared.holder = none := by
    rw [hShared₁]
    exact hFree
  rcases exists_drained _ hRun₁ hPoint₁ hFree₁ rfl with
    ⟨c₂, hRun₂, hPoint₂, hFree₂⟩
  cases hTable : config.icebergTable with
  | none =>
      rcases hRun₂.step hPoint₂ (.noTable hTable) with
        ⟨c₃, hRun₃, _, hPoint₃⟩
      exact ⟨c₃, hRun₃, hPoint₃.trans hAfter⟩
  | some table =>
      have hSome : config.icebergTable.isSome = true := by
        rw [hTable]
        rfl
      rcases hRun₂.step hPoint₂
          (.lockFlush hSome hFree₂) with
        ⟨c₃, hRun₃, _, hPoint₃⟩
      by_cases hBuffer : c₃.shared.buffer = []
      · rcases hRun₃.step hPoint₃
            (.nothingToFlush hBuffer) with
          ⟨c₄, hRun₄, _, hPoint₄⟩
        exact ⟨c₄, hRun₄, hPoint₄.trans hAfter⟩
      · rcases hRun₃.step hPoint₃ (.copy hBuffer) with
          ⟨c₄, hRun₄, _, hPoint₄⟩
        rcases hRun₄.step hPoint₄ .clear with
          ⟨c₅, hRun₅, _, hPoint₅⟩
        rcases hRun₅.step hPoint₅ .unlockFlush with
          ⟨c₆, hRun₆, _, hPoint₆⟩
        rcases hRun₆.step hPoint₆ .write with
          ⟨c₇, hRun₇, _, hPoint₇⟩
        exact ⟨c₇, hRun₇, hPoint₇.trans hAfter⟩

end ResultSink

end FraudStream

------------------------------------------------------------
-- Order And Memory
------------------------------------------------------------

namespace FraudStream

namespace ResultSink

variable {ρ : Type}
variable {config : SinkConfig}
variable {results : List ρ}
variable {k : ℕ}
variable {c : SinkRun ρ}

/- The results that found the queue full were handed on
   before those that were queued. -/
theorem handed_of_returned
    (hMax : 1 ≤ config.maxQueueSize)
    (hRun : OneCaller config results results.length c)
    (hReturned : c.point (some results.length) = .returned) :
    c.shared.handed =
      results.drop config.maxQueueSize.toNat ++
        results.take config.maxQueueSize.toNat := by
  have hInv := callerInv_of_run hMax hRun
  have hDrained := hInv.drained (by rw [hReturned]; trivial)
  have hLists := hInv.emptied (by rw [hReturned]; trivial)
  rwa [hDrained, List.append_nil] at hLists

/- Results that went through the cut come out the same when
   there is no second part, or when moving the first part
   to the end changes nothing. -/
theorem filter_cut_eq_iff
    (serializes : ρ → Bool)
    (results : List ρ)
    (m : ℕ) :
    (results.drop m ++ results.take m).filter serializes =
        results ↔
      (∀ r ∈ results, serializes r = true) ∧
        (results.length ≤ m ∨ results.rotate m = results) := by
  have hRotate :
      m ≤ results.length →
        results.rotate m =
          results.drop m ++ results.take m :=
    List.rotate_eq_drop_append_take
  have hKept :
      (results.drop m ++ results.take m).filter serializes =
          results →
        ∀ r ∈ results, serializes r = true := by
    intro hSame r hMem
    rw [← hSame] at hMem
    exact (List.mem_filter.1 hMem).2
  have hAll :
      (∀ r ∈ results, serializes r = true) →
        (results.drop m ++ results.take m).filter serializes =
          results.drop m ++ results.take m := by
    intro hSerializes
    apply List.filter_eq_self.2
    intro r hMem
    apply hSerializes
    rcases List.mem_append.1 hMem with hDrop | hTake
    · exact List.mem_of_mem_drop hDrop
    · exact List.mem_of_mem_take hTake
  constructor
  · intro hSame
    have hSerializes := hKept hSame
    refine ⟨hSerializes, ?_⟩
    by_cases hFits : results.length ≤ m
    · exact .inl hFits
    · right
      rw [hRotate (Nat.le_of_not_le hFits),
        ← hAll hSerializes]
      exact hSame
  · rintro ⟨hSerializes, hFits | hTurned⟩
    · rw [hAll hSerializes, List.drop_of_length_le hFits,
        List.take_of_length_le hFits, List.nil_append]
    · rw [hAll hSerializes]
      rcases Nat.le_total results.length m with hFits | hMore
      · rw [List.drop_of_length_le hFits,
          List.take_of_length_le hFits, List.nil_append]
      · rw [← hRotate hMore]
        exact hTurned

/- Without a table the sink holds the results of all sends,
   and those on the queue a second time. -/
theorem held_of_run
    (hMax : 1 ≤ config.maxQueueSize)
    (hTable : config.icebergTable = none)
    (hRun : OneCaller config results k c) :
    c.shared.queue.length ≤ results.length ∧
      c.shared.buffer.length ≤ results.length := by
  have hInv := callerInv_of_run hMax hRun
  have hBuffer := (bufferInv_of_run hMax hTable hRun).length
  constructor
  · by_cases hClosing : (c.point (some k)).Closing
    · have hLength :=
        congrArg List.length (hInv.emptied hClosing)
      simp only [List.length_append, List.length_drop,
        List.length_take] at hLength
      omega
    · rw [(hInv.queued hClosing).1]
      simp only [List.length_take]
      omega
  · rw [hBuffer]
    rcases Nat.lt_or_eq_of_le hInv.inRange with hLess | hEq
    · have hCount : (c.point (some k)).appendCount ≤ 1 := by
        cases c.point (some k) <;> simp [Phase.appendCount]
      omega
    · have hClose := hInv.closing hEq
      have hCount : (c.point (some k)).appendCount = 0 := by
        cases hPoint : c.point (some k) with
        | appended => rw [hPoint] at hClose; cases hClose
        | sent => rw [hPoint] at hClose; cases hClose
        | _ => rfl
      omega

/- Results arrive once and in order exactly when they can be
   serialised and fit on the queue, and without a table they
   must fit twice for the memory to stay bounded. -/
theorem inOrderAndBounded_iff
    (config : SinkConfig)
    (hMax : 1 ≤ config.maxQueueSize)
    (serializes : ρ → Bool)
    (results : List ρ) :
    InOrderAndBounded config serializes results ↔
      (∀ r ∈ results, serializes r = true) ∧
        ((results.length : Int) ≤ config.maxQueueSize ∨
          results.rotate config.maxQueueSize.toNat =
            results) ∧
        (config.icebergTable = none →
          2 * (results.length : Int) ≤
            config.maxQueueSize) := by
  have hFits :
      (results.length : Int) ≤ config.maxQueueSize ↔
        results.length ≤ config.maxQueueSize.toNat := by
    omega
  rw [hFits, ← and_assoc, ← filter_cut_eq_iff]
  constructor
  · intro hHolds
    constructor
    · rcases exists_closed hMax results with
        ⟨c, hRun, hReturned⟩
      have hOrdered := hHolds.ordered c hRun hReturned
      rwa [produced, handed_of_returned hMax hRun hReturned]
        at hOrdered
    · intro hTable
      rcases exists_pending hMax (le_refl results.length) with
        ⟨c, hRun, hPending, _⟩
      have hBounded := hHolds.bounded hTable _ c hRun
      have hQueue :=
        ((callerInv_of_run hMax hRun).queued
          (by rw [hPending]; exact id)).1
      have hBuffer :=
        (bufferInv_of_run hMax hTable hRun).length
      rw [hPending] at hQueue hBuffer
      rw [hQueue, hBuffer] at hBounded
      simp only [Phase.putCount, Phase.appendCount,
        List.length_take] at hBounded
      omega
  · rintro ⟨hOrdered, hTwice⟩
    constructor
    · intro c hRun hReturned
      rw [produced, handed_of_returned hMax hRun hReturned]
      exact hOrdered
    · intro hTable k c hRun
      have hTwo := hTwice hTable
      rcases held_of_run hMax hTable hRun with
        ⟨hQueue, hBuffer⟩
      omega

/- A queue of one and a table. -/
def tinySink : SinkConfig where
  icebergTable := some "default.replay_results"
  maxQueueSize := 1
  importable := true

/- One result arrives, whatever it is. -/
theorem one_result_arrives :
    1 ≤ tinySink.maxQueueSize ∧
      InOrderAndBounded tinySink (fun _ => true) [7] := by
  have hMax : 1 ≤ tinySink.maxQueueSize := by decide
  refine ⟨hMax,
    (inOrderAndBounded_iff tinySink hMax _ [7]).2 ?_⟩
  exact ⟨fun _ _ => rfl, .inl (by decide), nofun⟩

/- A second result overtakes the first. -/
theorem second_result_overtakes :
    ¬ InOrderAndBounded tinySink (fun _ => true) [7, 8] := by
  intro hHolds
  have hMax : 1 ≤ tinySink.maxQueueSize := by decide
  rcases exists_closed hMax [7, 8] with
    ⟨c, hRun, hReturned⟩
  have hOrdered := hHolds.ordered c hRun hReturned
  rw [produced, handed_of_returned hMax hRun hReturned]
    at hOrdered
  exact absurd hOrdered (by decide)

end ResultSink

end FraudStream
