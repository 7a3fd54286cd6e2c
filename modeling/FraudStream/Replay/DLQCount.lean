import FraudStream.Replay.SourceAdapters

/-
  Counting the messages of a dead-letter topic before they
  are replayed.

  The count polls once for an assignment, and a message that
  this poll returns is never yielded.

  Key definitions include:
    * `DLQSourceAdapter.CountKeepsEvents`
    * `DLQSourceAdapter.FirstPollHarmless`

  The main result is:
    * `DLQSourceAdapter.count_keeps_events_iff`
-/

------------------------------------------------------------
-- The Two Histories
------------------------------------------------------------

namespace FraudStream

namespace DLQSourceAdapter

open PolledLog

variable (rt : ReplayRuntime)
variable (cfg : DLQSourceConfig)
variable (b : Broker KafkaMessage)
variable (watermarks : List (Option (Int × Int)))

/- What a fresh adapter yields. -/
def alone (polls : Nat) : List (Nat × DlqEvent) :=
  iterEvents rt cfg b none polls

/- What the adapter yields after it has counted. -/
def afterCount (polls : Nat) : List (Nat × DlqEvent) :=
  iterEvents rt cfg b
    (getEventCount cfg b watermarks none).2 polls

/- The two yield the same events, and a message that the
   first one yields is yielded by the second one. -/
def CountKeepsEvents : Prop :=
  SameSequence
      (fun n => (alone rt cfg b n).map Prod.snd)
      (fun n =>
        (afterCount rt cfg b watermarks n).map Prod.snd) ∧
    ∀ n position e, (position, e) ∈ alone rt cfg b n →
      ∃ n' e', (position, e') ∈
        afterCount rt cfg b watermarks n'

/- The poll of the count loses nothing: it returns an error or
   a filtered message; or it returns nothing, or a message
   that raises, and the polls after it are quiet. -/
def FirstPollHarmless (range : TimeRange) : Prop :=
  match answer b freshConsumer with
  | .failure => True
  | .nothing =>
      Quiet b (reader rt cfg range) 0 (poll b freshConsumer)
  | .message _ m =>
      match readMessage rt cfg range 0 m with
      | .filtered => True
      | .event _ => False
      | .raised =>
          Quiet b (reader rt cfg range) 0
            (poll b freshConsumer)

/- No event is asked for, a filter raises, or the first poll
   is harmless. -/
def CountHarmless : Prop :=
  cfg.maxMessages ≤ 0 ∨
    ∀ range, timeRange? rt cfg = some range →
      FirstPollHarmless rt cfg b range

end DLQSourceAdapter

end FraudStream

------------------------------------------------------------
-- Events And Positions
------------------------------------------------------------

namespace FraudStream

namespace DLQSourceAdapter

open PolledLog

variable {rt : ReplayRuntime}
variable {cfg : DLQSourceConfig}
variable {b : Broker KafkaMessage}
variable {watermarks : List (Option (Int × Int))}
variable {range : TimeRange}

/- What is yielded is at the position of the consumer or
   after it. -/
theorem position_of_emitted
    {n : Nat}
    {c : Consumer}
    {count : Nat}
    {x : Nat × DlqEvent}
    (hMem : x ∈ emitted b (reader rt cfg range) n c count) :
    c.position ≤ x.1 := by
  induction n generalizing c count with
  | zero => cases hMem
  | succ n ih =>
      have hNext := position_le_poll b c
      unfold emitted at hMem
      split at hMem
      · cases hAnswer : answer b c with
        | nothing => simp [reader, hAnswer] at hMem
        | failure =>
            simp only [reader, hAnswer] at hMem
            exact hNext.trans (ih hMem)
        | message position m =>
            have hPosition := (answer_message hAnswer).1
            simp only [reader, hAnswer] at hMem
            cases hRead : readMessage rt cfg range c.polls m with
            | raised => simp [hRead] at hMem
            | filtered =>
                simp only [hRead] at hMem
                exact hNext.trans (ih hMem)
            | event e =>
                simp only [hRead, List.mem_cons] at hMem
                rcases hMem with rfl | hLater
                · exact hPosition.ge
                · exact hNext.trans (ih hLater)
      · cases hMem

/- A skip of the reader leaves the count unchanged. -/
theorem count_of_skip
    (p : Nat)
    (a : Answer KafkaMessage)
    (count count' : Nat)
    (hSkip :
      (reader rt cfg range).body p count a = .skip count') :
    count' = count := by
  cases a with
  | nothing => cases hSkip
  | failure =>
      cases hSkip
      rfl
  | message position m =>
      simp only [reader] at hSkip
      cases hRead : readMessage rt cfg range p m with
      | raised => simp [hRead] at hSkip
      | event e => simp [hRead] at hSkip
      | filtered =>
          rw [hRead] at hSkip
          cases hSkip
          rfl

end DLQSourceAdapter

end FraudStream

------------------------------------------------------------
-- The First Poll
------------------------------------------------------------

namespace FraudStream

namespace DLQSourceAdapter

open PolledLog
open ReplayRuntime (emptyObjects)

variable {rt : ReplayRuntime}
variable {cfg : DLQSourceConfig}
variable {b : Broker KafkaMessage}
variable {watermarks : List (Option (Int × Int))}
variable {range : TimeRange}

theorem goesOn_of_asks
    (hAsks : 0 < cfg.maxMessages) :
    (reader rt cfg range).goesOn 0 = true := by
  simpa [reader] using hAsks

theorem alone_eq
    (hRange : timeRange? rt cfg = some range)
    (n : Nat) :
    alone rt cfg b n =
      emitted b (reader rt cfg range) n freshConsumer 0 := by
  simp only [alone, iterEvents, hRange, Option.getD_none]

theorem afterCount_eq
    (hRange : timeRange? rt cfg = some range)
    (n : Nat) :
    afterCount rt cfg b watermarks n =
      emitted b (reader rt cfg range) n
        (poll b freshConsumer) 0 := by
  simp only [afterCount, iterEvents, hRange, getEventCount,
    countDlqMessages, Option.getD_none, Option.getD_some]

/- Nothing is yielded, and nothing is lost. -/
theorem keeps_of_silent
    (hAlone : ∀ n, alone rt cfg b n = [])
    (hAfter : ∀ n, afterCount rt cfg b watermarks n = []) :
    CountKeepsEvents rt cfg b watermarks := by
  constructor
  · intro es
    simp only [hAlone, hAfter]
  · intro n position e hMem
    rw [hAlone] at hMem
    cases hMem

/- The loop would have skipped the answer as well. -/
theorem keeps_of_skip
    (hRange : timeRange? rt cfg = some range)
    (hAsks : 0 < cfg.maxMessages)
    (hSkip :
      (reader rt cfg range).body 0 0 (answer b freshConsumer) =
        .skip 0) :
    CountKeepsEvents rt cfg b watermarks := by
  have hGoesOn : (reader rt cfg range).goesOn 0 = true :=
    goesOn_of_asks hAsks
  have hSame :
      SameSequence (alone rt cfg b)
        (afterCount rt cfg b watermarks) := by
    rw [funext (alone_eq (b := b) hRange),
      funext (afterCount_eq hRange)]
    exact sameSequence_of_skip hGoesOn hSkip
  constructor
  · exact hSame.map Prod.snd
  · intro n position e hMem
    rcases (hSame (alone rt cfg b n)).1 ⟨n, rfl⟩ with
      ⟨n', hEq⟩
    exact ⟨n', e, by rw [hEq]; exact hMem⟩

/- A fresh adapter yields nothing. -/
theorem keeps_iff_of_stop
    (hRange : timeRange? rt cfg = some range)
    (hAsks : 0 < cfg.maxMessages)
    (hStop :
      (reader rt cfg range).body 0 0 (answer b freshConsumer) =
        .stop) :
    CountKeepsEvents rt cfg b watermarks ↔
      Quiet b (reader rt cfg range) 0
        (poll b freshConsumer) := by
  have hGoesOn : (reader rt cfg range).goesOn 0 = true :=
    goesOn_of_asks hAsks
  have hAlone : ∀ n, alone rt cfg b n = [] := by
    intro n
    rw [alone_eq hRange]
    exact emitted_of_stop (.inr hStop) n
  have hSkips :
      ∀ p a count,
        (reader rt cfg range).body p 0 a = .skip count →
          count = 0 :=
    fun p a count hSkip => count_of_skip p a 0 count hSkip
  rw [← silent_iff_quiet hGoesOn hSkips]
  constructor
  · rintro ⟨hSame, -⟩ n
    rcases
        (hSame ((afterCount rt cfg b watermarks n).map
          Prod.snd)).2 ⟨n, rfl⟩
      with ⟨n', hEq⟩
    have hEmpty :
        (afterCount rt cfg b watermarks n).map Prod.snd = [] := by
      simpa only [hAlone, List.map_nil] using hEq.symm
    rw [← afterCount_eq hRange]
    exact List.map_eq_nil_iff.1 hEmpty
  · intro hSilent
    have hAfter : ∀ n, afterCount rt cfg b watermarks n = [] := by
      intro n
      rw [afterCount_eq hRange]
      exact hSilent n
    exact keeps_of_silent hAlone hAfter

/- The event of the first message is lost. -/
theorem not_keeps_of_emit
    {e : DlqEvent}
    {position : Nat}
    (hRange : timeRange? rt cfg = some range)
    (hAsks : 0 < cfg.maxMessages)
    (hEmit :
      (reader rt cfg range).body 0 0 (answer b freshConsumer) =
        .emit 1 (position, e))
    (hPosition : (poll b freshConsumer).position = position + 1) :
    ¬CountKeepsEvents rt cfg b watermarks := by
  rintro ⟨-, hYielded⟩
  have hFirst :
      (position, e) ∈ alone rt cfg b 1 := by
    have hBody :
        (reader rt cfg range).body freshConsumer.polls 0
            (answer b freshConsumer) =
          .emit 1 (position, e) := hEmit
    rw [alone_eq hRange, emitted,
      if_pos (goesOn_of_asks hAsks), hBody]
    exact List.mem_cons_self
  rcases hYielded 1 position e hFirst with ⟨n, e', hMem⟩
  rw [afterCount_eq hRange] at hMem
  have hLe := position_of_emitted hMem
  omega

/- Where a first event is asked for, the first poll
   decides. -/
theorem keeps_iff_firstPollHarmless
    (hRange : timeRange? rt cfg = some range)
    (hAsks : 0 < cfg.maxMessages) :
    CountKeepsEvents rt cfg b watermarks ↔
      FirstPollHarmless rt cfg b range := by
  cases hAnswer : answer b freshConsumer with
  | failure =>
      have hSkip :
          (reader rt cfg range).body 0 0
              (answer b freshConsumer) =
            .skip 0 := by
        rw [hAnswer]
        rfl
      simp only [FirstPollHarmless, hAnswer, iff_true]
      exact keeps_of_skip hRange hAsks hSkip
  | nothing =>
      have hStop :
          (reader rt cfg range).body 0 0
              (answer b freshConsumer) =
            .stop := by
        rw [hAnswer]
        rfl
      simp only [FirstPollHarmless, hAnswer]
      exact keeps_iff_of_stop hRange hAsks hStop
  | message position m =>
      cases hRead : readMessage rt cfg range 0 m with
      | filtered =>
          have hSkip :
              (reader rt cfg range).body 0 0
                  (answer b freshConsumer) =
                .skip 0 := by
            simp only [hAnswer, reader, hRead]
          simp only [FirstPollHarmless, hAnswer, hRead,
            iff_true]
          exact keeps_of_skip hRange hAsks hSkip
      | raised =>
          have hStop :
              (reader rt cfg range).body 0 0
                  (answer b freshConsumer) =
                .stop := by
            simp only [hAnswer, reader, hRead]
          simp only [FirstPollHarmless, hAnswer, hRead]
          exact keeps_iff_of_stop hRange hAsks hStop
      | event e =>
          have hEmit :
              (reader rt cfg range).body 0 0
                  (answer b freshConsumer) =
                .emit 1 (position, e) := by
            simp only [hAnswer, reader, hRead]
          rcases answer_message hAnswer with
            ⟨hPosition, -, hPoll⟩
          have hNext :
              (poll b freshConsumer).position =
                position + 1 := by
            rw [hPoll, hPosition]
          simp only [FirstPollHarmless, hAnswer, hRead,
            iff_false]
          exact not_keeps_of_emit hRange hAsks hEmit hNext

/- Counting keeps the events just when it is harmless. -/
theorem count_keeps_events_iff
    (rt : ReplayRuntime)
    (cfg : DLQSourceConfig)
    (b : Broker KafkaMessage)
    (watermarks : List (Option (Int × Int))) :
    CountKeepsEvents rt cfg b watermarks ↔
      CountHarmless rt cfg b := by
  cases hRange : timeRange? rt cfg with
  | none =>
      have hSilent :
          ∀ consumer n, iterEvents rt cfg b consumer n = [] := by
        intro consumer n
        simp only [iterEvents, hRange]
      have hHarmless : CountHarmless rt cfg b := by
        right
        intro range hSome
        rw [hRange] at hSome
        cases hSome
      simp only [hHarmless, iff_true]
      exact keeps_of_silent (hSilent _) (hSilent _)
  | some range =>
      by_cases hAsks : 0 < cfg.maxMessages
      · rw [keeps_iff_firstPollHarmless hRange hAsks]
        constructor
        · intro hFirst
          right
          intro range' hSome
          rw [hRange] at hSome
          cases hSome
          exact hFirst
        · rintro (hNone | hFirst)
          · omega
          · exact hFirst range hRange
      · have hEnds :
            (reader rt cfg range).goesOn 0 = false := by
          simpa [reader] using hAsks
        have hHarmless : CountHarmless rt cfg b := by
          left
          omega
        simp only [hHarmless, iff_true]
        apply keeps_of_silent
        · intro n
          rw [alone_eq hRange]
          exact emitted_of_stop (.inl hEnds) n
        · intro n
          rw [afterCount_eq hRange]
          exact emitted_of_stop (.inl hEnds) n

/- A dead-letter topic with one message, which the broker
   delivers at once. -/
def oneMessage : Broker KafkaMessage where
  log :=
    [{ partition := 0
       offset := 0
       key := none
       value := some [0x7b, 0x7d] }]
  deliveries := fun _ => .next

def dlqConfig : DLQSourceConfig where
  sourceTopic := "txn.api"
  dlqTopic := "txn.api.dlq"
  startTime := none
  endTime := none
  maxMessages := 1000

/- The message is yielded, unless it is counted. -/
theorem counted_message_is_lost :
    (alone emptyObjects dlqConfig oneMessage 2).map
        (fun x => (x.1, x.2.offset)) = [(0, 0)] ∧
      (∀ n, afterCount emptyObjects dlqConfig oneMessage
        [some (0, 1)] n = []) ∧
      ¬CountKeepsEvents emptyObjects dlqConfig oneMessage
        [some (0, 1)] := by
  have hAlone :
      (alone emptyObjects dlqConfig oneMessage 2).map
        (fun x => (x.1, x.2.offset)) = [(0, 0)] := rfl
  have hRange :
      timeRange? emptyObjects dlqConfig =
        some { startTime := none, endTime := none } := rfl
  have hAfter :
      ∀ n, afterCount emptyObjects dlqConfig oneMessage
        [some (0, 1)] n = [] := by
    intro n
    rw [afterCount_eq hRange]
    exact emitted_of_stop (.inr rfl) n
  refine ⟨hAlone, hAfter, ?_⟩
  rintro ⟨-, hYielded⟩
  cases hList :
      alone emptyObjects dlqConfig oneMessage 2 with
  | nil => simp [hList] at hAlone
  | cons x xs =>
      have hMem :
          (x.1, x.2) ∈
            alone emptyObjects dlqConfig oneMessage 2 := by
        simp [hList]
      rcases hYielded 2 x.1 x.2 hMem with ⟨n, e, hLost⟩
      rw [hAfter] at hLost
      cases hLost

end DLQSourceAdapter

end FraudStream
