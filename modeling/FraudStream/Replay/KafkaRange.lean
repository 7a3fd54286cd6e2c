import FraudStream.Replay.SourceAdapters

/-
  The offsets that a Kafka replay yields.

  The configuration documents the end of the range as
  inclusive, and the adapter stops before it.

  Key definitions include:
    * `KafkaSourceAdapter.CoversRange`

  The main results are:
    * `KafkaSourceAdapter.not_coversRange`
    * `KafkaSourceAdapter.offsets_of_iterEvents`
-/

------------------------------------------------------------
-- The Documented Range
------------------------------------------------------------

namespace FraudStream

namespace KafkaSourceAdapter

open PolledLog

variable (rt : ReplayRuntime)
variable (cfg : KafkaSourceConfig)
variable (log : PartitionLog)
variable (deliveries : Nat → Delivery)
variable (highWatermark : Option Int)

/- So many offsets from a first one on. -/
def offsetsFrom
    (first : Int)
    (count : Nat) : List Int :=
  (List.range count).map (fun k : Nat => first + (k : Int))

/- Both ends of the range are offsets of the log. -/
def Inside : Prop :=
  log.lowOffset ≤ cfg.startOffset ∧
    cfg.startOffset ≤ cfg.endOffset ∧
    cfg.endOffset < log.highOffset

/- The adapter yields the messages of the inclusive range in
   their order, and counts them. -/
def CoversRange : Prop :=
  ∃ polls,
    (iterEvents rt cfg log deliveries highWatermark polls).map
        (·.offset) =
      offsetsFrom cfg.startOffset
        (cfg.endOffset - cfg.startOffset + 1).toNat ∧
    getEventCount cfg highWatermark =
      (iterEvents rt cfg log deliveries highWatermark
        polls).length

end KafkaSourceAdapter

end FraudStream

------------------------------------------------------------
-- What Is Yielded
------------------------------------------------------------

namespace FraudStream

namespace KafkaSourceAdapter

open PolledLog
open ReplayRuntime (emptyObjects)

variable {rt : ReplayRuntime}
variable {cfg : KafkaSourceConfig}
variable {log : PartitionLog}
variable {deliveries : Nat → Delivery}

theorem offset_of_eventOf
    {poll : Nat}
    {m : KafkaMessage}
    {e : KafkaEvent}
    (hEvent : eventOf? rt cfg poll m = some e) :
    e.offset = m.offset := by
  unfold eventOf? at hEvent
  split at hEvent
  · cases hEvent
    rfl
  · cases hEvent
    rfl
  · cases hEvent

/- Each event is before the end. -/
theorem offset_of_emitted
    {b : Broker KafkaMessage}
    {endOffset : Int}
    {n : Nat}
    {c : Consumer}
    {current : Int}
    {e : KafkaEvent}
    (hMem :
      e ∈ emitted b (reader rt cfg endOffset) n c current) :
    e.offset < endOffset := by
  induction n generalizing c current with
  | zero => cases hMem
  | succ n ih =>
      unfold emitted at hMem
      split at hMem
      · cases hAnswer : answer b c with
        | nothing => simp [reader, hAnswer] at hMem
        | failure => simp [reader, hAnswer] at hMem
        | message position m =>
            by_cases hEnd : endOffset ≤ m.offset
            · simp [reader, hAnswer, hEnd] at hMem
            · cases hEvent : eventOf? rt cfg c.polls m with
              | none =>
                  simp [reader, hAnswer, hEnd, hEvent] at hMem
              | some e' =>
                  simp only [reader, hAnswer, hEnd, hEvent,
                    if_false, List.mem_cons] at hMem
                  rcases hMem with rfl | hLater
                  · rw [offset_of_eventOf hEvent]
                    omega
                  · exact ih hLater
      · cases hMem

theorem mem_offsetsFrom_iff
    {first o : Int}
    {count : Nat} :
    o ∈ offsetsFrom first count ↔
      first ≤ o ∧ o < first + count := by
  simp only [offsetsFrom, List.mem_map, List.mem_range]
  constructor
  · rintro ⟨k, hk, rfl⟩
    omega
  · rintro ⟨hFirst, hLast⟩
    exact ⟨(o - first).toNat, by omega, by omega⟩

theorem resolvedEnd_of_nonneg
    {highWatermark : Option Int}
    (hEnd : 0 ≤ cfg.endOffset) :
    resolvedEnd cfg highWatermark = cfg.endOffset := by
  rw [resolvedEnd, if_neg (by omega)]

/- The message of the last offset is never yielded. -/
theorem not_coversRange
    (rt : ReplayRuntime)
    (cfg : KafkaSourceConfig)
    (log : PartitionLog)
    (deliveries : Nat → Delivery)
    (highWatermark : Option Int)
    (hInside : Inside cfg log) :
    ¬CoversRange rt cfg log deliveries highWatermark := by
  rcases hInside with ⟨hLow, hOrder, hHigh⟩
  have hNonneg := log.nonneg
  rintro ⟨polls, hOffsets, -⟩
  have hLast :
      cfg.endOffset ∈
        (iterEvents rt cfg log deliveries highWatermark
          polls).map (·.offset) := by
    rw [hOffsets, mem_offsetsFrom_iff]
    omega
  rcases List.mem_map.1 hLast with ⟨e, hMem, hEq⟩
  have hBefore := offset_of_emitted hMem
  rw [resolvedEnd_of_nonneg (by omega)] at hBefore
  omega

def messageAt (offset : Int) : KafkaMessage where
  partition := 0
  offset := offset
  key := none
  value := some [0x7b, 0x7d]

/- A partition with the offsets 0 and 1. -/
def twoMessages : PartitionLog where
  messages := [messageAt 0, messageAt 1]
  lowOffset := 0
  nonneg := le_refl 0
  contiguous := by
    intro i m hFound
    match i with
    | 0 => cases hFound; rfl
    | 1 => cases hFound; rfl
    | i + 2 => cases hFound

def wholeRange : KafkaSourceConfig where
  topic := "txn.api"
  startOffset := 0
  endOffset := 1
  partition := 0

theorem whole_range_is_not_covered :
    Inside wholeRange twoMessages ∧
      ¬CoversRange emptyObjects wholeRange twoMessages
        (fun _ => .next) none := by
  have hInside : Inside wholeRange twoMessages := by
    refine ⟨?_, ?_, ?_⟩ <;> decide
  exact ⟨hInside, not_coversRange _ _ _ _ _ hInside⟩

/- Both offsets are asked for, and one is yielded. -/
theorem last_message_is_skipped :
    (iterEvents emptyObjects wholeRange twoMessages
        (fun _ => .next) none 3).map (·.offset) = [0] ∧
      offsetsFrom 0 2 = [0, 1] ∧
      ¬CoversRange emptyObjects wholeRange twoMessages
        (fun _ => .next) none := by
  refine ⟨rfl, rfl, ?_⟩
  rintro ⟨polls, hOffsets, -⟩
  have hLast :
      1 ∈
        (iterEvents emptyObjects wholeRange twoMessages
          (fun _ => .next) none polls).map (·.offset) := by
    rw [hOffsets]
    decide
  rcases List.mem_map.1 hLast with ⟨e, hMem, hEq⟩
  have hBefore : e.offset < 1 := offset_of_emitted hMem
  omega

/- A first offset, and the offsets after it. -/
theorem offsetsFrom_succ
    (first : Int)
    (count : Nat) :
    offsetsFrom first (count + 1) =
      first :: offsetsFrom (first + 1) count := by
  simp only [offsetsFrom, List.range_succ_eq_map,
    List.map_cons, List.map_map, Nat.cast_zero, add_zero,
    List.cons.injEq, true_and]
  apply List.map_congr_left
  intro k hMem
  simp only [Function.comp_apply, Nat.cast_succ]
  omega

/- At the end of the range the reader stops. -/
theorem stop_of_end
    {endOffset : Int}
    {c : Consumer}
    {current : Int}
    (hEnd : endOffset ≤ log.lowOffset + c.position) :
    (reader rt cfg endOffset).body c.polls current
        (answer
          { log := log.messages, deliveries := deliveries } c) =
      .stop := by
  cases hAnswer :
      answer
        { log := log.messages, deliveries := deliveries } c with
  | nothing => rfl
  | failure => rfl
  | message position m =>
      have hFound : log.messages[c.position]? = some m :=
        (answer_message hAnswer).2.1
      have hOffset := log.contiguous _ _ hFound
      rw [← hOffset] at hEnd
      simp only [reader, hEnd, if_true]

/- A reader that is at an offset yields the offsets from it to
   the end, one a poll. -/
theorem offsets_of_emitted
    {endOffset : Int}
    (hDelivers : ∀ p, deliveries p = .next)
    (hReads :
      ∀ m ∈ log.messages, ∀ p, eventOf? rt cfg p m ≠ none)
    (hHigh : endOffset ≤ log.highOffset)
    (n : Nat)
    (c : Consumer)
    (current : Int)
    (hCurrent : current ≤ log.lowOffset + c.position) :
    (emitted
        { log := log.messages, deliveries := deliveries }
        (reader rt cfg endOffset) n c current).map
        (·.offset) =
      offsetsFrom (log.lowOffset + c.position)
        (min n
          (endOffset - (log.lowOffset + c.position)).toNat) := by
  induction n generalizing c current with
  | zero => simp [emitted, offsetsFrom]
  | succ n ih =>
      by_cases hEnd :
          endOffset ≤ log.lowOffset + c.position
      · have hNone :
            (endOffset -
              (log.lowOffset + c.position)).toNat = 0 := by
          omega
        rw [emitted_of_stop (.inr (stop_of_end hEnd)), hNone,
          Nat.min_zero]
        rfl
      · have hLength : c.position < log.messages.length := by
          simp only [PartitionLog.highOffset] at hHigh
          omega
        have hFound := List.getElem?_eq_getElem hLength
        have hOffset := log.contiguous _ _ hFound
        have hMem := List.getElem_mem hLength
        generalize log.messages[c.position] = m at hFound hOffset hMem
        have hAnswer :
            answer
                { log := log.messages
                  deliveries := deliveries } c =
              .message c.position m := by
          simp only [answer, hDelivers, hFound]
        cases hEvent : eventOf? rt cfg c.polls m with
        | none => exact absurd hEvent (hReads m hMem c.polls)
        | some e =>
            have hGoesOn :
                (reader rt cfg endOffset).goesOn current =
                  true := by
              simp only [reader, decide_eq_true_eq]
              omega
            have hBody :
                (reader rt cfg endOffset).body c.polls current
                    (.message c.position m) =
                  .emit m.offset e := by
              simp only [reader, hEvent]
              rw [if_neg (by omega)]
            have hRest :=
              ih
                { polls := c.polls + 1
                  position := c.position + 1 }
                m.offset (by push_cast; omega)
            have hCount :
                min (n + 1)
                    (endOffset -
                      (log.lowOffset + c.position)).toNat =
                  min n
                      (endOffset -
                        (log.lowOffset +
                          ((c.position + 1 : Nat) : Int))).toNat +
                    1 := by
              omega
            rw [emitted, if_pos hGoesOn, hAnswer, hBody,
              (answer_message hAnswer).2.2, hCount,
              offsetsFrom_succ, List.map_cons, hRest,
              offset_of_eventOf hEvent, hOffset]
            push_cast
            rw [add_assoc]

/- Where the broker delivers and each value is read, the
   adapter yields the range without its end, as many events as
   it counts. -/
theorem offsets_of_iterEvents
    (hInside : Inside cfg log)
    (hDelivers : ∀ p, deliveries p = .next)
    (hReads :
      ∀ m ∈ log.messages, ∀ p, eventOf? rt cfg p m ≠ none)
    (highWatermark : Option Int)
    (polls : Nat) :
    (iterEvents rt cfg log deliveries highWatermark polls).map
        (·.offset) =
      offsetsFrom cfg.startOffset
        (min polls (getEventCount cfg highWatermark).toNat) := by
  rcases hInside with ⟨hLow, hOrder, hHigh⟩
  have hNonneg := log.nonneg
  have hEnd :
      resolvedEnd cfg highWatermark = cfg.endOffset :=
    resolvedEnd_of_nonneg (by omega)
  have hStart :
      log.lowOffset + ((assigned cfg log).position : Int) =
        cfg.startOffset := by
    simp only [assigned]
    omega
  have hBound : cfg.endOffset ≤ log.highOffset := by omega
  have hOffsets :=
    offsets_of_emitted hDelivers hReads hBound polls
      (assigned cfg log) cfg.startOffset (by omega)
  rw [iterEvents, hEnd, hOffsets, hStart, getEventCount, hEnd]
  congr 2
  omega

end KafkaSourceAdapter

end FraudStream
