import FraudStream.Library.PolledLog
import FraudStream.Replay.KafkaRange

/-
  The messages behind the events of a range.

  A replay of an offset range that is inside a log yields an
  event for each message at these offsets, in order, and each
  event is made of its message.

  Key definitions include:
    * `KafkaSourceConfig.slice`

  Main results:
    * `KafkaSourceAdapter.offsets_of_slice`
    * `KafkaSourceAdapter.iterEvents_of_slice`
    * `KafkaSourceAdapter.iterEvents_of_makes`
-/

------------------------------------------------------------
-- Events Of A Range
------------------------------------------------------------

namespace FraudStream

/- A log may start at offset zero. -/
theorem PartitionLog.zero_nonneg : (0 : Int) ≤ 0 :=
  le_refl 0

/- The part of a list that runs along a log, from the start
   of a range to its end. -/
def KafkaSourceConfig.slice
    (cfg : KafkaSourceConfig)
    (log : PartitionLog)
    {α : Type}
    (xs : List α) : List α :=
  (xs.drop (cfg.startOffset - log.lowOffset).toNat).take
    (cfg.endOffset - cfg.startOffset).toNat

namespace KafkaSourceAdapter

open PolledLog

variable
  {rt : ReplayRuntime}
  {cfg : KafkaSourceConfig}
  {log : PartitionLog}
  {deliveries : Nat → Delivery}

theorem message_of_emitted
    {b : Broker KafkaMessage}
    {endOffset : Int}
    {n : Nat}
    {c : Consumer}
    {current : Int}
    {e : KafkaEvent}
    (hMem :
      e ∈ emitted b (reader rt cfg endOffset) n c current) :
    ∃ m ∈ b.log, ∃ poll, eventOf? rt cfg poll m = some e := by
  rcases exists_body_of_mem_emitted hMem with
    ⟨c', s', s'', hBody⟩
  cases hAnswer : answer b c' with
  | nothing =>
      rw [hAnswer] at hBody
      cases hBody
  | failure =>
      rw [hAnswer] at hBody
      cases hBody
  | message position m =>
      rw [hAnswer] at hBody
      have hFound := (answer_message hAnswer).2.1
      refine
        ⟨m, List.mem_of_getElem? hFound, c'.polls, ?_⟩
      unfold reader at hBody
      dsimp only at hBody
      split at hBody
      · cases hBody
      · split at hBody
        · cases hBody
        · rename_i hEvent
          cases hBody
          exact hEvent

/- The offsets of the part of a log. -/
theorem offsets_of_slice
    (hInside : Inside cfg log) :
    (cfg.slice log log.messages).map (·.offset) =
      offsetsFrom cfg.startOffset
        (cfg.endOffset - cfg.startOffset).toNat := by
  rcases hInside with ⟨hLow, hOrder, hHigh⟩
  unfold PartitionLog.highOffset at hHigh
  apply List.ext_getElem?
  intro i
  unfold KafkaSourceConfig.slice offsetsFrom
  simp only [List.getElem?_map, List.getElem?_take,
    List.getElem?_drop]
  by_cases hBound :
      i < (cfg.endOffset - cfg.startOffset).toNat
  · have hLength :
        (cfg.startOffset - log.lowOffset).toNat + i <
          log.messages.length := by
      omega
    have hFound := List.getElem?_eq_getElem hLength
    have hOffset := log.contiguous _ _ hFound
    rw [if_pos hBound, hFound,
      List.getElem?_range hBound]
    simp only [Option.map_some, hOffset]
    congr 1
    push_cast
    omega
  · rw [if_neg hBound, List.getElem?_eq_none]
    · rfl
    · rw [List.length_range]
      exact Nat.le_of_not_lt hBound

/- Two messages of a log with one offset are the same. -/
theorem eq_of_offset
    {m m' : KafkaMessage}
    (hMem : m ∈ log.messages)
    (hMem' : m' ∈ log.messages)
    (hOffset : m.offset = m'.offset) :
    m = m' := by
  rcases List.mem_iff_getElem?.1 hMem with ⟨i, hFound⟩
  rcases List.mem_iff_getElem?.1 hMem' with ⟨j, hFound'⟩
  have hFirst := log.contiguous i m hFound
  have hSecond := log.contiguous j m' hFound'
  have hIndex : i = j := by omega
  rw [hIndex, hFound'] at hFound
  exact (Option.some.inj hFound).symm

/- Each event is made of the message at its place in the
   range. -/
theorem iterEvents_of_slice
    (hInside : Inside cfg log)
    (hDelivers : ∀ p, deliveries p = .next)
    (hReads :
      ∀ m ∈ log.messages, ∀ p, eventOf? rt cfg p m ≠ none)
    (highWatermark : Option Int)
    {polls : Nat}
    (hPolls :
      (cfg.endOffset - cfg.startOffset).toNat ≤ polls) :
    List.Forall₂
      (fun m e => ∃ poll, eventOf? rt cfg poll m = some e)
      (cfg.slice log log.messages)
      (iterEvents rt cfg log deliveries highWatermark
        polls) := by
  have hOffsets :=
    offsets_of_iterEvents hInside hDelivers hReads
      highWatermark polls
  have hEnd :
      resolvedEnd cfg highWatermark = cfg.endOffset := by
    have hNonneg := log.nonneg
    rcases hInside with ⟨hLow, hOrder, -⟩
    exact resolvedEnd_of_nonneg (by omega)
  have hCount :
      min polls (getEventCount cfg highWatermark).toNat =
        (cfg.endOffset - cfg.startOffset).toNat := by
    rw [getEventCount, hEnd]
    omega
  rw [hCount, ← offsets_of_slice hInside] at hOffsets
  have hSame :
      List.Forall₂
        (fun (m : KafkaMessage) (e : KafkaEvent) =>
          m.offset = e.offset)
        (cfg.slice log log.messages)
        (iterEvents rt cfg log deliveries highWatermark
          polls) := by
    rw [← List.forall₂_map_right_iff,
      ← List.forall₂_map_left_iff, List.forall₂_eq_eq_eq]
    exact hOffsets.symm
  have hMade :
      ∀ e ∈ iterEvents rt cfg log deliveries highWatermark
          polls,
        ∃ m ∈ log.messages, ∃ poll,
          eventOf? rt cfg poll m = some e := by
    intro e hMem
    exact message_of_emitted hMem
  have hHere :
      ∀ m ∈ cfg.slice log log.messages,
        m ∈ log.messages := by
    intro m hMem
    exact List.mem_of_mem_drop (List.mem_of_mem_take hMem)
  generalize cfg.slice log log.messages = ms at hSame hHere
  generalize
    iterEvents rt cfg log deliveries highWatermark polls = es
    at hSame hMade
  clear hOffsets
  induction hSame with
  | nil => exact .nil
  | @cons m e ms es hOffset _ ih =>
      rcases List.forall_mem_cons.1 hMade with
        ⟨⟨m', hMem', poll, hEvent⟩, hOthers⟩
      rcases List.forall_mem_cons.1 hHere with
        ⟨hMem, hRest⟩
      have hEq : m = m' := by
        apply eq_of_offset hMem hMem'
        rw [hOffset, offset_of_eventOf hEvent]
      refine .cons ⟨poll, ?_⟩ (ih hRest hOthers)
      rw [hEq]
      exact hEvent

end KafkaSourceAdapter

end FraudStream

------------------------------------------------------------
-- Messages Related To A List
------------------------------------------------------------

namespace FraudStream

namespace KafkaSourceAdapter

open PolledLog

variable
  {rt : ReplayRuntime}
  {cfg : KafkaSourceConfig}
  {log : PartitionLog}
  {deliveries : Nat → Delivery}
  {α : Type}
  {R : α → KafkaEvent → Prop}

/- Two lists that are related to one, through what it makes of
   the entries of the first. -/
theorem forall₂_of_made
    {ms : List KafkaMessage}
    {xs : List α}
    {es : List KafkaEvent}
    (hMakes :
      List.Forall₂
        (fun m x =>
          ∀ poll, ∃ e,
            eventOf? rt cfg poll m = some e ∧ R x e)
        ms xs)
    (hMade :
      List.Forall₂
        (fun m e => ∃ poll, eventOf? rt cfg poll m = some e)
        ms es) :
    List.Forall₂ R xs es := by
  induction hMakes generalizing es with
  | nil =>
      cases hMade
      exact .nil
  | @cons m x ms xs hHead _ ih =>
      rcases List.forall₂_cons_left_iff.1 hMade with
        ⟨e, es, ⟨poll, hEvent⟩, hRest, rfl⟩
      rcases hHead poll with ⟨e', hEvent', hRelated⟩
      have hSame : e' = e :=
        Option.some.inj (hEvent'.symm.trans hEvent)
      exact .cons (hSame ▸ hRelated) (ih hRest)

theorem reads_of_makes
    {ms : List KafkaMessage}
    {xs : List α}
    (hMakes :
      List.Forall₂
        (fun m x =>
          ∀ poll, ∃ e,
            eventOf? rt cfg poll m = some e ∧ R x e)
        ms xs) :
    ∀ m ∈ ms, ∀ p, eventOf? rt cfg p m ≠ none := by
  induction hMakes with
  | nil => exact List.forall_mem_nil _
  | cons hHead _ ih =>
      refine List.forall_mem_cons.2 ⟨?_, ih⟩
      intro poll
      rcases hHead poll with ⟨e, hEvent, -⟩
      rw [hEvent]
      exact nofun

/- Where the events of the messages of a log are related to a
   list, those of a range are to its part of the list. -/
theorem iterEvents_of_makes
    {xs : List α}
    (hMakes :
      List.Forall₂
        (fun m x =>
          ∀ poll, ∃ e,
            eventOf? rt cfg poll m = some e ∧ R x e)
        log.messages xs)
    (hInside : Inside cfg log)
    (hDelivers : ∀ p, deliveries p = .next)
    (highWatermark : Option Int)
    {polls : Nat}
    (hPolls :
      (cfg.endOffset - cfg.startOffset).toNat ≤ polls) :
    List.Forall₂ R (cfg.slice log xs)
      (iterEvents rt cfg log deliveries highWatermark
        polls) := by
  have hMade :=
    iterEvents_of_slice hInside hDelivers
      (reads_of_makes hMakes) highWatermark hPolls
  have hSlice :=
    List.forall₂_take
      (cfg.endOffset - cfg.startOffset).toNat
      (List.forall₂_drop
        (cfg.startOffset - log.lowOffset).toNat hMakes)
  exact forall₂_of_made hSlice hMade

theorem mem_of_mem_slice
    {xs : List α}
    {x : α}
    (hMem : x ∈ cfg.slice log xs) :
    x ∈ xs :=
  List.mem_of_mem_drop (List.mem_of_mem_take hMem)

end KafkaSourceAdapter

end FraudStream
