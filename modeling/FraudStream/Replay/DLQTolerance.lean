import FraudStream.Replay.SourceAdapters

/-
  Replaying whatever a dead-letter topic holds.

  A message value that is missing, JSON but no object, or
  that the parser gives up on ends the iteration with an
  exception. So does a time filter that is no time. A start
  is tested before an end that the time of a message cannot
  be compared with.

  Key definitions include:
    * `DLQSourceAdapter.iterate`
    * `DLQSourceAdapter.isAccepted`
    * `DLQSourceAdapter.ToleratesMessages`
    * `DLQSourceAdapter.IsTolerated`

  Main results:
    * `DLQSourceAdapter.iterEvents_eq_iterate`
    * `DLQSourceAdapter.tolerates_messages_iff`
-/

------------------------------------------------------------
-- A Finite Topic
------------------------------------------------------------

namespace FraudStream

namespace DLQSourceAdapter

variable (rt : ReplayRuntime)
variable (cfg : DLQSourceConfig)

/- What is yielded, each event with the position of its
   message, and whether an exception ends the iteration. -/
structure Iteration where
  events : List (Nat × DlqEvent)
  raised : Bool

/- The loop of `iter_events`, from a position on. -/
def iterateFrom
    (range : TimeRange) :
    Nat → Nat → List KafkaMessage → Iteration
| _, _, [] => { events := [], raised := false }
| position, count, m :: ms =>
    if (count : Int) < cfg.maxMessages then
      match readMessage rt cfg range position m with
      | .raised => { events := [], raised := true }
      | .filtered => iterateFrom range (position + 1) count ms
      | .event e =>
          let rest :=
            iterateFrom range (position + 1) (count + 1) ms
          { rest with events := (position, e) :: rest.events }
    else
      { events := [], raised := false }

/- `iter_events` on a topic whose messages are polled one
   after the other. -/
def iterate (ms : List KafkaMessage) : Iteration :=
  match timeRange? rt cfg with
  | none => { events := [], raised := true }
  | some range => iterateFrom rt cfg range 0 0 ms

end DLQSourceAdapter

end FraudStream

------------------------------------------------------------
-- Messages To Be Replayed
------------------------------------------------------------

namespace FraudStream

namespace DLQSourceAdapter

variable (rt : ReplayRuntime)
variable (cfg : DLQSourceConfig)
variable (range : TimeRange)

/- No topic is declared, an empty one, or that of the
   configuration. -/
def isTopicAccepted (value : JsonObject) : Bool :=
  let topic :=
    (Dict.get? value "source_topic").getD
      ((Dict.get? value "original_topic").getD (.str ""))
  match topic with
  | .str text => text = "" || text = cfg.sourceTopic
  | topic => !topic.truthy

/- The time of a message, unless it is absent or cannot be
   parsed. -/
def time? (value : JsonObject) : Option DateTime :=
  let time :=
    (Dict.get? value "timestamp").getD
      ((Dict.get? value "error_time").getD .null)
  if time.truthy then
    rt.fromisoformat
      ((time.text rt.table).replace "Z" "+00:00")
  else
    none

/- The bound can be compared with the time. -/
def isComparable
    (t : DateTime)
    (bound : Option DateTime) : Bool :=
  bound.all (fun b => t.hasZone = b.hasZone)

/- The time is in the range, both ends included. -/
def isInside (t : DateTime) : Bool :=
  range.startTime.all (fun s => s.micros ≤ t.micros) &&
    range.endTime.all (fun e => t.micros ≤ e.micros)

/- A time that cannot be compared with the range is as good
   as none. -/
def isTimeAccepted (value : JsonObject) : Bool :=
  match time? rt value with
  | none => true
  | some t =>
      if isComparable t range.startTime &&
          isComparable t range.endTime then
        isInside range t
      else
        true

/- The message is to be replayed. One that is no JSON object
   has neither a topic nor a time. -/
def isAccepted (m : KafkaMessage) : Bool :=
  match m.value.map rt.decode with
  | some (.object value) =>
      isTopicAccepted cfg value &&
        isTimeAccepted rt range value
  | _ => true

/- The value of a message: a JSON object, or else its text as
   a raw payload. -/
def valueOf (m : KafkaMessage) : JsonObject :=
  match m.value.map rt.decode with
  | some (.object value) => value
  | _ =>
      .ofList
        [("raw", .str (rt.replaceText (m.value.getD [])))]

/- The events of the messages to be replayed, with their
   positions. -/
def acceptedFrom :
    Nat → List KafkaMessage → List (Nat × DlqEvent)
| _, [] => []
| position, m :: ms =>
    if isAccepted rt cfg range m then
      (position, eventOf rt cfg position m (valueOf rt m)) ::
        acceptedFrom (position + 1) ms
    else
      acceptedFrom (position + 1) ms

/- Nothing is raised, and the events of the first messages to
   be replayed are yielded, in order. -/
def ToleratesMessages (ms : List KafkaMessage) : Prop :=
  (iterate rt cfg ms).raised = false ∧
    ∀ range, timeRange? rt cfg = some range →
      (iterate rt cfg ms).events =
        (acceptedFrom rt cfg range 0 ms).take
          cfg.maxMessages.toNat

/- The time is before the start, and cannot be compared with
   the end. -/
def isCutOff (value : JsonObject) : Bool :=
  match time? rt value with
  | none => false
  | some t =>
      range.startTime.any (fun s =>
        t.hasZone = s.hasZone && t.micros < s.micros) &&
      !isComparable t range.endTime

/- The value is a JSON object, or no JSON at all; and if it
   is for the source topic, its time is not cut off. -/
def IsTolerated (m : KafkaMessage) : Prop :=
  ∃ value, m.value.map rt.decode = some (.object value) ∧
    (isTopicAccepted cfg value = true →
      isCutOff rt range value = false)

/- Each message is tolerated that comes before enough
   messages were replayed. -/
def ReadsTolerated
    (count : Nat)
    (ms : List KafkaMessage) : Prop :=
  ∀ before m after, ms = before ++ m :: after →
    ((count + before.countP (isAccepted rt cfg range) : Nat) :
        Int) < cfg.maxMessages →
      IsTolerated rt cfg range m

end DLQSourceAdapter

end FraudStream

------------------------------------------------------------
-- One Message
------------------------------------------------------------

namespace FraudStream

namespace DLQSourceAdapter

variable {rt : ReplayRuntime}
variable {cfg : DLQSourceConfig}
variable {range : TimeRange}
variable {m : KafkaMessage}

theorem isOfOtherTopic_eq (value : JsonObject) :
    isOfOtherTopic cfg value = !isTopicAccepted cfg value := by
  simp only [isOfOtherTopic, isTopicAccepted]
  generalize
    (Dict.get? value "source_topic").getD
      ((Dict.get? value "original_topic").getD (.str "")) =
        topic
  cases topic with
  | str text =>
      by_cases hEmpty : text = "" <;>
        simp [JsonValue.truthy, hEmpty]
  | _ => simp

theorem isFilteredByTime_eq_match (value : JsonObject) :
    isFilteredByTime rt range value =
      match time? rt value with
      | none => false
      | some t =>
          (range.startTime.isSome || range.endTime.isSome) &&
            isOutside range t := by
  simp only [isFilteredByTime, time?]
  generalize
    (Dict.get? value "timestamp").getD
      ((Dict.get? value "error_time").getD .null) = time
  cases hTruthy : time.truthy with
  | false => simp
  | true =>
      cases rt.fromisoformat
          ((time.text rt.table).replace "Z" "+00:00") with
      | none => simp
      | some t =>
          cases range.startTime <;> cases range.endTime <;>
            simp

/- The two comparisons of a time: the first that cannot be
   made ends the check. -/
theorem isOutside_eq (t : DateTime) :
    ((range.startTime.isSome || range.endTime.isSome) &&
        isOutside range t) =
      (!(if isComparable t range.startTime &&
            isComparable t range.endTime then
          isInside range t
        else
          true) ||
        (range.startTime.any (fun s =>
            t.hasZone = s.hasZone && t.micros < s.micros) &&
          !isComparable t range.endTime)) := by
  have hAfter :
      ∀ e : DateTime,
        decide (e.micros < t.micros) =
          !decide (t.micros ≤ e.micros) := by
    intro e
    by_cases hLess : e.micros < t.micros
    · simp [hLess]
    · simp [hLess, Int.not_lt.1 hLess]
  cases hStart : range.startTime with
  | none =>
      cases hEnd : range.endTime with
      | none => simp [isComparable, isInside, hStart, hEnd]
      | some e =>
          by_cases hZone : t.hasZone = e.hasZone
          · simp [isComparable, isInside, isOutside,
              DateTime.before?, hStart, hEnd, hZone, hAfter]
          · simp [isComparable, isOutside,
              DateTime.before?, hStart, hEnd, hZone,
              Ne.symm hZone]
  | some s =>
      by_cases hZone : t.hasZone = s.hasZone
      · by_cases hLess : t.micros < s.micros
        · have hBefore : ¬ s.micros ≤ t.micros := by omega
          simp [isComparable, isInside, isOutside,
            DateTime.before?, hStart, hZone, hLess, hBefore]
        · have hNotBefore : s.micros ≤ t.micros := by omega
          cases hEnd : range.endTime with
          | none =>
              simp [isComparable, isInside, isOutside,
                DateTime.before?, hStart, hEnd, hZone, hLess,
                hNotBefore]
          | some e =>
              by_cases hZone' : s.hasZone = e.hasZone
              · simp [isComparable, isInside, isOutside,
                  DateTime.before?, hStart, hEnd, hZone,
                  hZone', hLess, hNotBefore, hAfter]
              · simp [isComparable, isOutside,
                  DateTime.before?, hStart, hEnd, hZone,
                  hZone', hLess, Ne.symm hZone']
      · simp [isComparable, isOutside, DateTime.before?,
          hStart, hZone]

/- A message is filtered by its time when the range excludes
   it, or when its time is cut off. -/
theorem isFilteredByTime_eq (value : JsonObject) :
    isFilteredByTime rt range value =
      (!isTimeAccepted rt range value ||
        isCutOff rt range value) := by
  rw [isFilteredByTime_eq_match, isTimeAccepted, isCutOff]
  cases time? rt value with
  | none => rfl
  | some t => exact isOutside_eq t

end DLQSourceAdapter

end FraudStream

------------------------------------------------------------
-- Tolerated Messages
------------------------------------------------------------

namespace FraudStream

namespace DLQSourceAdapter

variable {rt : ReplayRuntime}
variable {cfg : DLQSourceConfig}
variable {range : TimeRange}
variable {m : KafkaMessage}

/- A time that is cut off is accepted. -/
theorem isTimeAccepted_of_isCutOff
    {value : JsonObject}
    (hCutOff : isCutOff rt range value = true) :
    isTimeAccepted rt range value = true := by
  unfold isCutOff at hCutOff
  unfold isTimeAccepted
  cases hTime : time? rt value with
  | none => rfl
  | some t =>
      rw [hTime] at hCutOff
      have hEnd : isComparable t range.endTime = false := by
        simpa using (Bool.and_eq_true_iff.1 hCutOff).2
      simp [hEnd]

/- What becomes of a JSON object. -/
theorem readMessage_of_object
    {value : JsonObject}
    (hValue : m.value.map rt.decode = some (.object value))
    (position : Nat) :
    readMessage rt cfg range position m =
      if isTopicAccepted cfg value &&
          isTimeAccepted rt range value &&
          !isCutOff rt range value then
        .event (eventOf rt cfg position m value)
      else
        .filtered := by
  unfold readMessage
  rw [hValue]
  simp only [isOfOtherTopic_eq, isFilteredByTime_eq]
  cases isTopicAccepted cfg value <;>
    cases isTimeAccepted rt range value <;>
      cases isCutOff rt range value <;> rfl

theorem readMessage_of_tolerated
    (hTolerated : IsTolerated rt cfg range m)
    (position : Nat) :
    (isAccepted rt cfg range m = true ∧
        readMessage rt cfg range position m =
          .event
            (eventOf rt cfg position m (valueOf rt m))) ∨
      (isAccepted rt cfg range m = false ∧
        readMessage rt cfg range position m = .filtered) := by
  rcases hTolerated with ⟨value, hValue, hCutOff⟩
  have hAccepted :
      isAccepted rt cfg range m =
        (isTopicAccepted cfg value &&
          isTimeAccepted rt range value) := by
    rw [isAccepted, hValue]
  have hSame : valueOf rt m = value := by
    rw [valueOf, hValue]
  rw [readMessage_of_object hValue, hAccepted, hSame]
  cases hTopic : isTopicAccepted cfg value with
  | false => exact .inr ⟨rfl, rfl⟩
  | true =>
      rw [hCutOff hTopic]
      cases isTimeAccepted rt range value with
      | false => exact .inr ⟨rfl, rfl⟩
      | true => exact .inl ⟨rfl, rfl⟩

/- A message that is not tolerated raises, or it is filtered
   though it is to be replayed. -/
theorem readMessage_of_not_tolerated
    (hBad : ¬ IsTolerated rt cfg range m)
    (position : Nat) :
    readMessage rt cfg range position m = .raised ∨
      (isAccepted rt cfg range m = true ∧
        readMessage rt cfg range position m =
          .filtered) := by
  cases hValue : m.value.map rt.decode with
  | none =>
      left
      rw [readMessage, hValue]
  | some loaded =>
      cases loaded with
      | object value =>
          right
          have hTopic : isTopicAccepted cfg value = true := by
            by_contra hOther
            exact hBad ⟨value, hValue, fun hSame =>
              absurd hSame hOther⟩
          have hCutOff : isCutOff rt range value = true := by
            by_contra hOther
            exact hBad ⟨value, hValue, fun _ =>
              Bool.not_eq_true _ ▸ hOther⟩
          rw [readMessage_of_object hValue, isAccepted, hValue]
          simp [hTopic, hCutOff,
            isTimeAccepted_of_isCutOff hCutOff]
      | _ =>
          left
          rw [readMessage, hValue]

end DLQSourceAdapter

end FraudStream

------------------------------------------------------------
-- Iterations
------------------------------------------------------------

namespace FraudStream

namespace DLQSourceAdapter

variable {rt : ReplayRuntime}
variable {cfg : DLQSourceConfig}
variable {range : TimeRange}

/- What is yielded comes from the position on. -/
theorem position_le_of_iterateFrom
    {position count : Nat}
    {ms : List KafkaMessage}
    {x : Nat × DlqEvent}
    (hMem :
      x ∈ (iterateFrom rt cfg range position count
        ms).events) :
    position ≤ x.1 := by
  induction ms generalizing position count with
  | nil => cases hMem
  | cons m ms ih =>
      unfold iterateFrom at hMem
      split at hMem
      · split at hMem
        · cases hMem
        · exact Nat.le_of_succ_le (ih hMem)
        · rcases List.mem_cons.1 hMem with rfl | hLater
          · exact Nat.le_refl _
          · exact Nat.le_of_succ_le (ih hLater)
      · cases hMem

/- The first message is tolerated when it is read, and so are
   the others. -/
theorem readsTolerated_cons
    (count : Nat)
    (m : KafkaMessage)
    (ms : List KafkaMessage) :
    ReadsTolerated rt cfg range count (m :: ms) ↔
      ((count : Int) < cfg.maxMessages →
        IsTolerated rt cfg range m) ∧
        ReadsTolerated rt cfg range
          (count + if isAccepted rt cfg range m then 1 else 0)
          ms := by
  constructor
  · intro hReads
    constructor
    · intro hRead
      exact hReads [] m ms rfl hRead
    · rintro before m' after rfl hRead
      apply hReads (m :: before) m' after rfl
      rw [List.countP_cons]
      have hCount :
          count + (before.countP (isAccepted rt cfg range) +
              if isAccepted rt cfg range m then 1 else 0) =
            (count +
              if isAccepted rt cfg range m then 1 else 0) +
              before.countP (isAccepted rt cfg range) := by
        omega
      rw [hCount]
      exact hRead
  · rintro ⟨hFirst, hRest⟩ before m' after hEq hRead
    cases before with
    | nil =>
        cases hEq
        exact hFirst hRead
    | cons _ before =>
        cases hEq
        apply hRest before m' after rfl
        rw [List.countP_cons] at hRead
        omega

/- Reading one message leaves one fewer to be read. -/
theorem toNat_left
    {count : Nat}
    {limit : Int}
    (hRead : (count : Int) < limit) :
    (limit - count).toNat =
      (limit - (count + 1 : Nat)).toNat + 1 := by
  omega

/- A message that is read and not tolerated raises, or is
   missing from the events. -/
theorem iterateFrom_of_not_tolerated
    {m : KafkaMessage}
    (hTolerated : ¬ IsTolerated rt cfg range m)
    {count : Nat}
    (hRead : (count : Int) < cfg.maxMessages)
    (position : Nat)
    (ms : List KafkaMessage) :
    ¬ ((iterateFrom rt cfg range position count
            (m :: ms)).raised = false ∧
        (iterateFrom rt cfg range position count
            (m :: ms)).events =
          (acceptedFrom rt cfg range position
            (m :: ms)).take
            (cfg.maxMessages - count).toNat) := by
  rw [iterateFrom, if_pos hRead, acceptedFrom]
  rintro ⟨hQuiet, hEvents⟩
  rcases readMessage_of_not_tolerated hTolerated position with
    hRaised | ⟨hAccepted, hFiltered⟩
  · rw [hRaised] at hQuiet
    cases hQuiet
  · simp only [hFiltered, hAccepted, if_true,
      toNat_left hRead, List.take_succ_cons] at hEvents
    have hMem :
        (position, eventOf rt cfg position m (valueOf rt m)) ∈
          (iterateFrom rt cfg range (position + 1)
            count ms).events := by
      rw [hEvents]
      exact List.mem_cons_self
    exact absurd (position_le_of_iterateFrom hMem)
      (Nat.not_succ_le_self position)

/- By induction on the messages: the iteration is as it
   should be exactly when each message that it reads is
   tolerated. -/
theorem iterateFrom_iff
    (position count : Nat)
    (ms : List KafkaMessage) :
    ((iterateFrom rt cfg range position count ms).raised =
          false ∧
        (iterateFrom rt cfg range position count ms).events =
          (acceptedFrom rt cfg range position ms).take
            (cfg.maxMessages - count).toNat) ↔
      ReadsTolerated rt cfg range count ms := by
  induction ms generalizing position count with
  | nil =>
      simp [iterateFrom, acceptedFrom, ReadsTolerated]
  | cons m ms ih =>
      rw [readsTolerated_cons]
      by_cases hRead : (count : Int) < cfg.maxMessages
      · by_cases hTolerated : IsTolerated rt cfg range m
        · simp only [hRead, hTolerated, forall_const, true_and]
          rw [iterateFrom, if_pos hRead, acceptedFrom]
          rcases readMessage_of_tolerated hTolerated
              position with
            ⟨hAccepted, hEvent⟩ | ⟨hAccepted, hFiltered⟩
          · simp only [hEvent, hAccepted, if_true,
              toNat_left hRead, List.take_succ_cons,
              List.cons.injEq, true_and]
            exact ih (position + 1) (count + 1)
          · simp only [hFiltered, hAccepted]
            exact ih (position + 1) count
        · simp only [hRead, hTolerated, forall_const,
            false_and, iff_false]
          exact
            iterateFrom_of_not_tolerated hTolerated hRead
              position ms
      · have hNone : (cfg.maxMessages - count).toNat = 0 := by
          omega
        have hRest :
            ReadsTolerated rt cfg range
              (count +
                if isAccepted rt cfg range m then 1 else 0)
              ms := by
          intro before m' after _ hRead'
          omega
        simp only [iterateFrom, hRead, if_false, hNone,
          List.take_zero, hRest, and_self,
          false_imp_iff]

/- The dead-letter adapter tolerates its messages exactly
   when its time filters are times and each message that it
   reads is tolerated. -/
theorem tolerates_messages_iff
    (rt : ReplayRuntime)
    (cfg : DLQSourceConfig)
    (ms : List KafkaMessage) :
    ToleratesMessages rt cfg ms ↔
      ∃ range, timeRange? rt cfg = some range ∧
        ReadsTolerated rt cfg range 0 ms := by
  unfold ToleratesMessages iterate
  cases hRange : timeRange? rt cfg with
  | none => simp
  | some range =>
      simp only [Option.some.injEq, forall_eq', exists_eq_left']
      rw [← iterateFrom_iff 0 0 ms]
      simp

/- The events of a broker that delivers the messages one
   after the other. -/
theorem emitted_eq_iterateFrom
    (ms later : List KafkaMessage)
    (count : Nat)
    (polls : Nat)
    (hPolls : later.length < polls)
    (position : Nat)
    (hLater : ms.drop position = later) :
    PolledLog.emitted
        { log := ms, deliveries := fun _ => .next }
        (reader rt cfg range) polls
        { polls := position, position := position } count =
      (iterateFrom rt cfg range position count
        later).events := by
  induction later generalizing position count polls with
  | nil =>
      cases polls with
      | zero => cases hPolls
      | succ polls =>
          have hEnd : ms[position]? = none := by
            rw [List.getElem?_eq_none_iff]
            exact List.drop_eq_nil_iff.1 hLater
          simp [PolledLog.emitted, reader, PolledLog.answer,
            hEnd, iterateFrom]
  | cons m later ih =>
      cases polls with
      | zero => cases hPolls
      | succ polls =>
          have hHere : ms[position]? = some m := by
            rw [← List.head?_drop, hLater]
            rfl
          have hNext : ms.drop (position + 1) = later := by
            rw [← List.drop_drop, hLater]
            rfl
          have hFewer : later.length < polls :=
            Nat.lt_of_succ_lt_succ hPolls
          have hAnswer :
              PolledLog.answer
                  { log := ms, deliveries := fun _ => .next }
                  { polls := position, position := position } =
                .message position m := by
            simp [PolledLog.answer, hHere]
          have hPoll :=
            (PolledLog.answer_message hAnswer).2.2
          rw [PolledLog.emitted, hAnswer, hPoll, iterateFrom]
          simp only [reader]
          by_cases hRead : (count : Int) < cfg.maxMessages
          · simp only [hRead, decide_true, if_true]
            cases readMessage rt cfg range position m with
            | raised => rfl
            | filtered =>
                exact ih count polls hFewer (position + 1) hNext
            | event e =>
                simp only
                rw [← ih (count + 1) polls hFewer
                  (position + 1) hNext]
                rfl
          · simp [hRead]

theorem iterEvents_eq_iterate
    (ms : List KafkaMessage)
    {polls : Nat}
    (hPolls : ms.length < polls) :
    iterEvents rt cfg
        { log := ms, deliveries := fun _ => .next } none
        polls =
      (iterate rt cfg ms).events := by
  unfold iterEvents iterate
  cases timeRange? rt cfg with
  | none => rfl
  | some range =>
      exact emitted_eq_iterateFrom ms ms 0 polls hPolls 0 rfl

def replayAll : DLQSourceConfig where
  sourceTopic := "txn.api"
  dlqTopic := "txn.api.dlq"
  startTime := none
  endTime := none
  maxMessages := 1000

/- A message with the given value. -/
def messageOf (value : Option (List UInt8)) : KafkaMessage where
  partition := 0
  offset := 0
  key := none
  value := value

/- A message without a value ends the replay. -/
theorem null_value_raises :
    ¬ ToleratesMessages ReplayRuntime.emptyObjects replayAll
      [messageOf none] := by
  rintro ⟨hQuiet, _⟩
  have hRaised :
      (iterate ReplayRuntime.emptyObjects replayAll
        [messageOf none]).raised = true := rfl
  rw [hRaised] at hQuiet
  cases hQuiet

end DLQSourceAdapter

end FraudStream
