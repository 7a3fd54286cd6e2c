import FraudStream.Replay.ApiDeadLetters
import FraudStream.Replay.EventScoring

/-
  Scoring the dead letters of the API.

  The adapter yields the payload of a letter as a text, and
  a job asks the payload of an event for a field before it
  scores it. So a job over letters of the API scores none of
  them: each event fails, and the job is completed without a
  result.

  Main results:
    * `ReplayJob.api_dead_letters_fail`
-/

------------------------------------------------------------
-- Payloads That Are Texts
------------------------------------------------------------

namespace FraudStream

namespace ReplayJob

open DLQSourceAdapter

/- A payload that is a text cannot be scored. -/
theorem processEvent?_of_text
    (rt : ReplayRuntime)
    (scoringFn : ScoringFn)
    (processingTimeMs : ℚ)
    {e : SourceEvent}
    {text : String}
    (hPayload : e.payload = .str text) :
    processEvent? rt scoringFn processingTimeMs e =
      some
        (.error
          (.error
            "'str' object has no attribute 'get'")) := by
  unfold processEvent?
  rw [hPayload]
  rfl

/- No event with a text for a payload has a result. -/
theorem start_of_texts
    {rt : ReplayRuntime}
    {scoringFn : ScoringFn}
    {env : ReplayEnv SourceEvent ProcessedEvent}
    {total : Int}
    (hScores : env.Scores rt scoringFn)
    (hUncancelled : env.Uncancelled total)
    (hTexts :
      ∀ e ∈ env.events, ∃ text, e.payload = .str text) :
    start env (pending ProcessedEvent) =
      (completed total env.events.length [], none) := by
  have hFails :
      ∀ e ∈ env.events, ∀ i, ∃ message,
        env.process i e = .error (.error message) := by
    intro e hMem i
    rcases hTexts e hMem with ⟨text, hPayload⟩
    rcases hScores i e with ⟨processingTimeMs, hOutcome⟩
    exact
      ⟨_, hOutcome _ (processEvent?_of_text rt scoringFn
        processingTimeMs hPayload)⟩
  have hErrors : env.OnlyErrors env.events := by
    intro e hMem i raised hRaised
    rcases hFails e hMem i with ⟨message, hError⟩
    rw [hError] at hRaised
    cases hRaised
    exact ⟨message, rfl⟩
  have hNone : env.resultsFrom 0 env.events = [] := by
    unfold ReplayEnv.resultsFrom
    rw [List.filterMap_eq_nil_iff]
    rintro ⟨e, i⟩ hMem
    rcases
      hFails e (List.fst_mem_of_mem_zipIdx hMem) i with
      ⟨message, hError⟩
    rw [ReplayEnv.scored?, hError]
    rfl
  rw [start_of_uncancelled hUncancelled hErrors, hNone]

/- The replayed events of letters have texts. -/
theorem texts_of_replays
    {rt : ReplayRuntime}
    {cfg : DLQSourceConfig}
    {letters : List DeadLetter}
    {events : List (Nat × DlqEvent)}
    (hReplays :
      List.Forall₂
        (fun letter e =>
          ∃ (i : Nat) (m : KafkaMessage),
            e = (i, replayOf rt cfg i letter m))
        letters events) :
    ∀ e ∈ events, ∃ text,
      e.2.sourceEvent.payload = .str text := by
  induction hReplays with
  | nil => exact List.forall_mem_nil _
  | @cons letter e letters events hHead _ ih =>
      rcases hHead with ⟨i, m, rfl⟩
      exact
        List.forall_mem_cons.2
          ⟨⟨letter.originalPayload, rfl⟩, ih⟩

/- Every letter of the API names its topic. -/
theorem sourceTopic_of_originates
    {steps : List ServiceStep}
    {letter : DeadLetter}
    (hOriginates :
      ProducerService.Originates steps letter) :
    letter.sourceTopic = "txn.api" := by
  rcases hOriginates with
    ⟨message, rfl⟩ | ⟨request, errorType, -, hEffect⟩
  · rfl
  · rcases letter_of_rejected hEffect with
      ⟨-, -, hTopic, -⟩
    exact hTopic

/-
  A job over letters that a run of the API left, whichever
  the adapter has still to read, ends completed without a
  result. Each letter is counted as failed, whatever the
  scoring function is.
-/
theorem api_dead_letters_fail
    {rt : ReplayRuntime}
    {cfg : DLQSourceConfig}
    {range : TimeRange}
    {table : TextTable}
    {depth : Nat}
    {steps : List ServiceStep}
    {letters : List DeadLetter}
    {ms : List KafkaMessage}
    {scoringFn : ScoringFn}
    {env : ReplayEnv SourceEvent ProcessedEvent}
    {total : Int}
    (hReads : rt.ReadsJson (depth + 1))
    (hTopic : cfg.sourceTopic = "txn.api")
    (hRange : timeRange? rt cfg = some range)
    (hLetters :
      ∀ letter ∈ letters,
        letter ∈
          (ProducerService.started.run steps).2.deadLetters)
    (hCarried :
      List.Forall₂ (DLQProducer.Carries table) letters ms)
    (hMax : (letters.length : Int) ≤ cfg.maxMessages)
    (hEvents :
      env.events =
        (iterate rt cfg ms).events.map
          (fun e => e.2.sourceEvent))
    (hScores : env.Scores rt scoringFn)
    (hUncancelled : env.Uncancelled total) :
    start env (pending ProcessedEvent) =
      (completed total letters.length [], none) := by
  have hTopics :
      ∀ letter ∈ letters,
        letter.sourceTopic = cfg.sourceTopic := by
    intro letter hMem
    rw [hTopic]
    rcases
      ProducerService.originates_of_mem
        (hLetters letter hMem) with
      hBefore | hRun
    · cases hBefore
    · exact sourceTopic_of_originates hRun
  have hReplay :=
    iterateFrom_envelopes hReads hCarried hTopics range 0 0
      (by rw [Nat.zero_add]; exact hMax)
  have hIterate :
      iterate rt cfg ms = iterateFrom rt cfg range 0 0 ms := by
    unfold iterate
    rw [hRange]
  have hTexts :
      ∀ e ∈ env.events, ∃ text, e.payload = .str text := by
    intro e hMem
    rw [hEvents, hIterate] at hMem
    rcases List.mem_map.1 hMem with ⟨placed, hPlaced, rfl⟩
    exact texts_of_replays hReplay.2 placed hPlaced
  have hLength : env.events.length = letters.length := by
    rw [hEvents, hIterate, List.length_map]
    exact hReplay.2.length_eq.symm
  rw [start_of_texts hScores hUncancelled hTexts, hLength]

/- A job of the API over the one letter of a run. -/
theorem rejected_request_is_not_scored :
    start
        (dummyEnv jsonRuntime
          ((iterate jsonRuntime replayAll
            sampleMessages).events.map
              (fun e => e.2.sourceEvent)))
        (pending ProcessedEvent) =
      (completed
          (((iterate jsonRuntime replayAll
            sampleMessages).events.map
              (fun e => e.2.sourceEvent)).length : Int)
          (ProducerService.started.run
            [.post rejectedRequest]).2.deadLetters.length [],
        none) := by
  have hCarried :
      List.Forall₂ (DLQProducer.Carries asciiTable)
        (ProducerService.started.run
          [.post rejectedRequest]).2.deadLetters
        sampleMessages := by
    unfold sampleMessages
    rw [List.forall₂_map_right_iff, List.forall₂_same]
    intro letter _
    exact ⟨_, rfl⟩
  have hLetters :
      ∀ letter ∈
        (ProducerService.started.run
          [.post rejectedRequest]).2.deadLetters,
        letter ∈
          (ProducerService.started.run
            [.post rejectedRequest]).2.deadLetters :=
    fun _ hMem => hMem
  have hReads : jsonRuntime.ReadsJson (899 + 1) :=
    fun _ _ => rfl
  have hMax :
      ((ProducerService.started.run
        [.post rejectedRequest]).2.deadLetters.length : Int) ≤
          replayAll.maxMessages := by
    decide +kernel
  exact
    api_dead_letters_fail hReads rfl rfl hLetters hCarried
      hMax (events_dummyEnv _ _) (scores_dummyEnv _ _)
      (uncancelled_dummyEnv _ _)

end ReplayJob

end FraudStream
