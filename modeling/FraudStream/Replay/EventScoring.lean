import FraudStream.Replay.Bookkeeping
import FraudStream.Replay.SourceAdapters
import FraudStream.Replay.Summaries

/-
  Scoring the events of a replay.

  An event is scored on its payload, which is asked for the
  original decision first. A payload that is no object raises
  there, whatever the scoring function is. A run in which
  only `Exception`s are raised by the scoring ends completed,
  with the results of the events that were scored.

  Key definitions include:
    * `SourceEvent`
    * `ReplayJob.processEvent?`
    * `ScoringFn.RaisesErrors`
    * `ReplayEnv.Scores`
    * `ReplayEnv.Uncancelled`

  Main results:
    * `ReplayJob.start_of_uncancelled`
-/

------------------------------------------------------------
-- Events And Outcomes
------------------------------------------------------------

namespace FraudStream

/- What a job reads of an event, whichever adapter yields
   it. -/
structure SourceEvent where
  eventId : JsonValue
  timestamp : JsonValue
  payload : JsonValue
  source : String
  topic : Option String
  offset : Int

def KafkaEvent.sourceEvent (e : KafkaEvent) : SourceEvent where
  eventId := .str e.eventId
  timestamp := .str e.timestamp
  payload := e.payload
  source := "kafka"
  topic := some e.topic
  offset := e.offset

/- An event of the dead-letter adapter has no `topic`. -/
def DlqEvent.sourceEvent (e : DlqEvent) : SourceEvent where
  eventId := e.eventId
  timestamp := e.timestamp
  payload := e.payload
  source := "dlq"
  topic := none
  offset := e.offset

/- What a scoring function returns. -/
structure ScoringOutcome where
  decision : Option String
  score : Option ℚ
  triggeredRules : List String

abbrev ScoringFn :=
  JsonObject → Except Raised ScoringOutcome

/- A time that was parsed, the clock in place of a text that
   is no time, or what was no text. -/
inductive OriginalTimestamp where
| parsed : DateTime → OriginalTimestamp
| now
| given : JsonValue → OriginalTimestamp

/- A result with the event that it is for. -/
structure ProcessedEvent extends ReplayResult where
  originalEventId : JsonValue
  originalTimestamp : OriginalTimestamp
  source : String
  topic : Option String
  offset : Int

end FraudStream

------------------------------------------------------------
-- One Event
------------------------------------------------------------

namespace FraudStream

namespace ReplayJob

/- A decision is a text or missing. The model has no result
   with another one. -/
def decision? : JsonValue → Option (Option String)
| .null => some none
| .str s => some (some s)
| _ => none

/- A score that is no number is dropped. The model has no
   result with an infinite one. -/
def score? : JsonValue → Option (Option ℚ)
| .int n => some (some n.value)
| .bool b => some (some (if b then 1 else 0))
| .float (.finite q) => some (some q)
| .float _ => none
| _ => some none

/- What is no list is no rules. -/
def ruleNames? : JsonValue → Option (List String)
| .list xs =>
    xs.mapM (fun x =>
      match x with
      | .str s => some s
      | _ => none)
| _ => some []

def originalTimestamp
    (rt : ReplayRuntime) : JsonValue → OriginalTimestamp
| .str text =>
    match rt.fromisoformat (text.replace "Z" "+00:00") with
    | some t => .parsed t
    | none => .now
| v => .given v

/- `_process_event`, where the payload has the types that a
   result declares. A payload that is no object has no
   `get`. -/
def processEvent?
    (rt : ReplayRuntime)
    (scoringFn : ScoringFn)
    (processingTimeMs : ℚ)
    (e : SourceEvent) :
    Option (Except Raised ProcessedEvent) :=
  match e.payload with
  | .dict es => do
      let payload : JsonObject := .ofList es
      let originalDecision ←
        decision?
          ((payload.get? "fraud_decision").getD .null)
      let originalScore ←
        score? ((payload.get? "fraud_score").getD .null)
      let triggeredRulesOriginal ←
        ruleNames?
          ((payload.get? "triggered_rules").getD (.list []))
      match scoringFn payload with
      | .error raised => some (.error raised)
      | .ok outcome =>
          some
            (.ok
              { originalDecision := originalDecision
                replayDecision := outcome.decision
                originalScore := originalScore
                replayScore := outcome.score
                triggeredRulesOriginal :=
                  triggeredRulesOriginal
                triggeredRulesReplay :=
                  outcome.triggeredRules
                processingTimeMs := processingTimeMs
                originalEventId := e.eventId
                originalTimestamp :=
                  originalTimestamp rt e.timestamp
                source := e.source
                topic := e.topic
                offset := e.offset })
  | v =>
      some
        (.error
          (.error
            ("'" ++ v.typeName ++
              "' object has no attribute 'get'")))

end ReplayJob

/- The function raises no more than an `Exception`. -/
def ScoringFn.RaisesErrors (scoringFn : ScoringFn) : Prop :=
  ∀ payload raised, scoringFn payload = .error raised →
    ∃ message, raised = .error message

namespace ReplayEnv

/- The run scores its events with the function. -/
def Scores
    (rt : ReplayRuntime)
    (scoringFn : ScoringFn)
    (env : ReplayEnv SourceEvent ProcessedEvent) : Prop :=
  ∀ i e, ∃ processingTimeMs, ∀ outcome,
    ReplayJob.processEvent? rt scoringFn processingTimeMs e =
        some outcome →
      env.process i e = outcome

end ReplayEnv

end FraudStream

------------------------------------------------------------
-- Runs That Are Not Cancelled
------------------------------------------------------------

namespace FraudStream

namespace ReplayEnv

variable {ε ρ : Type}

/- Nothing but the scoring of an event raises, and nobody
   cancels. -/
structure Uncancelled
    (env : ReplayEnv ε ρ)
    (total : Int) : Prop where
  openSink : env.openSink = none
  openAdapter : env.openAdapter = none
  count : env.count = .ok total
  sourceEnd : env.sourceEnd = none
  send : ∀ i r, env.send i r = none
  callback : env.callback = none
  summary : ∀ rs, env.summary rs = none
  closeSink : env.closeSink = none
  cancel : env.cancel = none

/- The scoring of the events raises no more than an
   `Exception`. -/
def OnlyErrors
    (env : ReplayEnv ε ρ)
    (es : List ε) : Prop :=
  ∀ e ∈ es, ∀ i raised, env.process i e = .error raised →
    ∃ message, raised = .error message

/- The result of an event, by its place. -/
def scored?
    (env : ReplayEnv ε ρ)
    (placed : ε × Nat) : Option ρ :=
  (env.process placed.2 placed.1).toOption

/- The results of the events from a place on. -/
def resultsFrom
    (env : ReplayEnv ε ρ)
    (event : Nat)
    (es : List ε) : List ρ :=
  (es.zipIdx event).filterMap env.scored?

variable
  {env : ReplayEnv ε ρ}
  {total : Int}

/- An event is processed with its result, or fails without
   one. -/
theorem Uncancelled.attempt_eq
    (hUncancelled : env.Uncancelled total)
    {es : List ε}
    (hErrors : env.OnlyErrors es)
    (event : Nat)
    {e : ε}
    (hMem : e ∈ es) :
    env.attempt event e =
      (env.scored? (e, event)).elim (.failed none)
        .processed := by
  unfold attempt scored?
  cases hProcess : env.process event e with
  | ok result =>
      dsimp only [Except.toOption]
      rw [hUncancelled.send, hUncancelled.callback]
      rfl
  | error raised =>
      rcases hErrors e hMem event raised hProcess with
        ⟨message, rfl⟩
      rfl

theorem Uncancelled.isCancelled_eq
    (hUncancelled : env.Uncancelled total)
    (event : Nat) :
    env.isCancelled event = false := by
  rw [isCancelled, hUncancelled.cancel]

/- What the attempts of a run amount to. -/
theorem Uncancelled.attemptsFrom_eq
    (hUncancelled : env.Uncancelled total)
    (event : Nat)
    {es : List ε}
    (hErrors : env.OnlyErrors es) :
    (∀ attempt ∈ env.attemptsFrom event es,
        attempt.isEscaped = false) ∧
      (env.attemptsFrom event es).length = es.length ∧
      (env.attemptsFrom event es).filterMap
          Attempt.collected =
        env.resultsFrom event es ∧
      (env.attemptsFrom event es).countP
          Attempt.isFailedLate =
        0 := by
  induction es generalizing event with
  | nil => exact ⟨List.forall_mem_nil _, rfl, rfl, rfl⟩
  | cons e es ih =>
      have hLater : env.OnlyErrors es := by
        intro e' hMem
        exact hErrors e' (List.mem_cons_of_mem _ hMem)
      rcases ih (event + 1) hLater with
        ⟨hKept, hLength, hCollected, hLate⟩
      have hAttempt :=
        hUncancelled.attempt_eq hErrors event
          List.mem_cons_self
      have hUnescaped :
          (env.attempt event e).isEscaped = false := by
        rw [hAttempt]
        cases env.scored? (e, event) <;> rfl
      have hFrom :
          env.attemptsFrom event (e :: es) =
            env.attempt event e ::
              env.attemptsFrom (event + 1) es := by
        rw [attemptsFrom, hUncancelled.isCancelled_eq,
          hUnescaped]
        rfl
      rw [hFrom]
      refine ⟨?_, ?_, ?_, ?_⟩
      · exact List.forall_mem_cons.2 ⟨hUnescaped, hKept⟩
      · rw [List.length_cons, List.length_cons, hLength]
      · rw [resultsFrom, List.zipIdx_cons,
          List.filterMap_cons, List.filterMap_cons,
          hCollected, hAttempt]
        cases env.scored? (e, event) <;> rfl
      · rw [List.countP_cons_of_neg, hLate]
        rw [hAttempt]
        cases env.scored? (e, event) <;>
          exact Bool.false_ne_true

end ReplayEnv

end FraudStream

namespace FraudStream

namespace ReplayJob

variable {ε ρ : Type}

/- A job whose events were all taken. -/
def completed
    (total : Int)
    (events : Nat)
    (results : List ρ) : ReplayJob ρ where
  status :=
    { status := .completed
      totalEvents := total
      processedEvents := results.length
      failedEvents := events - results.length
      errorMessage := none }
  results := results

/- The loop does not touch the fields that are set before
   it. -/
theorem record_keeps
    (p : Progress ρ)
    (attempt : Attempt ρ) :
    (record p attempt).job.status.totalEvents =
        p.job.status.totalEvents ∧
      (record p attempt).job.status.errorMessage =
        p.job.status.errorMessage := by
  cases attempt with
  | processed result =>
      simp only [record, countProcessed]
      split <;> exact ⟨rfl, rfl⟩
  | failed collected => exact ⟨rfl, rfl⟩
  | escaped raised collected => exact ⟨rfl, rfl⟩

theorem foldl_record_keeps
    (attempts : List (Attempt ρ))
    (p : Progress ρ) :
    (attempts.foldl record p).job.status.totalEvents =
        p.job.status.totalEvents ∧
      (attempts.foldl record p).job.status.errorMessage =
        p.job.status.errorMessage := by
  induction attempts generalizing p with
  | nil => exact ⟨rfl, rfl⟩
  | cons attempt attempts ih =>
      have hStep := record_keeps p attempt
      have hRest := ih (record p attempt)
      exact
        ⟨hRest.1.trans hStep.1, hRest.2.trans hStep.2⟩

/- A run that nothing disturbs completes with the results of
   the events that were scored. -/
theorem start_of_uncancelled
    {env : ReplayEnv ε ρ}
    {total : Int}
    (hUncancelled : env.Uncancelled total)
    (hErrors : env.OnlyErrors env.events) :
    start env (pending ρ) =
      (completed total env.events.length
          (env.resultsFrom 0 env.events),
        none) := by
  rcases
    hUncancelled.attemptsFrom_eq 0 hErrors with
    ⟨hKept, hLength, hCollected, hLate⟩
  have hTallied := tallied_loop env total
  have hExit :
      (loop env 0 env.events
        ((running ρ).begin total)).2 = .exhausted := by
    have hLeft :=
      exit_loop env env.events 0 ((running ρ).begin total)
    generalize
      (loop env 0 env.events ((running ρ).begin total)).2 =
        exit at hLeft
    cases exit with
    | exhausted => rfl
    | cancelled =>
        rcases hLeft with ⟨-, i, -, hFlag⟩
        rw [hUncancelled.isCancelled_eq] at hFlag
        cases hFlag
    | raised raised =>
        rcases hLeft with ⟨-, hEnd⟩ | ⟨collected, hMem⟩
        · rw [hUncancelled.sourceEnd] at hEnd
          cases hEnd
        · cases hKept _ hMem
  have hStatus :=
    foldl_record_keeps (env.attemptsFrom 0 env.events)
      ((running ρ).begin total)
  rw [← loop_progress] at hStatus
  rw [start_pending hUncancelled.openSink,
    hUncancelled.closeSink,
    runReplay_of_count hUncancelled.openAdapter
      hUncancelled.count, hExit]
  generalize
    (loop env 0 env.events ((running ρ).begin total)).1 = p
    at hTallied hStatus
  have hCounts := length_of_unescaped _ hKept
  have hResults :
      p.job.results = env.resultsFrom 0 env.events := by
    rw [hTallied.results, hCollected]
  have hProcessed :
      p.processed =
        (env.resultsFrom 0 env.events).length := by
    rw [hTallied.processed, ← hCollected]
    omega
  have hFailed :
      p.failed =
        env.events.length -
          (env.resultsFrom 0 env.events).length := by
    rw [hTallied.failed, ← hCollected]
    omega
  have hSummary :
      env.computeSummary p.job.results = none := by
    unfold ReplayEnv.computeSummary
    rw [hUncancelled.summary]
    split <;> rfl
  unfold leave finish
  dsimp only
  rw [hSummary]
  unfold handle setStatus completed
  dsimp only
  rw [hResults, hProcessed, hFailed, hStatus.1, hStatus.2]
  rfl

end ReplayJob

end FraudStream

------------------------------------------------------------
-- The Scoring Of The Management API
------------------------------------------------------------

namespace FraudStream

namespace ReplayJob

/- The scoring function of the jobs that the API starts. -/
def dummyScoring : ScoringFn := fun _ =>
  .ok
    { decision := some "review"
      score := some (1 / 2)
      triggeredRules := ["rule_001"] }

theorem raisesErrors_dummyScoring :
    dummyScoring.RaisesErrors := by
  intro payload raised hRaised
  cases hRaised

/- A job of the API that nothing disturbs. -/
def dummyEnv
    (rt : ReplayRuntime)
    (events : List SourceEvent) :
    ReplayEnv SourceEvent ProcessedEvent where
  openSink := none
  openAdapter := none
  count := .ok events.length
  events := events
  sourceEnd := none
  process := fun _ e =>
    (processEvent? rt dummyScoring 0 e).getD
      (.error (.error "unsupported payload"))
  send := fun _ _ => none
  callback := none
  summary := fun _ => none
  closeSink := none
  cancel := none

theorem events_dummyEnv
    (rt : ReplayRuntime)
    (events : List SourceEvent) :
    (dummyEnv rt events).events = events :=
  rfl

theorem uncancelled_dummyEnv
    (rt : ReplayRuntime)
    (events : List SourceEvent) :
    (dummyEnv rt events).Uncancelled events.length :=
  ⟨rfl, rfl, rfl, rfl, fun _ _ => rfl, rfl, fun _ => rfl, rfl,
    rfl⟩

theorem scores_dummyEnv
    (rt : ReplayRuntime)
    (events : List SourceEvent) :
    (dummyEnv rt events).Scores rt dummyScoring := by
  intro i e
  refine ⟨0, fun outcome hOutcome => ?_⟩
  unfold dummyEnv
  dsimp only
  rw [hOutcome]
  rfl

end ReplayJob

end FraudStream
