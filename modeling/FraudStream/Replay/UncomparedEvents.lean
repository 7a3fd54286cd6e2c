import FraudStream.Library.Rounding
import FraudStream.Replay.EventScoring

/-
  Replays with nothing to compare with.

  A result compares an outcome with the decision, the score
  and the rules that the payload of its event names. Where no
  payload names any of them, a job over the events has one
  result for each that the function scores, and its summary
  never tells of a change.

  Key definitions include:
    * `Uncompared`
    * `ReplayJob.ComparesNothing`
    * `ReplayJob.ScoresPayload`

  Main results:
    * `ReplayJob.start_of_uncompared`
-/

------------------------------------------------------------
-- Payloads Without A Decision
------------------------------------------------------------

namespace FraudStream

/- The names that a result is compared by. -/
def comparedNames : List String :=
  ["fraud_decision", "fraud_score", "triggered_rules"]

/- A payload that names nothing to compare with. -/
def Uncompared (payload : JsonObject) : Prop :=
  ∀ name ∈ comparedNames, payload.get? name = none

/- An event with this offset and this payload. -/
structure SourceEvent.Holds
    (placed : Int × JsonObject)
    (e : SourceEvent) : Prop where
  offset : e.offset = placed.1
  payload : e.payload = .dict placed.2.entries

namespace ReplayJob

variable
  {rt : ReplayRuntime}
  {scoringFn : ScoringFn}
  {placed : List (Int × JsonObject)}
  {events : List SourceEvent}

/- A result that has nothing of an original decision. -/
structure ComparesNothing (r : ReplayResult) : Prop where
  decision : r.originalDecision = none
  score : r.originalScore = none
  rules : r.triggeredRulesOriginal = []

/- The result of a scored payload: its offset, the outcome of
   its scoring, and nothing to compare with. -/
structure ScoresPayload
    (offset : Int)
    (outcome : ScoringOutcome)
    (r : ProcessedEvent) : Prop where
  offset : r.offset = offset
  decision : r.replayDecision = outcome.decision
  score : r.replayScore = outcome.score
  rules : r.triggeredRulesReplay = outcome.triggeredRules
  compares : ComparesNothing r.toReplayResult

/- The offset and the outcome of a payload that is scored. -/
def outcome?
    (scoringFn : ScoringFn)
    (placed : Int × JsonObject) :
    Option (Int × ScoringOutcome) :=
  (scoringFn placed.2).toOption.map
    (fun outcome => (placed.1, outcome))

/- The event of a payload has its outcome and nothing to
   compare it with. -/
theorem processEvent?_of_uncompared
    (rt : ReplayRuntime)
    (scoringFn : ScoringFn)
    {placed : Int × JsonObject}
    (hUncompared : Uncompared placed.2)
    {e : SourceEvent}
    (hHolds : e.Holds placed)
    (processingTimeMs : ℚ) :
    (∀ raised, scoringFn placed.2 = .error raised →
        processEvent? rt scoringFn processingTimeMs e =
          some (.error raised)) ∧
      ∀ outcome, scoringFn placed.2 = .ok outcome →
        ∃ r,
          processEvent? rt scoringFn processingTimeMs e =
              some (.ok r) ∧
            ScoresPayload placed.1 outcome r := by
  have hObject :
      Dict.ofList placed.2.entries = placed.2 :=
    Dict.ext (Dict.entries_ofList placed.2.nodupKeys)
  unfold processEvent?
  rw [hHolds.payload]
  dsimp only
  rw [hObject, hUncompared "fraud_decision" (by decide),
    hUncompared "fraud_score" (by decide),
    hUncompared "triggered_rules" (by decide)]
  constructor
  · intro raised hRaised
    rw [hRaised]
    rfl
  · intro outcome hOutcome
    rw [hOutcome]
    exact
      ⟨_, rfl, hHolds.offset, rfl, rfl, rfl, rfl, rfl, rfl⟩

/- What the run makes of such an event. -/
theorem process_of_uncompared
    {env : ReplayEnv SourceEvent ProcessedEvent}
    (hScores : env.Scores rt scoringFn)
    {x : Int × JsonObject}
    (hUncompared : Uncompared x.2)
    {e : SourceEvent}
    (hHolds : e.Holds x)
    (i : Nat) :
    (∃ raised,
        scoringFn x.2 = .error raised ∧
          env.process i e = .error raised) ∨
      ∃ outcome r,
        scoringFn x.2 = .ok outcome ∧
          env.process i e = .ok r ∧
          ScoresPayload x.1 outcome r := by
  rcases hScores i e with ⟨processingTimeMs, hOutcome⟩
  have hProcess :=
    processEvent?_of_uncompared rt scoringFn hUncompared
      hHolds processingTimeMs
  cases hScored : scoringFn x.2 with
  | error raised =>
      exact
        .inl
          ⟨raised, rfl,
            hOutcome _ (hProcess.1 raised hScored)⟩
  | ok outcome =>
      rcases hProcess.2 outcome hScored with
        ⟨r, hResult, hScoresPayload⟩
      exact
        .inr
          ⟨outcome, r, rfl, hOutcome _ hResult,
            hScoresPayload⟩

/- The results are those of the payloads that are scored. -/
theorem results_of_uncompared
    {env : ReplayEnv SourceEvent ProcessedEvent}
    (hScores : env.Scores rt scoringFn)
    (hUncompared : ∀ x ∈ placed, Uncompared x.2)
    (hEvents :
      List.Forall₂ (fun x (e : SourceEvent) => e.Holds x)
        placed events) :
    List.Forall₂ (fun x r => ScoresPayload x.1 x.2 r)
      (placed.filterMap (outcome? scoringFn))
      (env.resultsFrom 0 events) := by
  have hPlaced :
      List.Forall₂
        (fun x (e : SourceEvent × Nat) =>
          Uncompared x.2 ∧ e.1.Holds x)
        placed (events.zipIdx 0) := by
    rw [List.forall₂_and_left]
    refine ⟨hUncompared, ?_⟩
    rw [← List.zipIdx_map_fst 0 events,
      List.forall₂_map_right_iff] at hEvents
    exact hEvents
  refine List.rel_filterMap ?_ hPlaced
  rintro x ⟨e, i⟩ ⟨hPayload, hHolds⟩
  unfold outcome? ReplayEnv.scored?
  rcases
    process_of_uncompared hScores hPayload hHolds i with
    ⟨raised, hScored, hRun⟩ |
      ⟨outcome, r, hScored, hRun, hResult⟩
  · rw [hScored, hRun]
    exact .none
  · rw [hScored, hRun]
    exact .some hResult

/- The scoring of such events raises what the function
   raises. -/
theorem onlyErrors_of_uncompared
    {env : ReplayEnv SourceEvent ProcessedEvent}
    (hScores : env.Scores rt scoringFn)
    (hScorable : scoringFn.RaisesErrors)
    (hUncompared : ∀ x ∈ placed, Uncompared x.2)
    (hEvents :
      List.Forall₂ (fun x (e : SourceEvent) => e.Holds x)
        placed events) :
    env.OnlyErrors events := by
  induction hEvents with
  | nil => exact List.forall_mem_nil _
  | @cons x e placed events hHead _ ih =>
      rcases List.forall_mem_cons.1 hUncompared with
        ⟨hFirst, hOthers⟩
      refine List.forall_mem_cons.2 ⟨?_, ih hOthers⟩
      intro i raised hRaised
      rcases
        process_of_uncompared hScores hFirst hHead i with
        ⟨raised', hScored, hRun⟩ | ⟨outcome, r, -, hRun, -⟩
      · rw [hRun] at hRaised
        cases hRaised
        exact hScorable _ _ hScored
      · rw [hRun] at hRaised
        cases hRaised

theorem compares_of_scores
    {scored : List (Int × ScoringOutcome)}
    {results : List ProcessedEvent}
    (hResults :
      List.Forall₂ (fun x r => ScoresPayload x.1 x.2 r)
        scored results) :
    ∀ r ∈ results, ComparesNothing r.toReplayResult := by
  induction hResults with
  | nil => exact List.forall_mem_nil _
  | cons hHead _ ih =>
      exact List.forall_mem_cons.2 ⟨hHead.compares, ih⟩

end ReplayJob

end FraudStream

------------------------------------------------------------
-- Summaries Without Comparison
------------------------------------------------------------

namespace FraudStream

namespace ReplayJob

/- A summary in which nothing has changed. -/
structure FindsNoChange (summary : ResultsSummary) : Prop where
  decisionsChanged : summary.decisionsChanged = 0
  decisionChangeRate : summary.decisionChangeRate = 0
  avgScoreDelta : summary.avgScoreDelta = 0
  maxScoreDelta : summary.maxScoreDelta = 0

theorem roundDigits_zero (digits : Nat) :
    roundDigits digits 0 = 0 := by
  have hRound : PyFloat.roundHalfEven 0 = 0 := by
    exact_mod_cast PyFloat.roundHalfEven_intCast 0
  rw [roundDigits, zero_mul, hRound, Int.cast_zero, zero_div]

theorem changedCount_of_compares
    {results : List ReplayResult}
    (hCompares : ∀ r ∈ results, ComparesNothing r) :
    changedCount results = 0 := by
  unfold changedCount
  rw [List.countP_eq_zero.2]
  · rfl
  · intro r hMem
    rw [ReplayResult.decisionChanged,
      (hCompares r hMem).decision]
    exact Bool.false_ne_true

theorem scoreDeltas_of_compares
    {results : List ReplayResult}
    (hCompares : ∀ r ∈ results, ComparesNothing r) :
    ∀ d ∈ scoreDeltas results, d = 0 := by
  intro d hMem
  rcases List.mem_map.1 hMem with ⟨r, hScored, rfl⟩
  rw [ReplayResult.scoreDelta,
    (hCompares r (List.mem_of_mem_filter hScored)).score]

/- The summary of results with nothing to compare with. -/
theorem findsNoChange_of_compares
    {iterate : List String → List String}
    {results : List ReplayResult}
    (hCompares : ∀ r ∈ results, ComparesNothing r)
    {summary : ResultsSummary}
    (hSummary : summaryOf iterate results = some summary) :
    FindsNoChange summary := by
  unfold summaryOf at hSummary
  split at hSummary
  · cases hSummary
  · cases hSummary
    have hCount := changedCount_of_compares hCompares
    have hDeltas := scoreDeltas_of_compares hCompares
    have hMean :
        (if scoreDeltas results = [] then (0 : ℚ)
          else mean (scoreDeltas results)) = 0 := by
      split
      · rfl
      · rw [mean, List.sum_eq_zero hDeltas, zero_div]
    have hMax : maxAbs (scoreDeltas results) = 0 := by
      unfold maxAbs
      generalize scoreDeltas results = deltas at hDeltas
      induction deltas with
      | nil => rfl
      | cons d deltas ih =>
          rcases List.forall_mem_cons.1 hDeltas with
            ⟨hHead, hTail⟩
          rw [List.map_cons, List.foldr_cons, ih hTail, hHead,
            abs_zero, max_self]
    constructor
    case decisionsChanged => exact hCount
    case decisionChangeRate =>
      dsimp only
      rw [hCount, Int.cast_zero, zero_div, zero_mul,
        roundDigits_zero]
    case avgScoreDelta =>
      dsimp only
      rw [hMean, roundDigits_zero]
    case maxScoreDelta =>
      dsimp only
      rw [hMax, roundDigits_zero]

end ReplayJob

end FraudStream

------------------------------------------------------------
-- Jobs Without Comparison
------------------------------------------------------------

namespace FraudStream

namespace ReplayJob

/- What a job over payloads that name no decision ends
   with. -/
def EndsUncompared
    (scoringFn : ScoringFn)
    (env : ReplayEnv SourceEvent ProcessedEvent)
    (total : Int)
    (placed : List (Int × JsonObject)) : Prop :=
  ∃ results,
    start env (pending ProcessedEvent) =
        (completed total placed.length results, none) ∧
      List.Forall₂ (fun x r => ScoresPayload x.1 x.2 r)
        (placed.filterMap (outcome? scoringFn)) results ∧
      ∀ iterate summary,
        summaryOf iterate
            (results.map (fun r => r.toReplayResult)) =
          some summary →
        FindsNoChange summary

/- A job that nothing disturbs, over events that hold such
   payloads. -/
theorem start_of_uncompared
    {rt : ReplayRuntime}
    {scoringFn : ScoringFn}
    {env : ReplayEnv SourceEvent ProcessedEvent}
    {total : Int}
    {placed : List (Int × JsonObject)}
    (hUncompared : ∀ x ∈ placed, Uncompared x.2)
    (hEvents :
      List.Forall₂ (fun x (e : SourceEvent) => e.Holds x)
        placed env.events)
    (hScores : env.Scores rt scoringFn)
    (hScorable : scoringFn.RaisesErrors)
    (hUncancelled : env.Uncancelled total) :
    EndsUncompared scoringFn env total placed := by
  have hResults :=
    results_of_uncompared hScores hUncompared hEvents
  have hCompares :
      ∀ r ∈ (env.resultsFrom 0 env.events).map
          (fun r => r.toReplayResult),
        ComparesNothing r := by
    intro r hMem
    rcases List.mem_map.1 hMem with ⟨r', hMem', rfl⟩
    exact compares_of_scores hResults r' hMem'
  refine
    ⟨env.resultsFrom 0 env.events, ?_, hResults, ?_⟩
  · rw [start_of_uncancelled hUncancelled
      (onlyErrors_of_uncompared hScores hScorable hUncompared
        hEvents), hEvents.length_eq]
  · intro iterate summary hSummary
    exact findsNoChange_of_compares hCompares hSummary

end ReplayJob

end FraudStream
