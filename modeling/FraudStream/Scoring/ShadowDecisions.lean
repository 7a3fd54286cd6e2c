import FraudStream.Scoring.Rules.Counters

/-
  The rule triggers of a decision, and of the record that
  compares it with the decision of the shadow rules.

  The triggers of a suspicious decision are the matched
  rules of the evaluator: the ids of the active rules that
  match, then the tagged ids of the shadow rules that match.
  The record copies them.

  Key definitions include:
    * `ShadowDecision`
    * `ShadowDecisionKafkaSink.estimateShadowScore`
    * `ShadowDecisionKafkaSink.buildRecord`

  Main results:
    * `RuleEvaluator.ruleTriggers_of_dispatch`
    * `ShadowDecisionKafkaSink.triggers_of_dispatch`
-/

------------------------------------------------------------
-- The Comparison Record
------------------------------------------------------------

namespace FraudStream

/- A record of the shadow decisions topic. -/
structure ShadowDecision where
  transactionId : Scalar
  accountId : String
  productionDecision : Decision
  productionFraudScore : PyFloat
  productionRuleTriggers : List String
  shadowDetermination : Determination
  shadowFraudScore : PyFloat
  shadowRuleTriggers : List String
  modelVersion : String
  ruleSetVersion : String
  shadowRuleSetVersion : String
  decisionTimeMs : Int
  scoreDelta : PyFloat
  decisionMismatch : Bool
  schemaVersion : String

namespace ShadowDecisionKafkaSink

/- The score of a suspicious result of a severity. -/
def severityScore : Severity → PyFloat
| .low => .ofRat (5 / 10)
| .medium => .ofRat (65 / 100)
| .high => .ofRat (8 / 10)
| .critical => .ofRat (95 / 100)

/- A suspicious result without a severity counts as
   medium. -/
def estimateShadowScore
    (shadowResult : EvaluationResult) : PyFloat :=
  if shadowResult.determination = .clean then
    .ofRat (1 / 10)
  else
    severityScore
      (shadowResult.highestSeverity.getD .medium)

def buildRecord
    (fraudDecision : FraudDecision)
    (shadowResult : EvaluationResult)
    (accountId ruleSetVersion shadowRuleSetVersion : String) :
    ShadowDecision :=
  let productionDecision := fraudDecision.decision
  let productionScore := fraudDecision.fraudScore
  let shadowDetermination := shadowResult.determination
  let shadowScore := estimateShadowScore shadowResult
  let prodAsDetermination : Determination :=
    if productionDecision = .allow then
      .clean
    else
      .suspicious
  { transactionId := fraudDecision.transactionId
    accountId := accountId
    productionDecision := productionDecision
    productionFraudScore := productionScore
    productionRuleTriggers := fraudDecision.ruleTriggers
    shadowDetermination := shadowDetermination
    shadowFraudScore := shadowScore
    shadowRuleTriggers := shadowResult.matchedRules
    modelVersion := fraudDecision.modelVersion
    ruleSetVersion := ruleSetVersion
    shadowRuleSetVersion := shadowRuleSetVersion
    decisionTimeMs := fraudDecision.decisionTimeMs
    scoreDelta := shadowScore.sub productionScore
    decisionMismatch :=
      prodAsDetermination ≠ shadowDetermination
    schemaVersion := "1" }

end ShadowDecisionKafkaSink

end FraudStream

------------------------------------------------------------
-- The Triggers Of A Decision
------------------------------------------------------------

namespace FraudStream

namespace RuleEvaluator

variable
  (rules : List RuleDefinition)
  (evaluationTimestamp : Int)
  (txn : Record)

/- The ids of the active rules that match, in order. -/
def activeIds : List String :=
  (activeMatches txn (keptRules rules)).map (·.ruleId)

/- The tagged ids of the shadow rules that match. -/
def taggedShadowIds : List String :=
  (shadowMatches txn (keptRules rules)).map
    (·.ruleId ++ ":shadow")

theorem noneRaises_of_dispatch
    {result : EvaluationResult}
    (hResult :
      (dispatch rules evaluationTimestamp txn).1 =
        .ok result) :
    NoneRaises txn (keptRules rules) ∧
      result =
        resultOfMatches rules evaluationTimestamp txn := by
  by_cases hOk : NoneRaises txn (keptRules rules)
  · rw [dispatch_of_isOk rules evaluationTimestamp txn hOk]
      at hResult
    refine ⟨hOk, ?_⟩
    injection hResult with hEq
    exact hEq.symm
  · rcases dispatch_of_raises rules evaluationTimestamp txn
      hOk with ⟨e, hError⟩
    rw [hError] at hResult
    exact absurd hResult (by simp)

/- A decision has triggers when an active rule matches, and
   then those of the shadow rules come with them. -/
theorem ruleTriggers_of_dispatch
    {result : EvaluationResult}
    (hResult :
      (dispatch rules evaluationTimestamp txn).1 =
        .ok result) :
    (buildFraudDecision txn result).ruleTriggers =
      if activeIds rules txn = [] then
        []
      else
        activeIds rules txn ++ taggedShadowIds rules txn := by
  rcases noneRaises_of_dispatch rules evaluationTimestamp
    txn hResult with ⟨-, rfl⟩
  by_cases hNone : activeMatches txn (keptRules rules) = []
  · simp [buildFraudDecision, resultOfMatches, activeIds,
      hNone]
  · simp [buildFraudDecision, resultOfMatches, activeIds,
      taggedShadowIds, hNone]

end RuleEvaluator

end FraudStream

------------------------------------------------------------
-- Active And Shadow Triggers
------------------------------------------------------------

namespace FraudStream

namespace ShadowDecisionKafkaSink

open RuleEvaluator

/- The triggers of a decision are the ids of the active
   rules that match, and tagged shadow ids after them if
   there are any; they are the active ids alone exactly
   when no rule of one of the two modes matches. The record
   has every active id, and nothing but tagged shadow ids
   after them. -/
theorem triggers_of_dispatch
    (rules : List RuleDefinition)
    (evaluationTimestamp : Int)
    (txn : Record)
    (result : EvaluationResult)
    (hResult :
      (dispatch rules evaluationTimestamp txn).1 =
        .ok result) :
    (buildFraudDecision txn result).ruleTriggers =
        (if activeIds rules txn = [] then
          []
        else
          activeIds rules txn ++ taggedShadowIds rules txn) ∧
      ((buildFraudDecision txn result).ruleTriggers =
          activeIds rules txn ↔
        activeIds rules txn = [] ∨
          taggedShadowIds rules txn = []) ∧
      ∀ shadowResult accountId version shadowVersion,
        ∃ tagged,
          (buildRecord (buildFraudDecision txn result)
              shadowResult accountId version
              shadowVersion).productionRuleTriggers =
            activeIds rules txn ++ tagged ∧
          tagged ⊆ taggedShadowIds rules txn := by
  have hTriggers :=
    ruleTriggers_of_dispatch rules evaluationTimestamp txn
      hResult
  refine ⟨hTriggers, ?_, ?_⟩
  · rw [hTriggers]
    split
    · rename_i hNone
      simp [hNone]
    · rename_i hSome
      simp [hSome]
  · intro shadowResult accountId version shadowVersion
    simp only [buildRecord, hTriggers]
    split
    · rename_i hNone
      exact ⟨[], by simp [hNone], List.nil_subset _⟩
    · exact ⟨_, rfl, List.Subset.refl _⟩

/- An active rule and a shadow rule on the same count. -/
def countRules : List RuleDefinition :=
  [countRule "VEL-001" .active (.int 0),
    countRule "VEL-002" .shadow (.int 0)]

/- What all rules make of the sample record. -/
def countResult : EvaluationResult where
  determination := .suspicious
  matchedRules := ["VEL-001", "VEL-002:shadow"]
  highestSeverity := some .high
  evaluationTimestamp := 1000
  missingFields := []

/- What the shadow rules make of the record. -/
def countShadowResult : EvaluationResult :=
  { countResult with matchedRules := ["VEL-002"] }

theorem dispatch_countRules :
    (dispatch countRules 1000 Job.sampleRecord).1 =
      .ok countResult := by
  rfl

theorem activeIds_countRules :
    activeIds countRules Job.sampleRecord = ["VEL-001"] := by
  rfl

theorem taggedShadowIds_countRules :
    taggedShadowIds countRules Job.sampleRecord =
      ["VEL-002:shadow"] := by
  rfl

/- The triggers of the decision and of the record come from
   both rules. -/
theorem triggers_of_count_rules :
    (buildFraudDecision Job.sampleRecord
          countResult).ruleTriggers =
        ["VEL-001"] ++ ["VEL-002:shadow"] ∧
      ((buildFraudDecision Job.sampleRecord
            countResult).ruleTriggers = ["VEL-001"] ↔
        ["VEL-001"] = [] ∨ ["VEL-002:shadow"] = []) ∧
      ∀ shadowResult accountId version shadowVersion,
        ∃ tagged,
          (buildRecord
              (buildFraudDecision Job.sampleRecord
                countResult)
              shadowResult accountId version
              shadowVersion).productionRuleTriggers =
            ["VEL-001"] ++ tagged ∧
          tagged ⊆ ["VEL-002:shadow"] := by
  have hTriggers :=
    triggers_of_dispatch countRules 1000 Job.sampleRecord
      countResult dispatch_countRules
  rw [activeIds_countRules, taggedShadowIds_countRules]
    at hTriggers
  exact hTriggers

/- The tagged shadow rule is among the triggers of the
   decision and of the record. -/
theorem shadow_rule_among_triggers :
    (dispatch countRules 1000 Job.sampleRecord).1 =
        .ok countResult ∧
      activeIds countRules Job.sampleRecord =
        ["VEL-001"] ∧
      (buildFraudDecision Job.sampleRecord
          countResult).ruleTriggers =
        ["VEL-001", "VEL-002:shadow"] ∧
      (buildRecord
          (buildFraudDecision Job.sampleRecord countResult)
          countShadowResult "acc-001" "unknown"
          "unknown").productionRuleTriggers =
        ["VEL-001", "VEL-002:shadow"] :=
  ⟨dispatch_countRules, activeIds_countRules, rfl, rfl⟩

end ShadowDecisionKafkaSink

end FraudStream
