import FraudStream.Scoring.Rules.Evaluator

/-
  The evaluation step of the job: an optional alert and a
  decision for every record.

  An exception of the evaluator is caught, counted, and
  turned into the decision that allows the transaction.

  Key definitions include:
    * `FraudAlert`
    * `FraudDecision`
    * `buildFraudDecision`
    * `evaluateRecord`
-/

namespace FraudStream

inductive Decision where
| allow
| flag
| block
deriving DecidableEq, Repr

/- The order ALLOW < FLAG < BLOCK. -/
def Decision.rank : Decision → Nat
| .allow => 0
| .flag => 1
| .block => 2

structure FraudAlert where
  transactionId : Scalar
  accountId : Scalar
  matchedRuleNames : List String
  severity : Severity
  evaluationTimestamp : Int
deriving DecidableEq

structure FraudDecision where
  transactionId : Scalar
  decision : Decision
  fraudScore : PyFloat
  ruleTriggers : List String
  modelVersion : String
  decisionTimeMs : Int
  latencyMs : PyFloat
  schemaVersion : String
  shadowDetermination : Option Determination
  shadowFraudScore : Option PyFloat
  shadowRuleTriggers : Option (List String)
deriving DecidableEq

/- `txn.get(name, "")` -/
def Record.getOrEmpty
    (txn : Record)
    (name : String) : Scalar :=
  (txn.get? name).getD (.str "")

/- The decision on a suspicious record of a severity. -/
def decisionOfSeverity : Severity → Decision
| .low => .flag
| .medium => .flag
| .high => .block
| .critical => .block

def buildFraudDecision
    (txn : Record)
    (result : EvaluationResult) : FraudDecision :=
  let isClean := result.determination = .clean
  let decision :=
    if isClean then
      .allow
    else
      decisionOfSeverity
        (result.highestSeverity.getD .low)
  { transactionId := txn.getOrEmpty "transaction_id"
    decision := decision
    fraudScore :=
      if isClean then .finite 0
      else if decision = .flag then .ofRat (3 / 10)
      else .ofRat (8 / 10)
    ruleTriggers :=
      if isClean then [] else result.matchedRules
    modelVersion := "rule-only"
    decisionTimeMs := result.evaluationTimestamp
    latencyMs := .finite 0
    schemaVersion := "1"
    shadowDetermination := none
    shadowFraudScore := none
    shadowRuleTriggers := none }

/- The alert on a suspicious record. -/
def buildFraudAlert
    (txn : Record)
    (result : EvaluationResult) : Option FraudAlert :=
  if result.determination = .suspicious then
    some
      { transactionId := txn.getOrEmpty "transaction_id"
        accountId := txn.getOrEmpty "account_id"
        matchedRuleNames := result.matchedRules
        severity := result.highestSeverity.getD .low
        evaluationTimestamp := result.evaluationTimestamp }
  else
    none

/- The decision on a record whose evaluation raised. -/
def defaultDecision (txn : Record) : FraudDecision where
  transactionId := txn.getOrEmpty "transaction_id"
  decision := .allow
  fraudScore := .finite 0
  ruleTriggers := []
  modelVersion := "rule-only"
  decisionTimeMs := 0
  latencyMs := .finite 0
  schemaVersion := "1"
  shadowDetermination := none
  shadowFraudScore := none
  shadowRuleTriggers := none

/- `_evaluate` -/
def evaluateRecord
    (rules : List RuleDefinition)
    (evaluationTimestamp : Int)
    (txn : Record) :
    (Option FraudAlert × FraudDecision) × List Metric :=
  match RuleEvaluator.dispatch rules evaluationTimestamp
      txn with
  | (.ok result, metrics) =>
      ((buildFraudAlert txn result,
          buildFraudDecision txn result), metrics)
  | (.error _, metrics) =>
      ((none, defaultDecision txn),
        metrics ++ [.evaluationErrors])

end FraudStream
