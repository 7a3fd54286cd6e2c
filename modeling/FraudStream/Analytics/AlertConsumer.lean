import FraudStream.Scoring.AlertFormat
import FraudStream.Scoring.Rules.Counters

/-
  The dashboard's view of an alert: what the consumer makes
  of the Avro record that the Kafka sink writes.

  The consumer maps the severity of the alert to a decision
  of its own, which is compared with the persisted decision.

  Key definitions include:
    * `AnalyticsConsumer.deserialize`
    * `AnalyticsConsumer.severityToDecision`

  The main result is `AnalyticsConsumer.agrees_iff`.
-/

------------------------------------------------------------
-- The Consumer
------------------------------------------------------------

namespace FraudStream

namespace AnalyticsConsumer

/- `datetime.fromtimestamp(millis / 1000.0, tz=utc)`: the
   fraction of a second is rounded to microseconds. -/
def fromTimestamp (millis : Int) : Except PyError Int :=
  match PyFloat.ofRat ((millis : ℚ) / 1000) with
  | .finite seconds =>
      let whole := Scalar.truncate seconds
      match PyFloat.ofRat ((seconds - whole) * 1000000) with
      | .finite fraction =>
          let micros :=
            1000000 * whole + PyFloat.roundHalfEven fraction
          if TimestampValue.minMicros ≤ micros ∧
              micros ≤ TimestampValue.maxMicros then
            .ok micros
          else
            .error .valueError
      | _ => .error .overflowError
  | _ => .error .overflowError

/- The timestamp of a record as a datetime in UTC. -/
def toUtc : TimestampValue → Except PyError TimestampValue
| .int millis => do
    let micros ← fromTimestamp millis
    pure (.datetime micros true)
| .datetime micros _ => pure (.datetime micros true)

/- The table `_SEVERITY_TO_DECISION`. -/
def severityToDecision : List (String × String) :=
  [("critical", "BLOCK"), ("high", "BLOCK"),
    ("medium", "FLAG"), ("low", "ALLOW")]

/- A fraud alert as the dashboard shows it. -/
structure FraudAlertDisplay where
  transactionId : Scalar
  accountId : Scalar
  ruleTriggers : List String
  severity : String
  decision : String
  evaluationTimestamp : TimestampValue
  receivedAt : Int
  merchantId : String
  amount : PyFloat
  currency : String
  channel : String
  fraudScore : PyFloat
  modelVersion : String

def deserialize
    (format : AlertFormat)
    (receivedAt : Int)
    (rawBytes : List UInt8) :
    Except PyError FraudAlertDisplay := do
  let record ← format.schemalessReader rawBytes
  let evalTs ← toUtc record.evaluationTimestamp
  pure
    { transactionId := record.transactionId
      accountId := record.accountId
      ruleTriggers := record.matchedRuleNames
      severity := record.severity
      decision :=
        (severityToDecision.lookup record.severity).getD
          "UNKNOWN"
      evaluationTimestamp := evalTs
      receivedAt := receivedAt
      merchantId := ""
      amount := .finite 0
      currency := ""
      channel := ""
      fraudScore := .finite 0
      modelVersion := "" }

end AnalyticsConsumer

/- The text of a decision in the decisions table. -/
def Decision.value : Decision → String
| .allow => "ALLOW"
| .flag => "FLAG"
| .block => "BLOCK"

end FraudStream

------------------------------------------------------------
-- The Highest Severity
------------------------------------------------------------

namespace FraudStream

namespace RuleEvaluator

/- The highest of some severities is low when all are. -/
theorem maxSeverity_eq_low_iff
    {l : List Severity}
    (hSome : l ≠ []) :
    maxSeverity l = some .low ↔ ∀ s ∈ l, s = .low := by
  have hLow : ∀ s : Severity, s.value ≤ 0 → s = .low := by
    intro s hValue
    cases s <;> simp [Severity.value] at hValue ⊢
  rw [maxSeverity_eq_argmax]
  constructor
  · intro hMax s hMem
    exact hLow s (List.le_of_mem_argmax hMem hMax)
  · intro hAll
    cases hMax : l.argmax Severity.value with
    | none => exact absurd (List.argmax_eq_none.1 hMax) hSome
    | some s => rw [hAll s (List.argmax_mem hMax)]

end RuleEvaluator

namespace AnalyticsConsumer

/- The two tables differ on low severities only. -/
theorem severityToDecision_eq_iff
    (s : Severity) :
    (severityToDecision.lookup s.name).getD "UNKNOWN" =
        (decisionOfSeverity s).value ↔
      s ≠ .low := by
  cases s <;> decide

/- An alert carries the highest severity of its matches, and
   the decision is the scorer's for that severity. -/
theorem alert_severity
    {rules : List RuleDefinition}
    {evaluationTimestamp : Int}
    {txn : Record}
    {alert : FraudAlert}
    (hAlert :
      (evaluateRecord rules evaluationTimestamp txn).1.1 =
        some alert) :
    (evaluateRecord rules evaluationTimestamp
          txn).1.2.decision =
        decisionOfSeverity alert.severity ∧
      (alert.severity = .low ↔
        ∀ rule ∈
            activeMatches txn
              (RuleEvaluator.keptRules rules),
          rule.severity = .low) := by
  rcases (RuleEvaluator.alert_eq_some_iff rules
    evaluationTimestamp txn alert).1 hAlert with
    ⟨hOk, hMatches, rfl⟩
  have hDispatch :=
    RuleEvaluator.dispatch_of_isOk rules evaluationTimestamp
      txn hOk
  constructor
  · simp [evaluateRecord, hDispatch, buildFraudDecision,
      RuleEvaluator.resultOfMatches, hMatches]
  · have hSome :
        (activeMatches txn
          (RuleEvaluator.keptRules rules)).map
            (·.severity) ≠ [] := by
      simpa using hMatches
    have hLow := RuleEvaluator.maxSeverity_eq_low_iff hSome
    rw [List.forall_mem_map] at hLow
    rw [← hLow]
    simp only [RuleEvaluator.resultOfMatches]
    cases hMax :
        RuleEvaluator.maxSeverity
          ((activeMatches txn
            (RuleEvaluator.keptRules rules)).map
              (·.severity)) with
    | none =>
        rw [RuleEvaluator.maxSeverity_eq_none_iff] at hMax
        exact absurd hMax hSome
    | some s => simp

/- What the dashboard shows of an alert that was written. -/
theorem deserialize_serialise
    {format : AlertFormat}
    (hDecodes : format.Decodes)
    (receivedAt : Int)
    {alert : FraudAlert}
    {rawBytes : List UInt8}
    (hEmitted :
      AlertKafkaSink.serialise format alert =
        .ok rawBytes) :
    ∃ display,
      deserialize format receivedAt rawBytes =
          .ok display ∧
        display.decision =
          (severityToDecision.lookup
            alert.severity.name).getD "UNKNOWN" := by
  have hRead := hDecodes alert.record rawBytes hEmitted
  simp only [deserialize, hRead, AlertRecord.decoded,
    FraudAlert.record, TimestampValue.decoded, toUtc, bind,
    Except.bind, pure, Except.pure]
  exact ⟨_, rfl, rfl⟩

/-
  For every rule set and every record with an alert, the
  dashboard shows the persisted decision exactly when some
  matching active rule is above low severity.
-/
theorem agrees_iff
    (format : AlertFormat)
    (hDecodes : format.Decodes)
    (rules : List RuleDefinition)
    (evaluationTimestamp receivedAt : Int)
    (txn : Record)
    (alert : FraudAlert)
    (rawBytes : List UInt8)
    (hAlert :
      (evaluateRecord rules evaluationTimestamp txn).1.1 =
        some alert)
    (hEmitted :
      AlertKafkaSink.serialise format alert =
        .ok rawBytes) :
    (∃ display,
        deserialize format receivedAt rawBytes =
            .ok display ∧
          display.decision =
            (evaluateRecord rules evaluationTimestamp
              txn).1.2.decision.value) ↔
      ∃ rule ∈
          activeMatches txn
            (RuleEvaluator.keptRules rules),
        rule.severity ≠ .low := by
  rcases alert_severity hAlert with ⟨hDecision, hLow⟩
  rcases deserialize_serialise hDecodes receivedAt hEmitted
    with ⟨display, hDisplay, hShown⟩
  have hSame :
      display.decision =
          (evaluateRecord rules evaluationTimestamp
            txn).1.2.decision.value ↔
        alert.severity ≠ .low := by
    rw [hShown, hDecision, severityToDecision_eq_iff]
  rw [hDisplay]
  simp only [Except.ok.injEq, exists_eq_left']
  rw [hSame, ne_eq, hLow]
  simp only [not_forall, exists_prop, ne_eq]

end AnalyticsConsumer

end FraudStream

------------------------------------------------------------
-- One Rule Of Low Severity
------------------------------------------------------------

namespace FraudStream

namespace AnalyticsConsumer

open Job

/- A block is shown as a block. -/
theorem agrees_high_severity :
    ∃ rawBytes display,
      AlertKafkaSink.serialise avroFormat
            (countAlert 1000 [("VEL-001", .high)]) =
          .ok rawBytes ∧
        deserialize avroFormat 2000 rawBytes =
          .ok display ∧
        display.decision =
          (evaluateRecord [countRuleAt ("VEL-001", .high)]
            1000 sampleRecord).1.2.decision.value := by
  have hWritten :
      AlertKafkaSink.serialise avroFormat
          (countAlert 1000 [("VEL-001", .high)]) =
        .ok
          (alertCodec.write
            ("txn-1", "acc-001", ["VEL-001"], .high,
              1000)) := by
    rfl
  have hMatches := matches_countRulesAt [("VEL-001", .high)]
  have hAbove :
      ∃ rule ∈
          activeMatches sampleRecord
            (RuleEvaluator.keptRules
              [countRuleAt ("VEL-001", .high)]),
        rule.severity ≠ .low := by
    rw [List.map_singleton] at hMatches
    rw [hMatches.1, hMatches.2.2.1]
    exact ⟨_, List.mem_singleton_self _, by decide⟩
  rcases
    (agrees_iff avroFormat avroFormat_decodes
      [countRuleAt ("VEL-001", .high)] 1000 2000
      sampleRecord (countAlert 1000 [("VEL-001", .high)]) _
      (evaluateRecord_countRulesAt 1000
        [("VEL-001", .high)] (List.cons_ne_nil _ _))
      hWritten).2 hAbove with
    ⟨display, hDisplay, hSame⟩
  exact ⟨_, display, hWritten, hDisplay, hSame⟩

/- A flag is shown as an allow. -/
theorem low_severity_shown_as_allow :
    (evaluateRecord [countRuleAt ("VEL-001", .low)] 1000
          sampleRecord).1.1 =
        some (countAlert 1000 [("VEL-001", .low)]) ∧
      (evaluateRecord [countRuleAt ("VEL-001", .low)] 1000
          sampleRecord).1.2.decision.value = "FLAG" ∧
      ∃ rawBytes display,
        AlertKafkaSink.serialise avroFormat
              (countAlert 1000 [("VEL-001", .low)]) =
            .ok rawBytes ∧
          deserialize avroFormat 2000 rawBytes =
            .ok display ∧
          display.decision = "ALLOW" := by
  have hAlert :
      (evaluateRecord [countRuleAt ("VEL-001", .low)] 1000
          sampleRecord).1.1 =
        some (countAlert 1000 [("VEL-001", .low)]) :=
    evaluateRecord_countRulesAt 1000 [("VEL-001", .low)]
      (List.cons_ne_nil _ _)
  have hDecision := (alert_severity hAlert).1
  have hWritten :
      AlertKafkaSink.serialise avroFormat
          (countAlert 1000 [("VEL-001", .low)]) =
        .ok
          (alertCodec.write
            ("txn-1", "acc-001", ["VEL-001"], .low,
              1000)) := by
    rfl
  rcases deserialize_serialise avroFormat_decodes 2000
    hWritten with ⟨display, hDisplay, hShown⟩
  refine
    ⟨hAlert, ?_, _, display, hWritten, hDisplay, ?_⟩
  · rw [hDecision]
    rfl
  · rw [hShown]
    rfl

end AnalyticsConsumer

end FraudStream
