import FraudStream.Library.JsonImage
import FraudStream.Scoring.Rules.Loader

/-
  Mode changes of the rule management API.

  The rules live in memory, keyed by their identifiers, and
  in a YAML file that every change rewrites. Parsing and
  writing YAML and the texts that JSON uses are parameters.
  Writing the file can fail on its way at any point; spans
  and the log of a change are left out.

  Key definitions include:
    * `ManagementApi.loadRulesFromYaml`
    * `ManagementApi.writeRulesToYaml`
    * `ManagementApi.changeMode`
    * `ManagementApi.handle`
-/

------------------------------------------------------------
-- The Rules In Memory And On Disk
------------------------------------------------------------

namespace FraudStream

namespace ManagementApi

/- The libraries that read and write documents. -/
structure Codec where
  texts : JsonTexts
  safeLoad : String → Except String PyVal
  dump : PyVal → String

/- `_rules_dict` -/
abbrev RulesDict := Dict String RuleDefinition

/- `_rules_dict` and the contents of the rules file. -/
structure RuleStore where
  rulesDict : RulesDict
  file : String

/- Assign to the rule of an identifier. -/
def RuleStore.setRule
    (store : RuleStore)
    (ruleId : String)
    (rule : RuleDefinition) : RuleStore :=
  { store with
    rulesDict := Dict.put store.rulesDict ruleId rule }

/- The reasons for which the rules are not loaded. -/
inductive LoadError where
| fileNotFound : (path : String) → LoadError
| yamlError : (exc : String) → LoadError
| notAList : LoadError
| invalidRule : ValidationError → LoadError

/- Validate the items and key them; a later rule replaces an
   earlier one of its identifier. -/
def keyRules :
    List PyVal → RulesDict →
      Except ValidationError RulesDict
| [], rules => .ok rules
| item :: items, rules =>
    match RuleDefinition.modelValidate item with
    | .error e => .error e
    | .ok rule =>
        keyRules items (Dict.put rules rule.ruleId rule)

/- `_load_rules_from_yaml` -/
def loadRulesFromYaml
    (readFile : String → Option String)
    (safeLoad : String → Except String PyVal)
    (yamlPath : String) : Except LoadError RulesDict :=
  match readFile yamlPath with
  | none => .error (.fileNotFound yamlPath)
  | some content =>
      match safeLoad content with
      | .error exc => .error (.yamlError exc)
      | .ok (.list items) =>
          (keyRules items Dict.empty).mapError .invalidRule
      | .ok _ => .error .notAList

end ManagementApi

/- The conditions as the mapping that they are. -/
def RuleDefinition.conditionsValue
    (rule : RuleDefinition) : PyVal :=
  .dict (PyVal.ofNamed rule.conditions.entries)

/- The fields of a rule with the given conditions. -/
def RuleDefinition.fieldsWith
    (rule : RuleDefinition)
    (conditions : PyVal) : List (String × PyVal) :=
  [("rule_id", .scalar (.str rule.ruleId)),
    ("name", .scalar (.str rule.name)),
    ("family", .scalar (.str rule.family.value)),
    ("conditions", conditions),
    ("severity", .scalar (.int rule.severity.value)),
    ("enabled", .scalar (.bool rule.enabled)),
    ("mode", .scalar (.str rule.mode.value))]

/- What `model_dump_json` writes of a rule. -/
def RuleDefinition.fields
    (rule : RuleDefinition) : PyVal :=
  .dict (PyVal.ofNamed
    (rule.fieldsWith rule.conditionsValue))

namespace ManagementApi

/- The rules in the order of the dictionary. -/
def RulesDict.values
    (rules : RulesDict) : List RuleDefinition :=
  rules.entries.map Prod.snd

/- The document of the rules, unless one cannot be
   serialised. -/
def rulesData
    (texts : JsonTexts)
    (rules : RulesDict) : Option PyVal :=
  ((RulesDict.values rules).mapM
    (fun rule => PyVal.throughJson texts rule.fields)).map
    .list

/- What is raised while the rules are persisted. -/
inductive PersistException where
| osError : PersistException
| other : (name : String) → PersistException
deriving DecidableEq, Repr

/- Where persisting the rules fails. What was written when a
   write fails is in the file. -/
inductive PersistFault where
| serialising : PersistException → PersistFault
| opening : PersistException → PersistFault
| writing : (written : Nat) → PersistException →
    PersistFault
| chmod : PersistException → PersistFault
deriving DecidableEq, Repr

/- `_write_rules_to_yaml`: what it raises, if anything, and
   the contents of the file afterwards. -/
def writeRulesToYaml
    (codec : Codec)
    (fault : Option PersistFault)
    (store : RuleStore) :
    Option PersistException × String :=
  match fault with
  | some (.serialising e) => (some e, store.file)
  | fault =>
      match rulesData codec.texts store.rulesDict with
      | none => (some (.other "ValueError"), store.file)
      | some data =>
          let text := codec.dump data
          match fault with
          | some (.opening e) => (some e, store.file)
          | some (.writing written e) =>
              (some e, String.ofList (text.toList.take written))
          | some (.chmod e) => (some e, text)
          | _ => (none, text)

end ManagementApi

end FraudStream

------------------------------------------------------------
-- Requests
------------------------------------------------------------

namespace FraudStream

namespace ManagementApi

structure DemotePromoteResponse where
  ruleId : String
  previousMode : RuleMode
  newMode : RuleMode
  configEventPublished : Bool
deriving DecidableEq, Repr

inductive Answer where
| ok : DemotePromoteResponse → Answer
| error : (status : Nat) → (detail : String) → Answer
deriving DecidableEq, Repr

def Answer.status : Answer → Nat
| .ok _ => 200
| .error status _ => status

/- A demote or promote request: the mode it asks for, what
   the key check and the rate limit say of it, and where
   persisting fails. -/
structure ModeRequest where
  ruleId : String
  newMode : RuleMode
  authorized : Bool
  withinLimit : Bool
  fault : Option PersistFault
deriving DecidableEq, Repr

/- `_RULE_ID_PATTERN` of the path: here no line break may
   follow the identifier. -/
def pathMatches (ruleId : String) : Bool :=
  RuleDefinition.ruleIdMatches ruleId &&
    ruleId.toList.getLast? ≠ some '\n'

def notFound (ruleId : String) : Answer :=
  .error 404 ("Rule " ++ ruleId ++ " not found")

def alreadyInMode
    (ruleId : String)
    (mode : RuleMode) : Answer :=
  .error 409
    ("Rule " ++ ruleId ++ " is already in " ++ mode.value ++
      " mode")

def writeFailed : Answer :=
  .error 500 "Internal server error"

/- The answer to an exception that no handler catches. -/
def unhandled : Answer :=
  .error 500 "Internal Server Error"

/- The body of both handlers, inside the lock. -/
def changeMode
    (codec : Codec)
    (newMode : RuleMode)
    (ruleId : String)
    (fault : Option PersistFault)
    (store : RuleStore) : Answer × RuleStore :=
  match Dict.get? store.rulesDict ruleId with
  | none => (notFound ruleId, store)
  | some rule =>
      if rule.mode = newMode then
        (alreadyInMode ruleId newMode, store)
      else
        let flipped :=
          store.setRule ruleId { rule with mode := newMode }
        match writeRulesToYaml codec fault flipped with
        | (none, file) =>
            (.ok
                { ruleId := ruleId
                  previousMode := rule.mode
                  newMode := newMode
                  configEventPublished := false },
              { flipped with file := file })
        | (some .osError, file) =>
            -- The mode of the rule is put back.
            (writeFailed,
              { flipped.setRule ruleId rule with
                file := file })
        | (some (.other _), file) =>
            (unhandled, { flipped with file := file })

/- `demote_rule` -/
def demoteRule
    (codec : Codec) :=
  changeMode codec .shadow

/- `promote_rule` -/
def promoteRule
    (codec : Codec) :=
  changeMode codec .active

/- A request, from its arrival to its answer. -/
def handle
    (codec : Codec)
    (request : ModeRequest)
    (store : RuleStore) : Answer × RuleStore :=
  if !request.authorized then
    (.error 401 "Unauthorized", store)
  else if !pathMatches request.ruleId then
    (.error 422 "string_pattern_mismatch", store)
  else if !request.withinLimit then
    (.error 429 "Rate limit exceeded", store)
  else
    match request.newMode with
    | .shadow =>
        demoteRule codec request.ruleId request.fault store
    | .active =>
        promoteRule codec request.ruleId request.fault store

end ManagementApi

end FraudStream

------------------------------------------------------------
-- What A Request Can Do
------------------------------------------------------------

namespace FraudStream

namespace ManagementApi

/- A request gets to the handler. -/
def ModeRequest.admitted (request : ModeRequest) : Bool :=
  request.authorized && pathMatches request.ruleId &&
    request.withinLimit

theorem handle_of_admitted
    (codec : Codec)
    {request : ModeRequest}
    (hAdmitted : request.admitted)
    (store : RuleStore) :
    handle codec request store =
      changeMode codec request.newMode request.ruleId
        request.fault store := by
  simp only [ModeRequest.admitted, Bool.and_eq_true]
    at hAdmitted
  unfold handle
  cases hMode : request.newMode <;>
    simp [hAdmitted, demoteRule, promoteRule]

/- A request that is turned away changes nothing. -/
theorem handle_of_not_admitted
    (codec : Codec)
    {request : ModeRequest}
    (hRefused : ¬ request.admitted)
    (store : RuleStore) :
    (handle codec request store).1.status ≠ 200 ∧
      (handle codec request store).2 = store := by
  unfold handle
  by_cases hAuthorized : request.authorized
  · by_cases hPath : pathMatches request.ruleId
    · by_cases hLimit : request.withinLimit
      · simp [ModeRequest.admitted, hAuthorized, hPath,
          hLimit] at hRefused
      · simp [hAuthorized, hPath, hLimit, Answer.status]
    · simp [hAuthorized, hPath, Answer.status]
  · simp [hAuthorized, Answer.status]

/- A write completes when nothing fails and every rule can
   be serialised. -/
theorem writeRulesToYaml_completes_iff
    (codec : Codec)
    (fault : Option PersistFault)
    (store : RuleStore)
    (file : String) :
    writeRulesToYaml codec fault store = (none, file) ↔
      fault = none ∧
        ∃ data,
          rulesData codec.texts store.rulesDict = some data ∧
          file = codec.dump data := by
  unfold writeRulesToYaml
  rcases fault with _ | (e | e | ⟨written, e⟩ | e)
  · cases rulesData codec.texts store.rulesDict <;>
      simp [eq_comm]
  all_goals
    cases rulesData codec.texts store.rulesDict <;> simp

/- A change goes through exactly when the rule is in the
   other mode and the write completes. -/
theorem changeMode_status_eq_ok
    {codec : Codec}
    {newMode : RuleMode}
    {ruleId : String}
    {fault : Option PersistFault}
    {store : RuleStore}
    (hOk :
      (changeMode codec newMode ruleId fault store).1.status =
        200) :
    ∃ rule data,
      Dict.get? store.rulesDict ruleId = some rule ∧
      rule.mode ≠ newMode ∧
      rulesData codec.texts
        (Dict.put store.rulesDict ruleId
          { rule with mode := newMode }) = some data ∧
      changeMode codec newMode ruleId fault store =
        (.ok
            { ruleId := ruleId
              previousMode := rule.mode
              newMode := newMode
              configEventPublished := false },
          { rulesDict :=
              Dict.put store.rulesDict ruleId
                { rule with mode := newMode }
            file := codec.dump data }) := by
  unfold changeMode at hOk ⊢
  cases hRule : Dict.get? store.rulesDict ruleId with
  | none => simp [hRule, notFound, Answer.status] at hOk
  | some rule =>
      by_cases hMode : rule.mode = newMode
      · simp [hRule, hMode, alreadyInMode, Answer.status]
          at hOk
      · simp only [hRule, hMode, if_false] at hOk ⊢
        rcases hWrite :
          writeRulesToYaml codec fault
            (store.setRule ruleId
              { rule with mode := newMode }) with
          ⟨e, file⟩
        rw [hWrite] at hOk
        rcases e with _ | (_ | name)
        · rcases (writeRulesToYaml_completes_iff
            _ _ _ _).1 hWrite with
            ⟨-, data, hData, rfl⟩
          exact ⟨rule, data, rfl, hMode, hData, rfl⟩
        · simp [writeFailed, Answer.status] at hOk
        · simp [unhandled, Answer.status] at hOk

end ManagementApi

end FraudStream
