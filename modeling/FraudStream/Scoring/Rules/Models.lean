import FraudStream.Library.Dict
import FraudStream.Library.PyValue

/-
  Rule definitions and their validation.

  A rules file is a list of mappings, one a rule. Each field
  is converted the way a lax validator converts it; a rule
  is rejected with the list of the fields at fault.

  Key definitions include:
    * `RuleFamily`
    * `RuleMode`
    * `Severity`
    * `RuleDefinition`
    * `RuleDefinition.modelValidate`
-/

------------------------------------------------------------
-- Rules
------------------------------------------------------------

namespace FraudStream

inductive RuleFamily where
| velocity
| impossibleTravel
| newDevice
deriving DecidableEq, Repr

inductive RuleMode where
| active
| shadow
deriving DecidableEq, Repr

inductive Severity where
| low
| medium
| high
| critical
deriving DecidableEq, Repr

namespace RuleFamily

def value : RuleFamily → String
| .velocity => "velocity"
| .impossibleTravel => "impossible_travel"
| .newDevice => "new_device"

def all : List RuleFamily :=
  [.velocity, .impossibleTravel, .newDevice]

end RuleFamily

namespace RuleMode

def value : RuleMode → String
| .active => "active"
| .shadow => "shadow"

def all : List RuleMode :=
  [.active, .shadow]

end RuleMode

namespace Severity

def value : Severity → Nat
| .low => 0
| .medium => 1
| .high => 2
| .critical => 3

def name : Severity → String
| .low => "low"
| .medium => "medium"
| .high => "high"
| .critical => "critical"

def all : List Severity :=
  [.low, .medium, .high, .critical]

end Severity

/- The conditions of a rule, whatever the file holds. -/
abbrev Conditions := Dict String PyVal

structure RuleDefinition where
  ruleId : String
  name : String
  family : RuleFamily
  conditions : Conditions
  severity : Severity
  enabled : Bool
  mode : RuleMode

end FraudStream

------------------------------------------------------------
-- Field Conversions
------------------------------------------------------------

namespace FraudStream

namespace RuleDefinition

def isAsciiAlphanum (c : Char) : Bool :=
  ('a' ≤ c && c ≤ 'z') || ('A' ≤ c && c ≤ 'Z') ||
    ('0' ≤ c && c ≤ '9')

/- The pattern of rule identifiers. Its `$` also matches
   before a final line break. -/
def ruleIdMatches (v : String) : Bool :=
  let cs := v.toList
  let body :=
    if cs.getLast? = some '\n' then cs.dropLast else cs
  2 ≤ body.length && body.length ≤ 64 &&
    body.head?.any isAsciiAlphanum &&
    body.getLast?.any isAsciiAlphanum &&
    body.all (fun c =>
      isAsciiAlphanum c || c = '-' || c = '_')

def validateRuleId : PyVal → Option String
| .scalar (.str v) => if ruleIdMatches v then some v else none
| _ => none

/- Pydantic's documented conversion to `str` in lax mode: a
   string, or bytes that are its UTF-8 encoding. -/
def laxString : PyVal → Option String
| .scalar (.str s) => some s
| .bytes bs => String.fromUTF8? ⟨bs.toArray⟩
| _ => none

/- Pydantic's documented conversion to an enumeration of
   strings: the member whose value is the string. -/
def enumMember
    {α : Type}
    (value : α → String)
    (members : List α) : PyVal → Option α
| .scalar (.str s) => members.find? (fun m => value m = s)
| _ => none

/- A mapping whose keys convert to strings. -/
def laxConditions : PyVal → Option Conditions
| .dict entries =>
    (entries.mapM (fun e =>
      (laxString e.1).map (fun k => (k, e.2)))).map
      Dict.ofList
| _ => none

def severityOfInt (n : Int) : Option Severity :=
  Severity.all.find? (fun s => (s.value : Int) = n)

/- The validator that runs first reads a string as a name;
   else the member of the given number, which by Pydantic's
   documented conversion may be a whole float or a truth
   value. -/
def coerceSeverity : PyVal → Option Severity
| .scalar (.str s) =>
    Severity.all.find? (fun m => m.name = s)
| .scalar (.int n) => severityOfInt n
| .scalar (.bool b) => severityOfInt (if b then 1 else 0)
| .scalar (.float (.finite v)) =>
    if v = ⌊v⌋ then severityOfInt ⌊v⌋ else none
| _ => none

def trueWords : List String :=
  ["1", "on", "t", "true", "y", "yes"]

def falseWords : List String :=
  ["0", "off", "f", "false", "n", "no"]

def boolOfWord (s : String) : Option Bool :=
  if s.toLower ∈ trueWords then
    some true
  else if s.toLower ∈ falseWords then
    some false
  else
    none

/- Pydantic's documented conversion to `bool` in lax mode: a
   truth value, the number 0 or 1, or a word of the two lists
   in any case, as a string or as bytes. -/
def laxBool : PyVal → Option Bool
| .scalar (.bool b) => some b
| .scalar (.int n) =>
    if n = 0 then some false
    else if n = 1 then some true
    else none
| .scalar (.float (.finite v)) =>
    if v = 0 then some false
    else if v = 1 then some true
    else none
| v => (laxString v).bind boolOfWord

end RuleDefinition

end FraudStream

------------------------------------------------------------
-- Model Validation
------------------------------------------------------------

namespace FraudStream

/- What is wrong with a field of a rule. -/
inductive FieldProblem where
| missing
| invalid
| extraForbidden
deriving DecidableEq, Repr

/- A rule entry that is not a mapping, or the fields at
   fault. -/
inductive ValidationError where
| notAMapping : ValidationError
| fields : List (String × FieldProblem) → ValidationError
deriving DecidableEq, Repr

namespace RuleDefinition

def fieldNames : List String :=
  ["rule_id", "name", "family", "conditions", "severity",
    "enabled", "mode"]

/- The value of a field of a mapping. -/
def lookupField
    (entries : List (PyVal × PyVal))
    (name : String) : Option PyVal :=
  (entries.find? (fun e => e.1.isString name)).map Prod.snd

/- Convert a field, or say what is wrong with it. -/
def convertField
    {α : Type}
    (entries : List (PyVal × PyVal))
    (name : String)
    (convert : PyVal → Option α) :
    Except (String × FieldProblem) α :=
  match lookupField entries name with
  | none => .error (name, .missing)
  | some v =>
      match convert v with
      | none => .error (name, .invalid)
      | some a => .ok a

/- The mode is active unless the mapping names one. -/
def convertMode
    (entries : List (PyVal × PyVal)) :
    Except (String × FieldProblem) RuleMode :=
  match lookupField entries "mode" with
  | none => .ok .active
  | some _ =>
      convertField entries "mode"
        (enumMember RuleMode.value RuleMode.all)

/- The text of a key, for the error of an extra field. -/
def keyText : PyVal → String
| .scalar (.str s) => s
| _ => ""

def extraFields
    (entries : List (PyVal × PyVal)) :
    List (String × FieldProblem) :=
  (entries.filter (fun e =>
    !(fieldNames.any (fun name => e.1.isString name)))).map
    (fun e => (keyText e.1, .extraForbidden))

def problemOf
    {α : Type} :
    Except (String × FieldProblem) α →
      List (String × FieldProblem)
| .ok _ => []
| .error problem => [problem]

def modelValidate :
    PyVal → Except ValidationError RuleDefinition
| .dict entries =>
    let ruleId :=
      convertField entries "rule_id" validateRuleId
    let name := convertField entries "name" laxString
    let family :=
      convertField entries "family"
        (enumMember RuleFamily.value RuleFamily.all)
    let conditions :=
      convertField entries "conditions" laxConditions
    let severity :=
      convertField entries "severity" coerceSeverity
    let enabled := convertField entries "enabled" laxBool
    let mode := convertMode entries
    let problems :=
      problemOf ruleId ++ problemOf name ++
        problemOf family ++ problemOf conditions ++
        problemOf severity ++ problemOf enabled ++
        problemOf mode ++ extraFields entries
    match ruleId, name, family, conditions, severity,
        enabled, mode, problems with
    | .ok ruleId, .ok name, .ok family, .ok conditions,
        .ok severity, .ok enabled, .ok mode, [] =>
        .ok
          { ruleId := ruleId
            name := name
            family := family
            conditions := conditions
            severity := severity
            enabled := enabled
            mode := mode }
    | _, _, _, _, _, _, _, _ => .error (.fields problems)
| _ => .error .notAMapping

end RuleDefinition

end FraudStream

------------------------------------------------------------
-- Valid Entries
------------------------------------------------------------

namespace FraudStream

namespace RuleDefinition

theorem convertField_ok_iff
    {α : Type}
    (entries : List (PyVal × PyVal))
    (name : String)
    (convert : PyVal → Option α)
    (a : α) :
    convertField entries name convert = .ok a ↔
      ∃ v, lookupField entries name = some v ∧
        convert v = some a := by
  unfold convertField
  cases lookupField entries name with
  | none => simp
  | some v =>
      cases hConvert : convert v with
      | none => simp [hConvert]
      | some a' => simp [hConvert]

/- The fields of a valid entry convert to those of the
   rule. -/
theorem modelValidate_ok
    {item : PyVal}
    {rule : RuleDefinition}
    (hValid : modelValidate item = .ok rule) :
    ∃ entries, item = .dict entries ∧
      convertField entries "rule_id" validateRuleId =
        .ok rule.ruleId ∧
      convertField entries "family"
          (enumMember RuleFamily.value RuleFamily.all) =
        .ok rule.family ∧
      convertField entries "enabled" laxBool =
        .ok rule.enabled := by
  unfold modelValidate at hValid
  split at hValid
  · rename_i entries
    dsimp only at hValid
    split at hValid
    · rename_i hId _ hFamily _ _ hEnabled _ _
      cases hValid
      exact ⟨entries, rfl, hId, hFamily, hEnabled⟩
    · cases hValid
  · cases hValid

theorem validateRuleId_eq_some_iff
    (v : PyVal)
    (ruleId : String) :
    validateRuleId v = some ruleId ↔
      v = .scalar (.str ruleId) ∧ ruleIdMatches ruleId := by
  unfold validateRuleId
  split
  · rename_i s
    by_cases hMatches : ruleIdMatches s
    · simp only [hMatches, if_true, Option.some.injEq,
        PyVal.scalar.injEq, Scalar.str.injEq]
      constructor
      · rintro rfl
        exact ⟨rfl, hMatches⟩
      · exact And.left
    · simp only [hMatches, PyVal.scalar.injEq,
        Scalar.str.injEq]
      constructor
      · intro hNone
        cases hNone
      · rintro ⟨rfl, hMatches'⟩
        exact absurd hMatches' hMatches
  · rename_i hOther
    constructor
    · intro hNone
      cases hNone
    · rintro ⟨rfl, -⟩
      exact absurd rfl (hOther ruleId)

/- A valid entry has the text of a valid identifier. -/
theorem ruleIdMatches_of_modelValidate
    {item : PyVal}
    {rule : RuleDefinition}
    (hValid : modelValidate item = .ok rule) :
    ruleIdMatches rule.ruleId := by
  rcases modelValidate_ok hValid with
    ⟨entries, -, hId, -, -⟩
  rcases (convertField_ok_iff ..).1 hId with
    ⟨v, -, hConvert⟩
  exact ((validateRuleId_eq_some_iff v _).1 hConvert).2

/- The members of a family are read from their texts. -/
theorem enumMember_family_eq_some
    {v : PyVal}
    {family : RuleFamily}
    (hMember :
      enumMember RuleFamily.value RuleFamily.all v =
        some family) :
    v = .scalar (.str family.value) := by
  unfold enumMember at hMember
  split at hMember
  · have hText := List.find?_some hMember
    rw [decide_eq_true_iff] at hText
    rw [hText]
  · cases hMember

end RuleDefinition

end FraudStream
