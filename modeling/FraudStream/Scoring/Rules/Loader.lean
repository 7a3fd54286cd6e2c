import FraudStream.Scoring.Rules.Models

/-
  Loading rules from a file.

  Reading the file and parsing its text are parameters: a
  file may be missing, and a text may be no document. The
  load fails on the first invalid entry and returns the
  enabled rules in file order.

  Key definitions include:
    * `RuleConfigError`
    * `RuleLoader.load`
    * `LoaderAccepts`
-/

namespace FraudStream

/- The reasons for which a rules file is rejected. -/
inductive RuleConfigError where
| notFound : (path : String) → RuleConfigError
| malformed : (path exc : String) → RuleConfigError
| notAList : RuleConfigError
| invalidRule : (index : Nat) → ValidationError →
    RuleConfigError
deriving DecidableEq, Repr

/- The message of the error, up to the list of fields. -/
def RuleConfigError.message : RuleConfigError → String
| .notFound path => "Rules file not found: " ++ path
| .malformed path exc =>
    "Malformed YAML in " ++ path ++ ": " ++ exc
| .notAList => "Rules config must be a YAML list"
| .invalidRule index _ =>
    "Invalid rule config at index " ++ toString index

namespace RuleLoader

/- Validate the entries from an index on. -/
def validateFrom
    (index : Nat) :
    List PyVal → Except RuleConfigError (List RuleDefinition)
| [] => .ok []
| item :: items =>
    match RuleDefinition.modelValidate item with
    | .error e => .error (.invalidRule index e)
    | .ok rule =>
        match validateFrom (index + 1) items with
        | .error e => .error e
        | .ok rules => .ok (rule :: rules)

/- The enabled rules of a parsed document. -/
def loadDocument :
    PyVal → Except RuleConfigError (List RuleDefinition)
| .list items =>
    match validateFrom 0 items with
    | .error e => .error e
    | .ok rules => .ok (rules.filter (·.enabled))
| _ => .error .notAList

def load
    (readFile : String → Option String)
    (safeLoad : String → Except String PyVal)
    (path : String) :
    Except RuleConfigError (List RuleDefinition) :=
  match readFile path with
  | none => .error (.notFound path)
  | some content =>
      match safeLoad content with
      | .error exc => .error (.malformed path exc)
      | .ok data => loadDocument data

/- Every item of an accepted document validates. -/
theorem validateFrom_ok_iff
    (index : Nat)
    (items : List PyVal)
    (rules : List RuleDefinition) :
    validateFrom index items = .ok rules ↔
      List.Forall₂
        (fun item rule =>
          RuleDefinition.modelValidate item = .ok rule)
        items rules := by
  induction items generalizing index rules with
  | nil => simp [validateFrom, eq_comm]
  | cons item items ih =>
      rw [List.forall₂_cons_left_iff, validateFrom]
      cases hItem : RuleDefinition.modelValidate item with
      | error e => simp
      | ok rule =>
          cases hItems : validateFrom (index + 1) items with
          | error e =>
              simp [← ih (index + 1), hItems]
          | ok rules' =>
              simp only [← ih (index + 1), hItems,
                Except.ok.injEq]
              constructor
              · rintro rfl
                exact ⟨rule, rules', rfl, rfl, rfl⟩
              · rintro ⟨_, _, rfl, rfl, rfl⟩
                rfl

end RuleLoader

/- The rules come out of loading some rules file. -/
def LoaderAccepts (rules : List RuleDefinition) : Prop :=
  ∃ readFile safeLoad path,
    RuleLoader.load readFile safeLoad path = .ok rules

/- Loaded rules come from a parsed document. -/
theorem loaderAccepts_iff
    (rules : List RuleDefinition) :
    LoaderAccepts rules ↔
      ∃ data, RuleLoader.loadDocument data = .ok rules := by
  constructor
  · rintro ⟨readFile, safeLoad, path, hLoad⟩
    unfold RuleLoader.load at hLoad
    split at hLoad
    · cases hLoad
    · split at hLoad
      · cases hLoad
      · exact ⟨_, hLoad⟩
  · rintro ⟨data, hData⟩
    exact ⟨fun _ => some "", fun _ => .ok data, "", hData⟩

/- A loaded file is a list of valid items. -/
theorem RuleLoader.load_ok_iff
    (readFile : String → Option String)
    (safeLoad : String → Except String PyVal)
    (path : String)
    (rules : List RuleDefinition) :
    RuleLoader.load readFile safeLoad path = .ok rules ↔
      ∃ content items all,
        readFile path = some content ∧
        safeLoad content = .ok (.list items) ∧
        List.Forall₂
          (fun item rule =>
            RuleDefinition.modelValidate item = .ok rule)
          items all ∧
        rules = all.filter (·.enabled) := by
  simp only [← RuleLoader.validateFrom_ok_iff 0]
  constructor
  · intro hLoad
    unfold RuleLoader.load at hLoad
    split at hLoad
    · cases hLoad
    · rename_i content hFile
      split at hLoad
      · cases hLoad
      · rename_i data hData
        unfold RuleLoader.loadDocument at hLoad
        split at hLoad
        · rename_i items
          split at hLoad
          · cases hLoad
          · rename_i all hAll
            exact
              ⟨content, items, all, hFile, hData, hAll,
                (Except.ok.inj hLoad).symm⟩
        · cases hLoad
  · rintro ⟨content, items, all, hFile, hData, hAll, rfl⟩
    simp only [RuleLoader.load, hFile, hData,
      RuleLoader.loadDocument, hAll]

/- Every loaded rule is enabled. -/
theorem enabled_of_loaderAccepts
    {rules : List RuleDefinition}
    (hLoaded : LoaderAccepts rules) :
    ∀ rule ∈ rules, rule.enabled := by
  rcases hLoaded with ⟨readFile, safeLoad, path, hLoad⟩
  rcases (RuleLoader.load_ok_iff _ _ _ _).1 hLoad with
    ⟨content, items, all, -, -, -, rfl⟩
  intro rule hMem
  exact (List.mem_filter.1 hMem).2

end FraudStream
