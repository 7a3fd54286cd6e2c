import FraudStream.Scoring.Management.ModeRewrites

/-
  What a mode change that fails leaves behind.

  Opening the file for writing empties it, and only an
  OSError puts the mode in memory back. A change that fails
  therefore leaves both as they were only if it fails with
  an OSError before the file is opened, or the file happens
  to hold its old text again.

  Main declarations:
    * `ManagementApi.Atomic`
    * `ManagementApi.reachesPersist`
    * `ManagementApi.RestoredBy`
    * `ManagementApi.handle_atomic_iff`
-/

------------------------------------------------------------
-- Failed Writes
------------------------------------------------------------

namespace FraudStream

namespace ManagementApi

/- An answer other than 200 comes with the store as it was
   before. -/
def Atomic
    (before : RuleStore)
    (result : Answer × RuleStore) : Prop :=
  result.1.status ≠ 200 → result.2 = before

/- The store with the mode flipped, when a request gets as
   far as persisting it. -/
def reachesPersist
    (request : ModeRequest)
    (store : RuleStore) : Option RuleStore :=
  if request.admitted then
    (Dict.get? store.rulesDict request.ruleId).bind
      (fun rule =>
        if rule.mode = request.newMode then
          none
        else
          some (store.setRule request.ruleId
            { rule with mode := request.newMode }))
  else
    none

/- Persisting a flipped store completes, or fails in a way
   that leaves the old text in the file and lets the mode in
   memory be put back. -/
def RestoredBy
    (codec : Codec)
    (flipped : RuleStore) : Option PersistFault → Prop
| none => (rulesData codec.texts flipped.rulesDict).isSome
| some (.serialising e) => e = .osError
| some (.opening e) =>
    e = .osError ∧
      (rulesData codec.texts flipped.rulesDict).isSome
| some (.writing written e) =>
    e = .osError ∧
      ∃ data,
        rulesData codec.texts flipped.rulesDict =
          some data ∧
        String.ofList
          ((codec.dump data).toList.take written) =
          flipped.file
| some (.chmod e) =>
    e = .osError ∧
      ∃ data,
        rulesData codec.texts flipped.rulesDict =
          some data ∧
        codec.dump data = flipped.file

/- What a write that went wrong must be like for the store
   to be restored. -/
def Restorable
    (flipped : RuleStore) :
    Option PersistException × String → Prop
| (none, _) => True
| (some .osError, file) => file = flipped.file
| (some (.other _), _) => False

theorem restorable_iff
    (codec : Codec)
    (flipped : RuleStore)
    (fault : Option PersistFault) :
    Restorable flipped (writeRulesToYaml codec fault flipped) ↔
      RestoredBy codec flipped fault := by
  unfold writeRulesToYaml
  cases hData :
      rulesData codec.texts flipped.rulesDict with
  | none =>
      rcases fault with
        _ | ((_ | _) | (_ | _) | ⟨written, (_ | _)⟩ |
          (_ | _)) <;>
        simp [Restorable, RestoredBy, hData]
  | some data =>
      rcases fault with
        _ | ((_ | _) | (_ | _) | ⟨written, (_ | _)⟩ |
          (_ | _)) <;>
        simp [Restorable, RestoredBy, hData]

/- A change of a mode is seen in memory. -/
theorem setRule_ne
    {store : RuleStore}
    {ruleId : String}
    {rule : RuleDefinition}
    {newMode : RuleMode}
    (hRule : Dict.get? store.rulesDict ruleId = some rule)
    (hMode : rule.mode ≠ newMode)
    (file : String) :
    { store.setRule ruleId { rule with mode := newMode } with
      file := file } ≠ store := by
  intro hSame
  have hRead :=
    congrArg (fun s => Dict.get? s.rulesDict ruleId) hSame
  simp only [RuleStore.setRule, Dict.get?_put, if_true,
    hRule, Option.some.injEq] at hRead
  exact hMode (congrArg RuleDefinition.mode hRead).symm

/- Putting a rule back restores the memory. -/
theorem setRule_setRule
    {store : RuleStore}
    {ruleId : String}
    {rule : RuleDefinition}
    (rule' : RuleDefinition)
    (hRule : Dict.get? store.rulesDict ruleId = some rule) :
    (store.setRule ruleId rule').setRule ruleId rule =
      store := by
  unfold RuleStore.setRule
  rw [Dict.put_put_of_get? rule' hRule]

/- A request that gets as far as persisting is atomic when
   the write is. -/
theorem atomic_changeMode_iff
    {codec : Codec}
    {store : RuleStore}
    {ruleId : String}
    {rule : RuleDefinition}
    {newMode : RuleMode}
    (fault : Option PersistFault)
    (hRule : Dict.get? store.rulesDict ruleId = some rule)
    (hMode : rule.mode ≠ newMode) :
    Atomic store
        (changeMode codec newMode ruleId fault store) ↔
      RestoredBy codec
        (store.setRule ruleId { rule with mode := newMode })
        fault := by
  rw [← restorable_iff]
  unfold changeMode
  simp only [hRule, hMode, if_false]
  rcases hWrite :
    writeRulesToYaml codec fault
      (store.setRule ruleId { rule with mode := newMode })
    with ⟨_ | (_ | name), file⟩
  · simp [Atomic, Restorable, Answer.status]
  · -- The rule is put back: the file decides.
    have hRestored :=
      setRule_setRule { rule with mode := newMode } hRule
    simp only [Atomic, Restorable, writeFailed,
      Answer.status, hRestored]
    constructor
    · intro hBefore
      exact congrArg RuleStore.file (hBefore (by omega))
    · rintro rfl _
      rfl
  · -- The mode stays flipped.
    have hFlipped := setRule_ne hRule hMode file
    simp [Atomic, Restorable, unhandled, Answer.status,
      hFlipped]

/-
  A request that is not answered with 200 leaves the rules
  in memory and the file as they were exactly when it does
  not get as far as persisting, or persisting completes or
  fails harmlessly.
-/
theorem handle_atomic_iff
    (codec : Codec)
    (request : ModeRequest)
    (store : RuleStore) :
    Atomic store (handle codec request store) ↔
      ∀ flipped,
        reachesPersist request store = some flipped →
          RestoredBy codec flipped request.fault := by
  unfold reachesPersist
  by_cases hAdmitted : request.admitted
  · rw [handle_of_admitted codec hAdmitted, if_pos hAdmitted]
    cases hRule : Dict.get? store.rulesDict request.ruleId with
    | none => simp [Atomic, changeMode, hRule]
    | some rule =>
        by_cases hMode : rule.mode = request.newMode
        · simp [Atomic, changeMode, hRule, hMode]
        · rw [atomic_changeMode_iff request.fault hRule hMode]
          simp [hMode]
  · have hRefused :=
      handle_of_not_admitted codec hAdmitted store
    simp [Atomic, hAdmitted, hRefused.2]

/- A disk that is full when the file has been opened: the
   mode is put back, but the file is left empty. -/
theorem full_disk_empties_file :
    loadRulesFromYaml (fun _ => some (sampleText .active))
        sampleCodec.safeLoad "rules.yaml" =
        .ok (keyedRules [sampleRule .active]) ∧
      handle sampleCodec
        { sampleRequest .shadow with
          fault := some (.writing 0 .osError) }
        { rulesDict := keyedRules [sampleRule .active]
          file := sampleText .active } =
        (.error 500 "Internal server error",
          { rulesDict := keyedRules [sampleRule .active]
            file := "" }) ∧
      ¬ Atomic
        { rulesDict := keyedRules [sampleRule .active]
          file := sampleText .active }
        (handle sampleCodec
          { sampleRequest .shadow with
            fault := some (.writing 0 .osError) }
          { rulesDict := keyedRules [sampleRule .active]
            file := sampleText .active }) := by
  have hHandle :
      handle sampleCodec
        { sampleRequest .shadow with
          fault := some (.writing 0 .osError) }
        { rulesDict := keyedRules [sampleRule .active]
          file := sampleText .active } =
        (.error 500 "Internal server error",
          { rulesDict := keyedRules [sampleRule .active]
            file := "" }) := by
    rw [handle_of_admitted _ rfl, changeMode]
    simp only [sampleRequest, get?_sample, RuleStore.setRule,
      put_sample, writeRulesToYaml, rulesData_sample]
    rfl
  refine ⟨loadRulesFromYaml_sample .active, hHandle, ?_⟩
  rw [hHandle]
  intro hAtomic
  have hFile :=
    congrArg RuleStore.file (hAtomic (by decide))
  revert hFile
  change ¬ "" = sampleText .active
  decide

end ManagementApi

end FraudStream
