import FraudStream.Library.Dict
import FraudStream.Library.LastStamp
import Mathlib.Data.Int.Basic

/-
  The listeners that observe the circuit breakers.

  A breaker tells its listener of each transition, with the
  old and the new state. The listeners compare the new state
  with the labels of a gauge, whose label for the half-open
  state is not the name of that state. How a state compares
  with a text is a parameter.

  Key definitions include:
    * `StateValues`
    * `FraudCircuitBreakerListener.stateChange`
    * `IcebergCircuitBreakerListener.stateChange`
    * `BreakerObserved`
    * `ReadsStates`

  Main results:
    * `breakerObserved_iff`
    * `readsStates_names_iff`
    * `not_readsStates_of_objects`
-/

------------------------------------------------------------
-- States
------------------------------------------------------------

namespace FraudStream

inductive BreakerState where
| closed
| open
| halfOpen
deriving DecidableEq, Repr

namespace BreakerState

/- The name that the breaker gives to its state. -/
def name : BreakerState → String
| .closed => "closed"
| .open => "open"
| .halfOpen => "half-open"

/- The label of the gauges for a state. -/
def gaugeLabel : BreakerState → String
| .closed => "closed"
| .open => "open"
| .halfOpen => "half_open"

end BreakerState

/- What a listener is given as a state: the state that it
   stands for, `value == text`, `str(value)`, and
   `value != other`. -/
structure StateValues (ν : Type) where
  state : ν → BreakerState
  equalsText : ν → String → Bool
  text : ν → String
  unequal : ν → ν → Bool

/- States that are given as their names. -/
def stateNames : StateValues BreakerState where
  state := id
  equalsText := fun s text => s.name = text
  text := BreakerState.name
  unequal := fun s t => s.name ≠ t.name

/- A transition that a listener is told of, and the clock
   when it is. -/
structure StateChange (ν : Type) where
  oldState : ν
  newState : ν
  now : Int
deriving Repr

end FraudStream

------------------------------------------------------------
-- Listeners
------------------------------------------------------------

namespace FraudStream

/- The values of a gauge, by the label `state`. -/
abbrev Gauge := Dict String Int

def gaugeLabels : List String :=
  ["closed", "open", "half_open"]

/- Set the gauge of each label to one where the new state is
   the label, and to zero elsewhere. -/
def Gauge.setStates
    (gauge : Gauge)
    (isNew : String → Bool) : Gauge :=
  gaugeLabels.foldl
    (fun g label => g.put label (if isNew label then 1 else 0))
    gauge

/- What the module leaves in the gauge when it is loaded. -/
def Gauge.initial : Gauge :=
  Gauge.setStates Dict.empty (fun _ => false)

structure FraudCircuitBreakerListener where
  gauge : Gauge
  openedAt : Option Int

structure IcebergCircuitBreakerListener where
  gauge : Gauge
  openTotal : Nat

variable {ν : Type}

namespace FraudCircuitBreakerListener

def new : FraudCircuitBreakerListener where
  gauge := Gauge.initial
  openedAt := none

/- `new_state == "open" and old_state != new_state` -/
def recordsOpen
    (values : StateValues ν)
    (change : StateChange ν) : Bool :=
  values.equalsText change.newState "open" &&
    values.unequal change.oldState change.newState

/- `state_change` -/
def stateChange
    (values : StateValues ν)
    (listener : FraudCircuitBreakerListener)
    (change : StateChange ν) : FraudCircuitBreakerListener where
  gauge :=
    listener.gauge.setStates
      (values.equalsText change.newState)
  openedAt :=
    if recordsOpen values change then
      some change.now
    else
      listener.openedAt

def run
    (values : StateValues ν)
    (changes : List (StateChange ν)) :
    FraudCircuitBreakerListener :=
  changes.foldl (stateChange values) new

end FraudCircuitBreakerListener

namespace IcebergCircuitBreakerListener

def new : IcebergCircuitBreakerListener where
  gauge := Gauge.initial
  openTotal := 0

/- `state_change` -/
def stateChange
    (values : StateValues ν)
    (listener : IcebergCircuitBreakerListener)
    (change : StateChange ν) :
    IcebergCircuitBreakerListener where
  gauge :=
    listener.gauge.setStates
      (fun label => label = values.text change.newState)
  openTotal :=
    if values.text change.newState = "open" then
      listener.openTotal + 1
    else
      listener.openTotal

def run
    (values : StateValues ν)
    (changes : List (StateChange ν)) :
    IcebergCircuitBreakerListener :=
  changes.foldl (stateChange values) new

end IcebergCircuitBreakerListener

end FraudStream

------------------------------------------------------------
-- What Is To Be Observed
------------------------------------------------------------

namespace FraudStream

variable {ν : Type}

/- One label of the gauge is one, that of the state. -/
def Gauge.Shows (gauge : Gauge) (state : BreakerState) :
    Prop :=
  ∀ label ∈ gaugeLabels,
    Dict.get? gauge label =
      some (if label = state.gaugeLabel then 1 else 0)

/- The transition is one into open. -/
def StateChange.entersOpen
    (values : StateValues ν)
    (change : StateChange ν) : Bool :=
  values.state change.newState = .open &&
    values.state change.oldState ≠ .open

/- The time of the most recent transition into open. -/
def lastOpened
    (values : StateValues ν)
    (changes : List (StateChange ν)) : Option Int :=
  LastStamp.last (fun change => some change.now)
    (StateChange.entersOpen values) none changes

/- After each transition both gauges show the current state,
   and `opened_at` is the time of the last opening. -/
structure BreakerObserved
    (values : StateValues ν)
    (changes : List (StateChange ν)) : Prop where
  fraudGauge :
    ∀ before change, before ++ [change] <+: changes →
      (FraudCircuitBreakerListener.run values
          (before ++ [change])).gauge.Shows
        (values.state change.newState)
  openedAt :
    ∀ before, before <+: changes →
      (FraudCircuitBreakerListener.run values
          before).openedAt =
        lastOpened values before
  icebergGauge :
    ∀ before change, before ++ [change] <+: changes →
      (IcebergCircuitBreakerListener.run values
          (before ++ [change])).gauge.Shows
        (values.state change.newState)

/- Each new state equals, and prints as, the label of its
   state and no other, and is told from the old state when
   it is an opening. A time that is recorded already may be
   recorded again, or left. -/
structure ReadsStates
    (values : StateValues ν)
    (changes : List (StateChange ν)) : Prop where
  equal :
    ∀ change ∈ changes, ∀ label ∈ gaugeLabels,
      values.equalsText change.newState label =
        decide
          (label =
            (values.state change.newState).gaugeLabel)
  printed :
    ∀ change ∈ changes,
      values.text change.newState =
        (values.state change.newState).gaugeLabel
  opens :
    ∀ before change, before ++ [change] <+: changes →
      FraudCircuitBreakerListener.recordsOpen values
          change ≠
        change.entersOpen values →
      some change.now = lastOpened values before

end FraudStream

------------------------------------------------------------
-- Gauges And Times
------------------------------------------------------------

namespace FraudStream

variable {ν : Type}
variable {values : StateValues ν}

theorem get?_setStates
    (gauge : Gauge)
    (isNew : String → Bool)
    {label : String}
    (hLabel : label ∈ gaugeLabels) :
    Dict.get? (gauge.setStates isNew) label =
      some (if isNew label then 1 else 0) := by
  simp only [Gauge.setStates, gaugeLabels, List.foldl_cons,
    List.foldl_nil, Dict.get?_put]
  simp only [gaugeLabels, List.mem_cons, List.not_mem_nil,
    or_false] at hLabel
  rcases hLabel with rfl | rfl | rfl <;> simp

/- The gauge shows a state when it was set by a comparison
   that only the label of the state passes. -/
theorem shows_setStates_iff
    (gauge : Gauge)
    (isNew : String → Bool)
    (state : BreakerState) :
    (gauge.setStates isNew).Shows state ↔
      ∀ label ∈ gaugeLabels,
        isNew label = decide (label = state.gaugeLabel) := by
  constructor
  · intro hShows label hLabel
    have hValue := hShows label hLabel
    rw [get?_setStates gauge isNew hLabel] at hValue
    by_cases hState : label = state.gaugeLabel
    · simpa [hState] using hValue
    · simpa [hState] using hValue
  · intro hNew label hLabel
    rw [get?_setStates gauge isNew hLabel, hNew label hLabel]
    simp

theorem gaugeLabel_mem (state : BreakerState) :
    state.gaugeLabel ∈ gaugeLabels := by
  cases state <;> decide

/- A text that is compared with the labels is the label of
   the state when the comparison finds that label. -/
theorem text_eq_gaugeLabel_iff
    (text : String)
    (state : BreakerState) :
    (∀ label ∈ gaugeLabels,
      decide (label = text) =
        decide (label = state.gaugeLabel)) ↔
      text = state.gaugeLabel := by
  constructor
  · intro hSame
    have hLabel := hSame _ (gaugeLabel_mem state)
    simpa [eq_comm] using hLabel
  · rintro rfl _ _
    rfl

theorem openedAt_run
    (values : StateValues ν)
    (changes : List (StateChange ν)) :
    (FraudCircuitBreakerListener.run values
        changes).openedAt =
      LastStamp.last (fun change => some change.now)
        (FraudCircuitBreakerListener.recordsOpen values)
        none changes :=
  LastStamp.read_foldl (fun change => some change.now)
    (fun _ _ => rfl) changes FraudCircuitBreakerListener.new

theorem fraudGauge_run
    (before : List (StateChange ν))
    (change : StateChange ν) :
    (FraudCircuitBreakerListener.run values
        (before ++ [change])).gauge =
      (FraudCircuitBreakerListener.run values
        before).gauge.setStates
        (values.equalsText change.newState) := by
  rw [FraudCircuitBreakerListener.run, List.foldl_append]
  rfl

theorem icebergGauge_run
    (before : List (StateChange ν))
    (change : StateChange ν) :
    (IcebergCircuitBreakerListener.run values
        (before ++ [change])).gauge =
      (IcebergCircuitBreakerListener.run values
        before).gauge.setStates
        (fun label =>
          label = values.text change.newState) := by
  rw [IcebergCircuitBreakerListener.run, List.foldl_append]
  rfl

/- A transition of a run is the last of the part that ends
   with it. -/
theorem exists_part_of_mem
    {change : StateChange ν}
    {changes : List (StateChange ν)}
    (hMem : change ∈ changes) :
    ∃ before, before ++ [change] <+: changes := by
  rcases List.append_of_mem hMem with ⟨before, after, rfl⟩
  exact ⟨before, after, by simp⟩

theorem mem_of_part
    {change : StateChange ν}
    {before changes : List (StateChange ν)}
    (hPart : before ++ [change] <+: changes) :
    change ∈ changes :=
  hPart.subset (by simp)

/- The listeners observe their breakers exactly when they
   read the states that they are given. -/
theorem breakerObserved_iff
    (values : StateValues ν)
    (changes : List (StateChange ν)) :
    BreakerObserved values changes ↔
      ReadsStates values changes := by
  have hOpened :
      (∀ before, before <+: changes →
        (FraudCircuitBreakerListener.run values
            before).openedAt =
          lastOpened values before) ↔
        ∀ before change, before ++ [change] <+: changes →
          FraudCircuitBreakerListener.recordsOpen values
              change ≠
            change.entersOpen values →
          some change.now = lastOpened values before := by
    simp only [openedAt_run, lastOpened]
    exact LastStamp.last_eq_last_iff _ _ _ none changes
  constructor
  · intro hObserved
    refine ⟨?_, ?_, hOpened.1 hObserved.openedAt⟩
    · intro change hMem
      rcases exists_part_of_mem hMem with ⟨before, hPart⟩
      have hShows := hObserved.fraudGauge before change hPart
      rw [fraudGauge_run, shows_setStates_iff] at hShows
      exact hShows
    · intro change hMem
      rcases exists_part_of_mem hMem with ⟨before, hPart⟩
      have hShows :=
        hObserved.icebergGauge before change hPart
      rw [icebergGauge_run, shows_setStates_iff,
        text_eq_gaugeLabel_iff] at hShows
      exact hShows
  · intro hReads
    refine ⟨?_, hOpened.2 hReads.opens, ?_⟩
    · intro before change hPart
      rw [fraudGauge_run, shows_setStates_iff]
      exact hReads.equal change (mem_of_part hPart)
    · intro before change hPart
      rw [icebergGauge_run, shows_setStates_iff,
        text_eq_gaugeLabel_iff]
      exact hReads.printed change (mem_of_part hPart)

end FraudStream

------------------------------------------------------------
-- Names And Objects
------------------------------------------------------------

namespace FraudStream

/- States that are given as their names are read in the runs
   that never enter half-open. -/
theorem readsStates_names_iff
    (changes : List (StateChange BreakerState)) :
    ReadsStates stateNames changes ↔
      ∀ change ∈ changes, change.newState ≠ .halfOpen := by
  constructor
  · intro hReads change hMem hHalfOpen
    have hPrinted := hReads.printed change hMem
    rw [hHalfOpen] at hPrinted
    exact absurd hPrinted (by decide)
  · intro hNever
    refine ⟨?_, ?_, ?_⟩
    · intro change hMem label _
      have hName :
          change.newState.name =
            change.newState.gaugeLabel := by
        cases hState : change.newState with
        | halfOpen => exact absurd hState (hNever change hMem)
        | _ => rfl
      change decide (change.newState.name = label) = _
      rw [hName]
      exact decide_eq_decide.2 eq_comm
    · intro change hMem
      cases hState : change.newState with
      | halfOpen => exact absurd hState (hNever change hMem)
      | _ =>
          simp [stateNames, BreakerState.name,
            BreakerState.gaugeLabel]
    · intro before change hPart hDiffer
      apply absurd _ hDiffer
      have hNew := hNever change (mem_of_part hPart)
      cases hState : change.newState with
      | halfOpen => exact absurd hState hNew
      | _ =>
          cases hOld : change.oldState <;>
            simp [FraudCircuitBreakerListener.recordsOpen,
              StateChange.entersOpen, stateNames, hState,
              hOld, BreakerState.name]

/- States that equal no text are never read. -/
theorem not_readsStates_of_objects
    {ν : Type}
    {values : StateValues ν}
    (hObjects :
      ∀ value text, values.equalsText value text = false)
    {changes : List (StateChange ν)}
    (hSome : changes ≠ []) :
    ¬ ReadsStates values changes := by
  intro hReads
  rcases List.exists_mem_of_ne_nil changes hSome with
    ⟨change, hMem⟩
  have hEqual :=
    hReads.equal change hMem
      (values.state change.newState).gaugeLabel
      (gaugeLabel_mem _)
  rw [hObjects] at hEqual
  simp at hEqual

/- Also when states are given as their names, no label shows
   that an open breaker tries again. -/
theorem half_open_is_not_shown :
    ¬ BreakerObserved stateNames
      [{ oldState := .closed, newState := .open, now := 1 },
        { oldState := .open, newState := .halfOpen,
          now := 2 }] := by
  intro hObserved
  have hShows :=
    hObserved.fraudGauge
      [{ oldState := .closed, newState := .open, now := 1 }]
      { oldState := .open, newState := .halfOpen, now := 2 }
      (List.prefix_refl _)
  rw [fraudGauge_run, shows_setStates_iff] at hShows
  have hLabel := hShows "half_open" (by decide)
  exact absurd hLabel (by decide)

end FraudStream
