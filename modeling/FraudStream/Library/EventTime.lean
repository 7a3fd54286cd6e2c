import Mathlib.Data.Finset.Basic
import Mathlib.Data.Finset.Dedup
import Mathlib.Data.Finset.Filter
import Mathlib.Data.List.Forall2

/-
  Keyed stream operators driven by event time.

  An operator sees one key. It reads elements that carry a
  64-bit timestamp, registers event-time timers, and is
  called back for every timer the watermark has reached.
  Timers are a set: registering one twice fires it once.
  The watermark never goes back, and one advance fires all
  due timers, in an order the runtime is free to choose.

  Key definitions include:
    * `EventTime.Operator`
    * `EventTime.KeyState`
    * `EventTime.Runtime`
    * `EventTime.Event`
    * `EventTime.Event.arrivals`
    * `EventTime.Event.EveryAdvance`
    * `EventTime.Event.EveryElement`
    * `EventTime.Operator.step?`
    * `EventTime.Operator.run?`

  The rules used on runs are:
    * `EventTime.Operator.run_induction`
    * `EventTime.Operator.run_prefix`
    * `EventTime.Operator.run_split`
    * `EventTime.Operator.run_watermark`
    * `EventTime.Operator.run_simulation`
    * `EventTime.fireAll_induction`
-/

------------------------------------------------------------
-- Operators
------------------------------------------------------------

namespace EventTime

/- The least 64-bit timestamp. -/
def minLong : Int := -9223372036854775808

/- The greatest 64-bit timestamp. -/
def maxLong : Int := 9223372036854775807

/- A timestamp that fits a signed 64-bit integer. -/
def IsLong (t : Int) : Prop :=
  minLong ≤ t ∧ t ≤ maxLong

instance (t : Int) : Decidable (IsLong t) := by
  unfold IsLong
  infer_instance

/- What processing one element does. -/
structure Effect (σ β : Type) where
  state : σ
  timers : List Int
  output : List β

/- The callbacks of a keyed operator. -/
structure Operator (σ α β : Type) where
  init : σ
  processElement :
    (timestamp watermark : Int) → α → σ → Effect σ β
  onTimer : (timestamp : Int) → σ → σ

/- The state of one key and its pending timers. -/
structure KeyState (σ : Type) where
  state : σ
  timers : Finset Int

/- One key of an operator under the current watermark. -/
structure Runtime (σ : Type) extends KeyState σ where
  watermark : Int

/- An element and the watermark it meets. -/
structure Arrival (α : Type) where
  timestamp : Int
  watermark : Int
  value : α
deriving DecidableEq

/- The inputs of one key, in arrival order. -/
inductive Event (α : Type) where
| element : (timestamp : Int) → α → Event α
| watermark : Int → (order : List Int) → Event α

namespace Event

variable {α : Type}

/- The watermark after the inputs, from an initial one. -/
def watermarkFrom
    (w : Int) : List (Event α) → Int
| [] => w
| .element _ _ :: evs => watermarkFrom w evs
| .watermark w' _ :: evs => watermarkFrom w' evs

/- The elements with the watermarks they meet. -/
def arrivalsFrom
    (w : Int) : List (Event α) → List (Arrival α)
| [] => []
| .element t x :: evs => ⟨t, w, x⟩ :: arrivalsFrom w evs
| .watermark w' _ :: evs => arrivalsFrom w' evs

/- The watermark after the inputs. -/
def lastWatermark (evs : List (Event α)) : Int :=
  watermarkFrom minLong evs

/- The elements in arrival order. -/
def arrivals (evs : List (Event α)) : List (Arrival α) :=
  arrivalsFrom minLong evs

theorem watermarkFrom_append
    (w : Int)
    (evs evs' : List (Event α)) :
    watermarkFrom w (evs ++ evs') =
      watermarkFrom (watermarkFrom w evs) evs' := by
  induction evs generalizing w with
  | nil => rfl
  | cons e evs ih =>
      cases e with
      | element t x => simp [watermarkFrom, ih]
      | watermark w' order => simp [watermarkFrom, ih]

theorem arrivalsFrom_append
    (w : Int)
    (evs evs' : List (Event α)) :
    arrivalsFrom w (evs ++ evs') =
      arrivalsFrom w evs ++
        arrivalsFrom (watermarkFrom w evs) evs' := by
  induction evs generalizing w with
  | nil => rfl
  | cons e evs ih =>
      cases e with
      | element t x =>
          simp [arrivalsFrom, watermarkFrom, ih]
      | watermark w' order =>
          simp [arrivalsFrom, watermarkFrom, ih]

@[simp] theorem lastWatermark_concat_element
    (evs : List (Event α))
    (t : Int)
    (x : α) :
    lastWatermark (evs ++ [.element t x]) =
      lastWatermark evs := by
  rw [lastWatermark, watermarkFrom_append]
  rfl

@[simp] theorem lastWatermark_concat_watermark
    (evs : List (Event α))
    (w : Int)
    (order : List Int) :
    lastWatermark (evs ++ [.watermark w order]) = w := by
  rw [lastWatermark, watermarkFrom_append]
  rfl

@[simp] theorem arrivals_nil :
    arrivals ([] : List (Event α)) = [] := rfl

@[simp] theorem arrivals_concat_element
    (evs : List (Event α))
    (t : Int)
    (x : α) :
    arrivals (evs ++ [.element t x]) =
      arrivals evs ++ [⟨t, lastWatermark evs, x⟩] := by
  rw [arrivals, arrivalsFrom_append]
  rfl

@[simp] theorem arrivals_concat_watermark
    (evs : List (Event α))
    (w : Int)
    (order : List Int) :
    arrivals (evs ++ [.watermark w order]) =
      arrivals evs := by
  rw [arrivals, arrivalsFrom_append]
  simp [arrivals, arrivalsFrom]

/- A property of every watermark advance, of the inputs
   before it and the timers it fires. -/
def EveryAdvance
    (P : List (Event α) → Int → List Int → Prop)
    (evs : List (Event α)) : Prop :=
  ∀ before w order after,
    evs = before ++ .watermark w order :: after →
    P before w order

/- A property of every element and of the inputs before
   it. -/
def EveryElement
    (P : List (Event α) → Int → α → Prop)
    (evs : List (Event α)) : Prop :=
  ∀ before t x after,
    evs = before ++ .element t x :: after →
    P before t x

theorem everyAdvance_nil
    (P : List (Event α) → Int → List Int → Prop) :
    EveryAdvance P [] := by
  intro before w order after hEq
  simp at hEq

/- A split of a longer list is at its end or within. -/
private theorem append_cons_eq_concat_iff
    {evs before after : List (Event α)}
    {e last : Event α} :
    evs ++ [last] = before ++ e :: after ↔
      (evs = before ∧ last = e ∧ after = []) ∨
        ∃ after', after = after' ++ [last] ∧
          evs = before ++ e :: after' := by
  induction after using List.reverseRecOn with
  | nil =>
      constructor
      · intro hEq
        have hParts := List.append_inj' hEq rfl
        exact
          .inl ⟨hParts.1, by simpa using hParts.2, rfl⟩
      · rintro (⟨rfl, rfl, -⟩ | ⟨after', hEq, -⟩)
        · rfl
        · simp at hEq
  | append_singleton after x _ =>
      constructor
      · intro hEq
        rw [← List.cons_append, ← List.append_assoc] at hEq
        have hParts := List.append_inj' hEq rfl
        have hLast : last = x := by simpa using hParts.2
        exact .inr ⟨after, by rw [hLast], hParts.1⟩
      · rintro (⟨-, -, hEq⟩ | ⟨after', hEq, rfl⟩)
        · simp at hEq
        · rw [hEq]
          simp

theorem everyAdvance_concat_element
    (P : List (Event α) → Int → List Int → Prop)
    (evs : List (Event α))
    (t : Int)
    (x : α) :
    EveryAdvance P (evs ++ [.element t x]) ↔
      EveryAdvance P evs := by
  constructor
  · intro hEvery before w order after hEq
    apply hEvery before w order (after ++ [.element t x])
    rw [hEq]
    simp
  · intro hEvery before w order after hEq
    rcases append_cons_eq_concat_iff.1 hEq with
      ⟨-, hLast, -⟩ | ⟨after', -, hWithin⟩
    · cases hLast
    · exact hEvery before w order after' hWithin

theorem everyAdvance_concat_watermark
    (P : List (Event α) → Int → List Int → Prop)
    (evs : List (Event α))
    (w : Int)
    (order : List Int) :
    EveryAdvance P (evs ++ [.watermark w order]) ↔
      EveryAdvance P evs ∧ P evs w order := by
  constructor
  · intro hEvery
    refine ⟨?_, hEvery evs w order [] rfl⟩
    intro before w' order' after hEq
    apply
      hEvery before w' order'
        (after ++ [.watermark w order])
    rw [hEq]
    simp
  · rintro ⟨hEvery, hLast⟩ before w' order' after hEq
    rcases append_cons_eq_concat_iff.1 hEq with
      ⟨rfl, hEvent, -⟩ | ⟨after', -, hWithin⟩
    · cases hEvent
      exact hLast
    · exact hEvery before w' order' after' hWithin

theorem everyElement_nil
    (P : List (Event α) → Int → α → Prop) :
    EveryElement P [] := by
  intro before t x after hEq
  simp at hEq

theorem everyElement_concat_element
    (P : List (Event α) → Int → α → Prop)
    (evs : List (Event α))
    (t : Int)
    (x : α) :
    EveryElement P (evs ++ [.element t x]) ↔
      EveryElement P evs ∧ P evs t x := by
  constructor
  · intro hEvery
    refine ⟨?_, hEvery evs t x [] rfl⟩
    intro before t' x' after hEq
    apply hEvery before t' x' (after ++ [.element t x])
    rw [hEq]
    simp
  · rintro ⟨hEvery, hLast⟩ before t' x' after hEq
    rcases append_cons_eq_concat_iff.1 hEq with
      ⟨rfl, hEvent, -⟩ | ⟨after', -, hWithin⟩
    · cases hEvent
      exact hLast
    · exact hEvery before t' x' after' hWithin

theorem everyElement_concat_watermark
    (P : List (Event α) → Int → α → Prop)
    (evs : List (Event α))
    (w : Int)
    (order : List Int) :
    EveryElement P (evs ++ [.watermark w order]) ↔
      EveryElement P evs := by
  constructor
  · intro hEvery before t x after hEq
    apply hEvery before t x (after ++ [.watermark w order])
    rw [hEq]
    simp
  · intro hEvery before t x after hEq
    rcases append_cons_eq_concat_iff.1 hEq with
      ⟨-, hEvent, -⟩ | ⟨after', -, hWithin⟩
    · cases hEvent
    · exact hEvery before t x after' hWithin

end Event

end EventTime

------------------------------------------------------------
-- Processing And Firing
------------------------------------------------------------

namespace EventTime

variable {σ α β : Type}

/- Call back a list of timers in the given order. -/
def fireAll
    (op : Operator σ α β)
    (order : List Int)
    (s : σ) : σ :=
  order.foldl (fun s timestamp => op.onTimer timestamp s) s

/-
  A property that every listed timer preserves survives the
  whole list.
-/
theorem fireAll_induction
    {op : Operator σ α β}
    {P : σ → Prop}
    {order : List Int}
    {s : σ}
    (hStart : P s)
    (hTimer :
      ∀ timestamp ∈ order, ∀ s : σ,
        P s → P (op.onTimer timestamp s)) :
    P (fireAll op order s) := by
  induction order generalizing s with
  | nil => exact hStart
  | cons timestamp order ih =>
      apply ih
      · exact hTimer timestamp (by simp) s hStart
      · intro later hLater
        exact hTimer later (by simp [hLater])

namespace KeyState

/- The timers that a watermark has reached. -/
def due
    (ks : KeyState σ)
    (w : Int) : Finset Int :=
  ks.timers.filter (· ≤ w)

/- Process one element of the key. -/
def process
    (ks : KeyState σ)
    (op : Operator σ α β)
    (timestamp watermark : Int)
    (x : α) : KeyState σ :=
  let effect :=
    op.processElement timestamp watermark x ks.state
  { state := effect.state
    timers := ks.timers ∪ effect.timers.toFinset }

/- Call back the due timers and drop them. -/
def fire
    (ks : KeyState σ)
    (op : Operator σ α β)
    (w : Int)
    (order : List Int) : KeyState σ where
  state := fireAll op order ks.state
  timers := ks.timers.filter (w < ·)

/- The order lists each due timer once. -/
def Firing
    (ks : KeyState σ)
    (w : Int)
    (order : List Int) : Prop :=
  order.Nodup ∧ order.toFinset = ks.due w

instance
    (ks : KeyState σ)
    (w : Int)
    (order : List Int) :
    Decidable (ks.Firing w order) := by
  unfold Firing
  infer_instance

theorem Firing.mem_iff
    {ks : KeyState σ}
    {w : Int}
    {order : List Int}
    (hFiring : ks.Firing w order)
    (timestamp : Int) :
    timestamp ∈ order ↔
      timestamp ∈ ks.timers ∧ timestamp ≤ w := by
  rw [← List.mem_toFinset, hFiring.2, due,
    Finset.mem_filter]

end KeyState

end EventTime

------------------------------------------------------------
-- Runs
------------------------------------------------------------

namespace EventTime

variable {σ α β : Type}

namespace Operator

/- No element seen, no timer pending, no watermark yet. -/
def start (op : Operator σ α β) : Runtime σ where
  state := op.init
  timers := ∅
  watermark := minLong

/- The outputs for one element carry its timestamp. -/
def emit
    (op : Operator σ α β)
    (rt : Runtime σ)
    (timestamp : Int)
    (x : α) : List (Int × β) :=
  (op.processElement timestamp rt.watermark x
    rt.state).output.map (fun y => (timestamp, y))

def afterElement
    (op : Operator σ α β)
    (rt : Runtime σ)
    (timestamp : Int)
    (x : α) : Runtime σ where
  toKeyState :=
    rt.toKeyState.process op timestamp rt.watermark x
  watermark := rt.watermark

def afterWatermark
    (op : Operator σ α β)
    (rt : Runtime σ)
    (w : Int)
    (order : List Int) : Runtime σ where
  toKeyState := rt.toKeyState.fire op w order
  watermark := w

/- One input, when the runtime can deliver it. -/
def step?
    (op : Operator σ α β)
    (rt : Runtime σ) :
    Event α → Option (Runtime σ × List (Int × β))
| .element t x =>
    if IsLong t then
      some (op.afterElement rt t x, op.emit rt t x)
    else
      none
| .watermark w order =>
    if rt.watermark ≤ w ∧ IsLong w ∧
        rt.toKeyState.Firing w order then
      some (op.afterWatermark rt w order, [])
    else
      none

/- The state and outputs after a list of inputs. -/
def run?
    (op : Operator σ α β)
    (evs : List (Event α)) :
    Option (Runtime σ × List (Int × β)) :=
  evs.foldl
    (fun acc e =>
      acc.bind (fun r =>
        (op.step? r.1 e).map (fun s =>
          (s.1, r.2 ++ s.2))))
    (some (op.start, []))

@[simp] theorem run?_nil
    (op : Operator σ α β) :
    op.run? [] = some (op.start, []) := rfl

theorem run?_concat
    (op : Operator σ α β)
    (evs : List (Event α))
    (e : Event α) :
    op.run? (evs ++ [e]) =
      (op.run? evs).bind (fun r =>
        (op.step? r.1 e).map (fun s =>
          (s.1, r.2 ++ s.2))) := by
  simp [run?, List.foldl_append]

/- What the last input of a run did. -/
theorem run?_concat_cases
    {op : Operator σ α β}
    {evs : List (Event α)}
    {e : Event α}
    {rt' : Runtime σ}
    {outs' : List (Int × β)}
    (hRun : op.run? (evs ++ [e]) = some (rt', outs')) :
    ∃ rt outs, op.run? evs = some (rt, outs) ∧
      ((∃ t x, e = .element t x ∧ IsLong t ∧
          rt' = op.afterElement rt t x ∧
          outs' = outs ++ op.emit rt t x) ∨
        (∃ w order, e = .watermark w order ∧
          rt.watermark ≤ w ∧ IsLong w ∧
          rt.toKeyState.Firing w order ∧
          rt' = op.afterWatermark rt w order ∧
          outs' = outs)) := by
  rw [run?_concat, Option.bind_eq_some_iff] at hRun
  rcases hRun with ⟨⟨rt, outs⟩, hPrefix, hStep⟩
  refine ⟨rt, outs, hPrefix, ?_⟩
  rw [Option.map_eq_some_iff] at hStep
  rcases hStep with ⟨⟨rt₁, out⟩, hStep, hEq⟩
  cases e with
  | element t x =>
      left
      by_cases hLong : IsLong t
      · simp only [step?, hLong, if_true,
          Option.some.injEq, Prod.mk.injEq] at hStep hEq
        exact
          ⟨t, x, rfl, hLong, by rw [← hEq.1, hStep.1],
            by rw [← hEq.2, hStep.2]⟩
      · simp [step?, hLong] at hStep
  | watermark w order =>
      right
      by_cases hGuard :
          rt.watermark ≤ w ∧ IsLong w ∧
            rt.toKeyState.Firing w order
      · simp only [step?, hGuard, and_self, if_true,
          Option.some.injEq, Prod.mk.injEq] at hStep hEq
        exact
          ⟨w, order, rfl, hGuard.1, hGuard.2.1,
            hGuard.2.2, by rw [← hEq.1, hStep.1],
            by rw [← hEq.2, ← hStep.2, List.append_nil]⟩
      · simp [step?, hGuard] at hStep

/- Induction over a run, one case for each kind of input. -/
theorem run_induction
    {op : Operator σ α β}
    {motive :
      ∀ evs rt outs,
        op.run? evs = some (rt, outs) → Prop}
    (start : motive [] op.start [] rfl)
    (element :
      ∀ evs rt outs t x
        (hPrefix : op.run? evs = some (rt, outs))
        (hRun :
          op.run? (evs ++ [.element t x]) =
            some (op.afterElement rt t x,
              outs ++ op.emit rt t x)),
        IsLong t →
        motive evs rt outs hPrefix →
        motive (evs ++ [.element t x])
          (op.afterElement rt t x)
          (outs ++ op.emit rt t x) hRun)
    (watermark :
      ∀ evs rt outs w order
        (hPrefix : op.run? evs = some (rt, outs))
        (hRun :
          op.run? (evs ++ [.watermark w order]) =
            some (op.afterWatermark rt w order, outs)),
        rt.watermark ≤ w →
        IsLong w →
        rt.toKeyState.Firing w order →
        motive evs rt outs hPrefix →
        motive (evs ++ [.watermark w order])
          (op.afterWatermark rt w order) outs hRun)
    {evs : List (Event α)}
    {rt : Runtime σ}
    {outs : List (Int × β)}
    (hRun : op.run? evs = some (rt, outs)) :
    motive evs rt outs hRun := by
  induction evs using List.reverseRecOn
    generalizing rt outs with
  | nil =>
      have hEq := hRun
      simp only [run?_nil, Option.some.injEq,
        Prod.mk.injEq] at hEq
      rcases hEq with ⟨rfl, rfl⟩
      exact start
  | append_singleton evs e ih =>
      rcases run?_concat_cases hRun with
        ⟨rt₀, outs₀, hPrefix,
          ⟨t, x, rfl, hLong, rfl, rfl⟩ |
          ⟨w, order, rfl, hMono, hLong, hFiring,
            rfl, rfl⟩⟩
      · exact
          element evs rt₀ outs₀ t x hPrefix hRun
            hLong (ih hPrefix)
      · exact
          watermark evs rt₀ outs w order hPrefix hRun
            hMono hLong hFiring (ih hPrefix)

/- A prefix of a run is a run. -/
theorem run_prefix
    {op : Operator σ α β}
    {pre post : List (Event α)}
    {rt : Runtime σ}
    {outs : List (Int × β)}
    (hRun : op.run? (pre ++ post) = some (rt, outs)) :
    ∃ rt₀ outs₀ outs₁,
      op.run? pre = some (rt₀, outs₀) ∧
        outs = outs₀ ++ outs₁ := by
  induction post using List.reverseRecOn
    generalizing rt outs with
  | nil =>
      rw [List.append_nil] at hRun
      exact ⟨rt, outs, [], hRun, by simp⟩
  | append_singleton post e ih =>
      rw [← List.append_assoc] at hRun
      rcases run?_concat_cases hRun with
        ⟨rt', outs', hPrefix, hLast⟩
      rcases ih hPrefix with
        ⟨rt₀, outs₀, outs₁, hPre, rfl⟩
      refine ⟨rt₀, outs₀, ?_⟩
      rcases hLast with
        ⟨t, x, -, -, -, rfl⟩ | ⟨w, order, -, -, -, -, -, rfl⟩
      · exact
          ⟨outs₁ ++ op.emit rt' t x, hPre, by simp⟩
      · exact ⟨outs₁, hPre, rfl⟩

/- Where the outputs for one element stand in a run. -/
theorem run_split
    {op : Operator σ α β}
    {before after : List (Event α)}
    {t : Int}
    {x : α}
    {rt : Runtime σ}
    {outs : List (Int × β)}
    (hRun :
      op.run? (before ++ .element t x :: after) =
        some (rt, outs)) :
    ∃ rt₀ outs₀ outs₁,
      op.run? before = some (rt₀, outs₀) ∧ IsLong t ∧
        outs = outs₀ ++ op.emit rt₀ t x ++ outs₁ := by
  rw [List.append_cons] at hRun
  rcases run_prefix hRun with
    ⟨rt', outs', outs₁, hElement, hOuts⟩
  rcases run?_concat_cases hElement with
    ⟨rt₀, outs₀, hBefore,
      ⟨t', x', hEq, hLong, -, rfl⟩ | ⟨w, order, hEq, -⟩⟩
  · cases hEq
    exact ⟨rt₀, outs₀, outs₁, hBefore, hLong, hOuts⟩
  · cases hEq

/- The watermark of a run is the last one it was given. -/
theorem run_watermark
    {op : Operator σ α β}
    {evs : List (Event α)}
    {rt : Runtime σ}
    {outs : List (Int × β)}
    (hRun : op.run? evs = some (rt, outs)) :
    rt.watermark = Event.lastWatermark evs := by
  induction hRun using run_induction with
  | start => rfl
  | element evs rt outs t x hPrefix hRun hLong ih =>
      rw [Event.lastWatermark_concat_element]
      exact ih
  | watermark evs rt outs w order hPrefix hRun hMono hLong
      hFiring ih =>
      rw [Event.lastWatermark_concat_watermark]
      rfl

end Operator

end EventTime

------------------------------------------------------------
-- Simulation
------------------------------------------------------------

namespace EventTime

namespace Operator

variable {σ₁ σ₂ α β₁ β₂ : Type}

/- Related states stay related when the same timers fire. -/
theorem fireAll_related
    {op₁ : Operator σ₁ α β₁}
    {op₂ : Operator σ₂ α β₂}
    {R : σ₁ → σ₂ → Prop}
    (hTimer :
      ∀ t s₁ s₂, R s₁ s₂ →
        R (op₁.onTimer t s₁) (op₂.onTimer t s₂))
    (order : List Int)
    {s₁ : σ₁}
    {s₂ : σ₂}
    (hState : R s₁ s₂) :
    R (fireAll op₁ order s₁) (fireAll op₂ order s₂) := by
  induction order generalizing s₁ s₂ with
  | nil => exact hState
  | cons t order ih => exact ih (hTimer t s₁ s₂ hState)

/-
  Two operators that start related, register the same
  timers and stay related under both callbacks have related
  runs on the same inputs.
-/
theorem run_simulation
    {op₁ : Operator σ₁ α β₁}
    {op₂ : Operator σ₂ α β₂}
    {R : σ₁ → σ₂ → Prop}
    {S : β₁ → β₂ → Prop}
    (hInit : R op₁.init op₂.init)
    (hElement :
      ∀ t w x s₁ s₂, R s₁ s₂ →
        R (op₁.processElement t w x s₁).state
            (op₂.processElement t w x s₂).state ∧
          (op₁.processElement t w x s₁).timers =
            (op₂.processElement t w x s₂).timers ∧
          List.Forall₂ S
            (op₁.processElement t w x s₁).output
            (op₂.processElement t w x s₂).output)
    (hTimer :
      ∀ t s₁ s₂, R s₁ s₂ →
        R (op₁.onTimer t s₁) (op₂.onTimer t s₂))
    {evs : List (Event α)}
    {rt₁ : Runtime σ₁}
    {outs₁ : List (Int × β₁)}
    (hRun : op₁.run? evs = some (rt₁, outs₁)) :
    ∃ rt₂ outs₂,
      op₂.run? evs = some (rt₂, outs₂) ∧
        R rt₁.state rt₂.state ∧
        rt₁.timers = rt₂.timers ∧
        rt₁.watermark = rt₂.watermark ∧
        List.Forall₂
          (fun a b => a.1 = b.1 ∧ S a.2 b.2)
          outs₁ outs₂ := by
  induction hRun using run_induction with
  | start =>
      exact
        ⟨op₂.start, [], rfl, hInit, rfl, rfl,
          List.Forall₂.nil⟩
  | element evs rt outs t x hPrefix hRun hLong ih =>
      rcases ih with
        ⟨rt₂, outs₂, hRun₂, hState, hTimers, hMark,
          hOuts⟩
      have hEffect :=
        hElement t rt.watermark x rt.state rt₂.state
          hState
      refine
        ⟨op₂.afterElement rt₂ t x,
          outs₂ ++ op₂.emit rt₂ t x, ?_, ?_, ?_, hMark,
          ?_⟩
      · rw [run?_concat, hRun₂]
        simp [step?, hLong]
      · simpa [afterElement, KeyState.process, hMark]
          using hEffect.1
      · simp [afterElement, KeyState.process, ← hMark,
          hTimers, hEffect.2.1]
      · apply List.rel_append hOuts
        rw [emit, emit, ← hMark, List.forall₂_map_left_iff,
          List.forall₂_map_right_iff]
        exact hEffect.2.2.imp (fun a b hS => ⟨rfl, hS⟩)
  | watermark evs rt outs w order hPrefix hRun hMono hLong
      hFiring ih =>
      rcases ih with
        ⟨rt₂, outs₂, hRun₂, hState, hTimers, hMark,
          hOuts⟩
      have hFiring₂ : rt₂.toKeyState.Firing w order := by
        unfold KeyState.Firing KeyState.due at hFiring ⊢
        rw [← hTimers]
        exact hFiring
      refine
        ⟨op₂.afterWatermark rt₂ w order, outs₂, ?_, ?_,
          ?_, rfl, hOuts⟩
      · rw [run?_concat, hRun₂]
        rw [hMark] at hMono
        simp [step?, hMono, hLong, hFiring₂]
      · exact fireAll_related hTimer order hState
      · simp [afterWatermark, KeyState.fire, hTimers]

end Operator

end EventTime
