import Mathlib.Data.List.Basic
import Mathlib.Data.List.Induction

/-
  The queue between the alert consumer and the dashboard.

  The consumer puts each alert that it decodes. When the
  queue is full it takes the oldest alert out and puts again.
  The put, the take and the second put are separate steps,
  and the dashboard may take alerts between any of them.

  Key definitions include:
    * `BoundedQueue.putNowait`, `BoundedQueue.getNowait`
    * `AlertQueue.step`
    * `AlertQueue.WellKept`
    * `AlertQueue.FoundFull`

  Main results:
    * `AlertQueue.wellKept_of_run`
    * `AlertQueue.foundFull_of_run`
    * `AlertQueue.oldest_alert_is_dropped`
-/

------------------------------------------------------------
-- Bounded Queues
------------------------------------------------------------

namespace FraudStream

/- `queue.Queue`, the oldest item first. -/
structure BoundedQueue (α : Type) where
  maxsize : Int
  items : List α
deriving DecidableEq, Repr

namespace BoundedQueue

variable {α : Type}

/- A queue whose `maxsize` is not positive is never full. -/
def IsFull (q : BoundedQueue α) : Prop :=
  0 < q.maxsize ∧ q.maxsize ≤ q.items.length

instance (q : BoundedQueue α) : Decidable q.IsFull :=
  inferInstanceAs (Decidable (_ ∧ _))

/- `none` stands for `queue.Full`. -/
def putNowait
    (q : BoundedQueue α)
    (item : α) : Option (BoundedQueue α) :=
  if q.IsFull then
    none
  else
    some { q with items := q.items ++ [item] }

/- `none` stands for `queue.Empty`. -/
def getNowait
    (q : BoundedQueue α) : Option (α × BoundedQueue α) :=
  match q.items with
  | [] => none
  | item :: rest => some (item, { q with items := rest })

theorem putNowait_eq_some_iff
    {q q' : BoundedQueue α}
    {item : α} :
    q.putNowait item = some q' ↔
      ¬ q.IsFull ∧
        q' = { q with items := q.items ++ [item] } := by
  unfold putNowait
  split
  · rename_i hFull
    simp [hFull]
  · rename_i hRoom
    simp [hRoom, eq_comm]

theorem putNowait_eq_none_iff
    {q : BoundedQueue α}
    {item : α} :
    q.putNowait item = none ↔ q.IsFull := by
  unfold putNowait
  split
  · rename_i hFull
    simp [hFull]
  · rename_i hRoom
    simp [hRoom]

theorem getNowait_eq_some_iff
    {q q' : BoundedQueue α}
    {item : α} :
    q.getNowait = some (item, q') ↔
      q.items = item :: q'.items ∧
        q'.maxsize = q.maxsize := by
  cases q with
  | mk maxsize items =>
      cases items with
      | nil => simp [getNowait]
      | cons head rest =>
          cases q'
          simp only [getNowait, Option.some.injEq,
            Prod.mk.injEq, BoundedQueue.mk.injEq,
            List.cons.injEq]
          constructor
          · rintro ⟨rfl, rfl, rfl⟩
            exact ⟨⟨rfl, rfl⟩, rfl⟩
          · rintro ⟨⟨rfl, rfl⟩, rfl⟩
            exact ⟨rfl, rfl, rfl⟩

theorem getNowait_eq_none_iff
    {q : BoundedQueue α} :
    q.getNowait = none ↔ q.items = [] := by
  cases q with
  | mk maxsize items => cases items <;> simp [getNowait]

end BoundedQueue

end FraudStream

------------------------------------------------------------
-- The Consumer And The Dashboard
------------------------------------------------------------

namespace FraudStream

/- Where the consumer is: it polls, or it has an alert in
   hand that it puts, makes room for, or puts again. -/
inductive PutPoint (α : Type) where
| polling
| putting : α → PutPoint α
| evicting : α → PutPoint α
| retrying : α → PutPoint α
deriving DecidableEq, Repr

/- An alert that was taken out, by the dashboard or by the
   consumer. -/
inductive Removal (α : Type) where
| drained : α → Removal α
| evicted : α → Removal α
deriving DecidableEq, Repr

/- The queue, the consumer's place in its loop, and what
   happened so far. `refused` holds the alerts that the
   second put did not take either. -/
structure AlertQueue (α : Type) where
  queue : BoundedQueue α
  point : PutPoint α
  arrived : List α
  enqueued : List α
  removed : List (Removal α)
  refused : List α
deriving DecidableEq, Repr

/- `decode` hands the consumer its next alert, `work` is its
   next step, and `drain` is a `get_nowait` of the
   dashboard. -/
inductive QueueEvent (α : Type) where
| decode : α → QueueEvent α
| work
| drain
deriving DecidableEq, Repr

variable {α : Type}

namespace Removal

def alert : Removal α → α
| .drained a => a
| .evicted a => a

def drained? : Removal α → Option α
| .drained a => some a
| .evicted _ => none

end Removal

namespace PutPoint

def inHand : PutPoint α → List α
| .polling => []
| .putting a => [a]
| .evicting a => [a]
| .retrying a => [a]

/- The steps until the consumer polls again, at most. -/
def workLeft : PutPoint α → Nat
| .polling => 0
| .putting _ => 3
| .evicting _ => 2
| .retrying _ => 1

end PutPoint

namespace QueueEvent

def isWork : QueueEvent α → Bool
| .work => true
| _ => false

def isDecode : QueueEvent α → Bool
| .decode _ => true
| _ => false

end QueueEvent

namespace AlertQueue

def init (maxsize : Int) : AlertQueue α where
  queue := { maxsize := maxsize, items := [] }
  point := .polling
  arrived := []
  enqueued := []
  removed := []
  refused := []

/- The next step of the consumer in its loop. -/
def work (s : AlertQueue α) : AlertQueue α :=
  match s.point with
  | .polling => s
  | .putting a =>
      match s.queue.putNowait a with
      | some queue =>
          { s with
            queue := queue
            enqueued := s.enqueued ++ [a]
            point := .polling }
      | none => { s with point := .evicting a }
  | .evicting a =>
      match s.queue.getNowait with
      | some (oldest, queue) =>
          { s with
            queue := queue
            removed := s.removed ++ [.evicted oldest]
            point := .retrying a }
      | none => { s with point := .retrying a }
  | .retrying a =>
      match s.queue.putNowait a with
      | some queue =>
          { s with
            queue := queue
            enqueued := s.enqueued ++ [a]
            point := .polling }
      | none =>
          { s with
            refused := s.refused ++ [a]
            point := .polling }

/- The consumer decodes an alert only while it polls. -/
def decode (s : AlertQueue α) (a : α) : AlertQueue α :=
  match s.point with
  | .polling =>
      { s with
        arrived := s.arrived ++ [a]
        point := .putting a }
  | _ => s

def drain (s : AlertQueue α) : AlertQueue α :=
  match s.queue.getNowait with
  | some (oldest, queue) =>
      { s with
        queue := queue
        removed := s.removed ++ [.drained oldest] }
  | none => s

def step (s : AlertQueue α) : QueueEvent α → AlertQueue α
| .decode a => s.decode a
| .work => s.work
| .drain => s.drain

def run
    (maxsize : Int)
    (events : List (QueueEvent α)) : AlertQueue α :=
  events.foldl step (init maxsize)

/- The alerts that the dashboard took. -/
def drained (s : AlertQueue α) : List α :=
  s.removed.filterMap Removal.drained?

end AlertQueue

end FraudStream

------------------------------------------------------------
-- What Every Schedule Keeps
------------------------------------------------------------

namespace FraudStream

namespace AlertQueue

variable {α : Type}
variable {maxsize : Int}
variable {s : AlertQueue α}

/- The queue is within its bound, it has room when the
   consumer puts again, and each alert that arrived is in
   hand, in the queue or taken out, in the order of
   arrival. -/
structure WellKept
    (maxsize : Int)
    (s : AlertQueue α) : Prop where
  maxsize_eq : s.queue.maxsize = maxsize
  bounded : (s.queue.items.length : Int) ≤ maxsize
  room :
    ∀ a, s.point = .retrying a →
      (s.queue.items.length : Int) < maxsize
  allPut : s.enqueued ++ s.point.inHand = s.arrived
  inOrder :
    s.removed.map Removal.alert ++ s.queue.items =
      s.enqueued
  noneRefused : s.refused = []

theorem wellKept_init
    (hMax : 1 ≤ maxsize) :
    WellKept maxsize (init maxsize : AlertQueue α) where
  maxsize_eq := rfl
  bounded := by
    simp only [init, List.length_nil]
    omega
  room := by
    intro a hPoint
    cases hPoint
  allPut := rfl
  inOrder := rfl
  noneRefused := rfl

/- A put that finds room leaves the queue within its
   bound. -/
theorem wellKept_put
    (hMax : 1 ≤ maxsize)
    (hKept : WellKept maxsize s)
    {a : α}
    (hHand : s.point.inHand = [a])
    {queue : BoundedQueue α}
    (hPut : s.queue.putNowait a = some queue) :
    WellKept maxsize
      { s with
        queue := queue
        enqueued := s.enqueued ++ [a]
        point := .polling } := by
  rcases BoundedQueue.putNowait_eq_some_iff.1 hPut with
    ⟨hRoom, rfl⟩
  have hMaxsize := hKept.maxsize_eq
  have hArrived := hKept.allPut
  rw [hHand] at hArrived
  constructor
  · exact hMaxsize
  · simp only [BoundedQueue.IsFull, hMaxsize] at hRoom
    simp only [List.length_append, List.length_singleton]
    omega
  · intro b hPoint
    cases hPoint
  · simpa [PutPoint.inHand] using hArrived
  · simp only [← List.append_assoc, hKept.inOrder]
  · exact hKept.noneRefused

/- Taking the oldest alert out makes room. -/
theorem wellKept_get
    (hKept : WellKept maxsize s)
    {oldest : α}
    {queue : BoundedQueue α}
    (hGet : s.queue.getNowait = some (oldest, queue))
    {removal : Removal α}
    (hRemoval : removal.alert = oldest)
    {point : PutPoint α}
    (hHand : point.inHand = s.point.inHand) :
    WellKept maxsize
      { s with
        queue := queue
        removed := s.removed ++ [removal]
        point := point } := by
  rcases BoundedQueue.getNowait_eq_some_iff.1 hGet with
    ⟨hItems, hMaxsize⟩
  have hBound := hKept.bounded
  rw [hItems, List.length_cons] at hBound
  have hOrder := hKept.inOrder
  rw [hItems] at hOrder
  constructor
  · rw [hMaxsize, hKept.maxsize_eq]
  · simp only
    omega
  · intro b _
    simp only
    omega
  · simpa only [hHand] using hKept.allPut
  · simpa [hRemoval] using hOrder
  · exact hKept.noneRefused

theorem wellKept_work
    (hMax : 1 ≤ maxsize)
    (hKept : WellKept maxsize s) :
    WellKept maxsize s.work := by
  unfold work
  split
  · exact hKept
  · rename_i a hPoint
    split
    · rename_i queue hPut
      exact wellKept_put hMax hKept
        (by rw [hPoint]; rfl) hPut
    · refine ⟨hKept.maxsize_eq, hKept.bounded, ?_, ?_,
        hKept.inOrder, hKept.noneRefused⟩
      · intro b hRetrying
        cases hRetrying
      · simpa [hPoint, PutPoint.inHand] using hKept.allPut
  · rename_i a hPoint
    split
    · rename_i oldest queue hGet
      exact wellKept_get hKept hGet rfl
        (by rw [hPoint]; rfl)
    · rename_i hEmpty
      have hItems :=
        BoundedQueue.getNowait_eq_none_iff.1 hEmpty
      refine ⟨hKept.maxsize_eq, hKept.bounded, ?_, ?_,
        hKept.inOrder, hKept.noneRefused⟩
      · intro b _
        simp only [hItems, List.length_nil]
        omega
      · simpa [hPoint, PutPoint.inHand] using hKept.allPut
  · rename_i a hPoint
    split
    · rename_i queue hPut
      exact wellKept_put hMax hKept
        (by rw [hPoint]; rfl) hPut
    · rename_i hFull
      have hRoom := hKept.room a hPoint
      have hNoRoom :=
        (BoundedQueue.putNowait_eq_none_iff.1 hFull).2
      rw [hKept.maxsize_eq] at hNoRoom
      omega

theorem wellKept_decode
    (hKept : WellKept maxsize s)
    (a : α) :
    WellKept maxsize (s.decode a) := by
  unfold decode
  split
  · rename_i hPoint
    refine ⟨hKept.maxsize_eq, hKept.bounded, ?_, ?_,
      hKept.inOrder, hKept.noneRefused⟩
    · intro b hRetrying
      cases hRetrying
    · have hArrived := hKept.allPut
      rw [hPoint] at hArrived
      simpa [PutPoint.inHand] using hArrived
  · exact hKept

theorem wellKept_drain
    (hKept : WellKept maxsize s) :
    WellKept maxsize s.drain := by
  unfold drain
  split
  · rename_i oldest queue hGet
    exact wellKept_get hKept hGet rfl rfl
  · exact hKept

theorem run_append_singleton
    (events : List (QueueEvent α))
    (event : QueueEvent α) :
    run maxsize (events ++ [event]) =
      (run maxsize events).step event := by
  rw [run, List.foldl_append]
  rfl

theorem wellKept_of_run
    (hMax : 1 ≤ maxsize)
    (events : List (QueueEvent α)) :
    WellKept maxsize (run maxsize events) := by
  induction events using List.reverseRecOn with
  | nil => exact wellKept_init hMax
  | append_singleton events event ih =>
      rw [run_append_singleton]
      cases event with
      | decode a => exact wellKept_decode ih a
      | work => exact wellKept_work hMax ih
      | drain => exact wellKept_drain ih

/- The alerts that the dashboard took and the queue that it
   sees are in the order of arrival. -/
theorem WellKept.drained_sublist
    (hKept : WellKept maxsize s) :
    (s.drained ++ s.queue.items).Sublist s.arrived := by
  rw [← hKept.allPut, ← hKept.inOrder]
  apply List.Sublist.trans _ (List.sublist_append_left _ _)
  apply List.Sublist.append_right
  unfold drained
  generalize s.removed = removed
  induction removed with
  | nil => exact List.Sublist.refl []
  | cons removal rest ih =>
      cases removal with
      | drained a => exact ih.cons_cons a
      | evicted a => exact ih.cons a

end AlertQueue

end FraudStream

------------------------------------------------------------
-- Evictions
------------------------------------------------------------

namespace FraudStream

namespace AlertQueue

variable {α : Type}
variable {maxsize : Int}
variable {s : AlertQueue α}

/- When the consumer is about to take an alert out, its put
   found the queue full, and since then only the dashboard
   touched the queue. -/
def FoundFull
    (maxsize : Int)
    (events : List (QueueEvent α)) : Prop :=
  ∀ a, (run maxsize events).point = .evicting a →
    ∃ before since,
      events = before ++ .work :: since ∧
        (run maxsize before).point = .putting a ∧
          (run maxsize before).queue.IsFull ∧
            since.countP QueueEvent.isWork = 0 ∧
              (run maxsize events).queue.items <:+
                (run maxsize before).queue.items

theorem evicting_of_work
    {a : α}
    (hPoint : s.work.point = .evicting a) :
    s.point = .putting a ∧
      s.queue.IsFull ∧ s.work.queue = s.queue := by
  unfold work at hPoint ⊢
  split at hPoint
  · rename_i hPolling
    rw [hPolling] at hPoint
    cases hPoint
  · rename_i b hPutting
    split at hPoint
    · cases hPoint
    · rename_i hFull
      cases hPoint
      exact ⟨hPutting,
        BoundedQueue.putNowait_eq_none_iff.1 hFull, rfl⟩
  · split at hPoint <;> cases hPoint
  · split at hPoint <;> cases hPoint

theorem decode_of_evicting
    {a b : α}
    (hPoint : (s.decode b).point = .evicting a) :
    s.decode b = s := by
  unfold decode at hPoint ⊢
  split
  · rename_i hPolling
    rw [hPolling] at hPoint
    cases hPoint
  · rfl

theorem drain_point : s.drain.point = s.point := by
  unfold drain
  split <;> rfl

theorem drain_items_suffix :
    s.drain.queue.items <:+ s.queue.items := by
  unfold drain
  split
  · rename_i oldest queue hGet
    rw [(BoundedQueue.getNowait_eq_some_iff.1 hGet).1]
    exact List.suffix_cons oldest queue.items
  · exact List.suffix_refl _

theorem foundFull_of_run
    (maxsize : Int)
    (events : List (QueueEvent α)) :
    FoundFull maxsize events := by
  induction events using List.reverseRecOn with
  | nil =>
      intro a hPoint
      cases hPoint
  | append_singleton events event ih =>
      intro a hPoint
      rw [run_append_singleton] at hPoint ⊢
      cases event with
      | work =>
          rcases evicting_of_work hPoint with
            ⟨hPutting, hFull, hQueue⟩
          refine ⟨events, [], rfl, hPutting, hFull, rfl, ?_⟩
          change (run maxsize events).work.queue.items <:+ _
          exact hQueue ▸ List.suffix_refl _
      | decode b =>
          have hSame := decode_of_evicting hPoint
          change ((run maxsize events).decode b).point = _
            at hPoint
          rw [hSame] at hPoint
          rcases ih a hPoint with
            ⟨before, since, rfl, hRest⟩
          rcases hRest with
            ⟨hPutting, hFull, hSince, hSuffix⟩
          refine ⟨before, since ++ [.decode b],
            by simp, hPutting, hFull, ?_, ?_⟩
          · simpa [QueueEvent.isWork] using hSince
          · change ((run maxsize _).decode b).queue.items <:+ _
            rw [hSame]
            exact hSuffix
      | drain =>
          change ((run maxsize events).drain).point = _
            at hPoint
          rw [drain_point] at hPoint
          rcases ih a hPoint with
            ⟨before, since, rfl, hRest⟩
          rcases hRest with
            ⟨hPutting, hFull, hSince, hSuffix⟩
          refine ⟨before, since ++ [.drain],
            by simp, hPutting, hFull, ?_, ?_⟩
          · simpa [QueueEvent.isWork] using hSince
          · exact drain_items_suffix.trans hSuffix

/- The alert that an eviction takes is at the head of the
   queue. -/
theorem oldest_of_evicted
    {event : QueueEvent α}
    {oldest : α}
    (hEvicted :
      (s.step event).removed =
        s.removed ++ [.evicted oldest]) :
    event = .work ∧
      s.queue.items.head? = some oldest ∧
        ∃ a, s.point = .evicting a := by
  cases event with
  | decode b =>
      simp only [step, decode] at hEvicted
      split at hEvicted <;> simp at hEvicted
  | drain =>
      simp only [step, drain] at hEvicted
      split at hEvicted <;> simp at hEvicted
  | work =>
      simp only [step, work] at hEvicted
      split at hEvicted
      · simp at hEvicted
      · split at hEvicted <;> simp at hEvicted
      · rename_i a hPoint
        split at hEvicted
        · rename_i head queue hGet
          refine ⟨rfl, ?_, a, hPoint⟩
          rw [(BoundedQueue.getNowait_eq_some_iff.1 hGet).1]
          simpa using hEvicted
        · simp at hEvicted
      · split at hEvicted <;> simp at hEvicted

end AlertQueue

end FraudStream

------------------------------------------------------------
-- Every Schedule
------------------------------------------------------------

namespace FraudStream

namespace AlertQueue

variable {α : Type}
variable {maxsize : Int}
variable {s : AlertQueue α}

theorem workLeft_work :
    s.work.point.workLeft ≤ s.point.workLeft - 1 := by
  unfold work
  cases hPoint : s.point with
  | polling => simp [hPoint, PutPoint.workLeft]
  | putting a =>
      simp only
      split <;> simp [PutPoint.workLeft]
  | evicting a =>
      simp only
      split <;> simp [PutPoint.workLeft]
  | retrying a =>
      simp only
      split <;> simp [PutPoint.workLeft]

/- Each step of the consumer brings it closer to its next
   poll, whatever the dashboard does meanwhile. -/
theorem workLeft_foldl
    (s : AlertQueue α)
    (later : List (QueueEvent α))
    (hNoDecode : ∀ event ∈ later, event.isDecode = false) :
    (later.foldl step s).point.workLeft ≤
        s.point.workLeft - later.countP QueueEvent.isWork ∧
      (later.foldl step s).arrived = s.arrived := by
  induction later generalizing s with
  | nil => exact ⟨Nat.le_refl _, rfl⟩
  | cons event rest ih =>
      rw [List.forall_mem_cons] at hNoDecode
      rcases ih (s.step event) hNoDecode.2 with
        ⟨hLeft, hArrived⟩
      rw [List.foldl_cons]
      cases event with
      | decode a => cases hNoDecode.1
      | work =>
          have hWork := workLeft_work (s := s)
          have hSame : s.work.arrived = s.arrived := by
            unfold work
            split
            · rfl
            all_goals split <;> rfl
          rw [List.countP_cons_of_pos rfl]
          constructor
          · change _ ≤ s.work.point.workLeft - _ at hLeft
            omega
          · exact hArrived.trans hSame
      | drain =>
          have hSame : s.drain.arrived = s.arrived := by
            unfold drain
            split <;> rfl
          rw [List.countP_cons_of_neg Bool.false_ne_true]
          constructor
          · change _ ≤ s.drain.point.workLeft - _ at hLeft
            rwa [drain_point] at hLeft
          · exact hArrived.trans hSame

/- The alerts that arrived are all enqueued once the consumer
   has made three more steps. -/
theorem enqueued_of_three_steps
    (hMax : 1 ≤ maxsize)
    (events later : List (QueueEvent α))
    (hNoDecode : ∀ event ∈ later, event.isDecode = false)
    (hSteps : 3 ≤ later.countP QueueEvent.isWork) :
    (run maxsize (events ++ later)).enqueued =
      (run maxsize events).arrived := by
  have hKept :=
    wellKept_of_run hMax (events ++ later)
  rcases workLeft_foldl (run maxsize events) later
      hNoDecode with
    ⟨hLeft, hArrived⟩
  rw [run, List.foldl_append, ← run] at hKept ⊢
  have hStart :
      (run maxsize events).point.workLeft ≤ 3 := by
    cases (run maxsize events).point <;>
      simp [PutPoint.workLeft]
  have hHand :
      (later.foldl step (run maxsize events)).point.inHand =
        [] := by
    cases hPoint :
        (later.foldl step (run maxsize events)).point with
    | polling => rfl
    | _ =>
        rw [hPoint, PutPoint.workLeft] at hLeft
        omega
  have hPut := hKept.allPut
  rw [hHand, List.append_nil] at hPut
  exact hPut.trans hArrived

/- In every order of the steps, the queue stays within its
   bound, every alert is enqueued, alerts leave in the order
   of arrival, and an alert is evicted as the oldest of a
   queue that was found full. -/
theorem oldest_alert_is_dropped
    (maxsize : Int)
    (hMax : 1 ≤ maxsize)
    (events : List (QueueEvent α)) :
    WellKept maxsize (run maxsize events) ∧
      ((run maxsize events).drained ++
          (run maxsize events).queue.items).Sublist
        (run maxsize events).arrived ∧
      (∀ later : List (QueueEvent α),
        (∀ event ∈ later, event.isDecode = false) →
          3 ≤ later.countP QueueEvent.isWork →
            (run maxsize (events ++ later)).enqueued =
              (run maxsize events).arrived) ∧
      ∀ event oldest,
        ((run maxsize events).step event).removed =
            (run maxsize events).removed ++
              [.evicted oldest] →
          (run maxsize events).queue.items.head? =
              some oldest ∧
            ∃ a before since,
              events = before ++ .work :: since ∧
                (run maxsize before).point = .putting a ∧
                  (run maxsize before).queue.IsFull ∧
                    since.countP QueueEvent.isWork = 0 ∧
                      (run maxsize events).queue.items <:+
                        (run maxsize before).queue.items := by
  have hKept := wellKept_of_run hMax events
  refine ⟨hKept, hKept.drained_sublist,
    enqueued_of_three_steps hMax events, ?_⟩
  intro event oldest hEvicted
  rcases oldest_of_evicted hEvicted with
    ⟨_, hHead, a, hPoint⟩
  exact ⟨hHead, a, foundFull_of_run maxsize events a hPoint⟩

/- An alert is evicted from a queue of one, and the dashboard
   takes the one that replaced it. -/
theorem one_alert_is_dropped :
    1 ≤ (1 : Int) ∧
      WellKept 1
        (run 1
          [.decode 7, .work, .decode 8, .work, .work, .work,
            .drain]) := by
  have hMax : 1 ≤ (1 : Int) := by decide
  exact ⟨hMax, (oldest_alert_is_dropped 1 hMax _).1⟩

end AlertQueue

end FraudStream
