import Mathlib.Algebra.BigOperators.Group.Finset.Piecewise
import Mathlib.Algebra.Order.BigOperators.Group.Finset
import Mathlib.Data.Finset.Card
import Mathlib.Data.Fintype.Basic
import FraudStream.Analytics.AlertQueue
import FraudStream.Library.SeenLoop

/-
  The live feed of the dashboard.

  Every open page has a session of its own, and all of them
  take their alerts from the queue of the one consumer. A
  session keeps the newest alerts and a set of transaction
  ids that it has seen. When the set grows too large, some id
  is discarded: whichever the iteration over the set comes to
  first.

  Key definitions include:
    * `SetOrder`
    * `FeedSession.receive`
    * `LiveFeed.step`, `LiveFeed.run`
    * `FeedSession.Shows`

  Main results:
    * `LiveFeed.shows_of_run`
    * `LiveFeed.displays_each_alert_once`
    * `LiveFeed.displays_first_alerts`
-/

------------------------------------------------------------
-- One Session
------------------------------------------------------------

namespace FraudStream

def dequeMax : Nat := 500

/- What an iteration over a set comes to first. -/
structure SetOrder (κ : Type) where
  first : Finset κ → κ
  first_mem : ∀ seen, seen.Nonempty → first seen ∈ seen

/- `live_feed_buffer`, the newest alert first, and
   `live_feed_seen`. -/
structure FeedSession (α κ : Type) where
  buffer : List α
  seen : Finset κ

namespace FeedSession

variable {α κ : Type}
variable [DecidableEq κ]

def init : FeedSession α κ where
  buffer := []
  seen := ∅

/- `buf.appendleft(alert)` of a deque with a maximal
   length. -/
def appendleft
    (buffer : List α)
    (alert : α) : List α :=
  (alert :: buffer).take dequeMax

/- `seen.discard(next(iter(seen)))` of a set that is too
   large. -/
def discardFirst
    (order : SetOrder κ)
    (seen : Finset κ) : Finset κ :=
  if dequeMax < seen.card then
    seen.erase (order.first seen)
  else
    seen

variable (transactionId : α → κ)

/- The body of the loop that drains the queue. -/
def receive
    (session : FeedSession α κ)
    (order : SetOrder κ)
    (alert : α) : FeedSession α κ :=
  if transactionId alert ∈ session.seen then
    { session with seen := discardFirst order session.seen }
  else
    { buffer := appendleft session.buffer alert
      seen :=
        discardFirst order
          (insert (transactionId alert) session.seen) }

end FeedSession

end FraudStream

------------------------------------------------------------
-- The Pages Over One Queue
------------------------------------------------------------

namespace FraudStream

/- The consumer decodes an alert or makes its next step, or
   the page of a session takes an alert. -/
inductive FeedEvent (ι α κ : Type) where
| decode : α → FeedEvent ι α κ
| work
| drain : ι → SetOrder κ → FeedEvent ι α κ

/- The queue, the sessions, and the alerts that each of them
   took. -/
structure LiveFeed (ι α κ : Type) where
  consumer : AlertQueue α
  sessions : ι → FeedSession α κ
  taken : ι → List α

namespace LiveFeed

variable {ι α κ : Type}
variable [DecidableEq ι] [DecidableEq κ]

def init (maxsize : Int) : LiveFeed ι α κ where
  consumer := AlertQueue.init maxsize
  sessions := fun _ => FeedSession.init
  taken := fun _ => []

variable (transactionId : α → κ)

/- `consumer.queue.get_nowait()` of a session, and what the
   session does with the alert. -/
def drain
    (feed : LiveFeed ι α κ)
    (i : ι)
    (order : SetOrder κ) : LiveFeed ι α κ :=
  match feed.consumer.queue.getNowait with
  | none => feed
  | some (alert, _) =>
      { consumer := feed.consumer.drain
        sessions :=
          Function.update feed.sessions i
            ((feed.sessions i).receive transactionId order
              alert)
        taken :=
          Function.update feed.taken i
            (feed.taken i ++ [alert]) }

def step
    (feed : LiveFeed ι α κ) :
    FeedEvent ι α κ → LiveFeed ι α κ
| .decode alert =>
    { feed with consumer := feed.consumer.decode alert }
| .work => { feed with consumer := feed.consumer.work }
| .drain i order => feed.drain transactionId i order

def run
    (maxsize : Int)
    (events : List (FeedEvent ι α κ)) : LiveFeed ι α κ :=
  events.foldl (step transactionId) (init maxsize)

end LiveFeed

end FraudStream

------------------------------------------------------------
-- What A Session Shows
------------------------------------------------------------

namespace FraudStream

namespace FeedSession

variable {α κ : Type}
variable [DecidableEq κ]
variable (transactionId : α → κ)

/- The ids of some alerts. -/
def ids (alerts : List α) : Finset κ :=
  (alerts.map transactionId).toFinset

/- The buffer has the newest of the accepted alerts, which
   are some of those that came. As long as no more ids came
   than the set may hold, they are the first alert of each
   id. -/
structure Shows
    (came : List α)
    (session : FeedSession α κ)
    (accepted : List α) : Prop where
  buffer_eq :
    session.buffer = accepted.reverse.take dequeMax
  accepted_sublist : accepted.Sublist came
  seen_card : session.seen.card ≤ dequeMax
  firsts :
    (ids transactionId came).card ≤ dequeMax →
      accepted =
          BatchBuffer.firstOccurrences transactionId []
            came ∧
        session.seen = ids transactionId came

theorem shows_init :
    Shows transactionId [] (init : FeedSession α κ) [] where
  buffer_eq := rfl
  accepted_sublist := List.Sublist.refl []
  seen_card := Nat.zero_le dequeMax
  firsts := fun _ => ⟨rfl, rfl⟩

theorem discardFirst_of_le
    (order : SetOrder κ)
    {seen : Finset κ}
    (hSmall : seen.card ≤ dequeMax) :
    discardFirst order seen = seen :=
  if_neg (Nat.not_lt.2 hSmall)

theorem card_discardFirst
    (order : SetOrder κ)
    {seen : Finset κ}
    (hCard : seen.card ≤ dequeMax + 1) :
    (discardFirst order seen).card ≤ dequeMax := by
  unfold discardFirst
  split
  · rename_i hLarge
    have hNonempty : seen.Nonempty := by
      rw [← Finset.card_pos]
      omega
    rw [Finset.card_erase_of_mem
      (order.first_mem seen hNonempty)]
    omega
  · omega

theorem appendleft_take
    (accepted : List α)
    (alert : α) :
    appendleft (accepted.reverse.take dequeMax) alert =
      (accepted ++ [alert]).reverse.take dequeMax := by
  rw [List.reverse_append, List.reverse_singleton,
    List.singleton_append, appendleft]
  change
    (alert :: accepted.reverse.take 500).take (499 + 1) =
      (alert :: accepted.reverse).take (499 + 1)
  rw [List.take_succ_cons, List.take_succ_cons,
    List.take_take]
  rfl

theorem ids_append
    (came : List α)
    (alert : α) :
    ids transactionId (came ++ [alert]) =
      insert (transactionId alert)
        (ids transactionId came) := by
  ext k
  simp [ids]

/- One more alert, known or new. -/
theorem firstOccurrences_concat
    (came : List α)
    (alert : α) :
    BatchBuffer.firstOccurrences transactionId []
        (came ++ [alert]) =
      BatchBuffer.firstOccurrences transactionId [] came ++
        if transactionId alert ∈ ids transactionId came then
          []
        else
          [alert] := by
  have hOne :
      BatchBuffer.firstOccurrences transactionId [] [alert] =
        [alert] := by
    simp [BatchBuffer.firstOccurrences]
  rw [BatchBuffer.firstOccurrences_append, hOne]
  by_cases hKnown :
      transactionId alert ∈ came.map transactionId
  · simp [ids, BatchBuffer.isNew, hKnown]
  · simp [ids, BatchBuffer.isNew, hKnown]

/- There are no more first alerts than ids. -/
theorem length_firstOccurrences_le
    (came : List α) :
    (BatchBuffer.firstOccurrences transactionId []
        came).length ≤
      (ids transactionId came).card := by
  have hDistinct :=
    BatchBuffer.nodup_map_firstOccurrences transactionId []
      came
  have hLength :
      (BatchBuffer.firstOccurrences transactionId []
          came).length =
        ((BatchBuffer.firstOccurrences transactionId []
          came).map transactionId).length :=
    (List.length_map transactionId).symm
  rw [hLength, ← List.toFinset_card_of_nodup hDistinct]
  apply Finset.card_le_card
  intro k hMem
  rw [List.mem_toFinset] at hMem
  have hSubset :=
    (BatchBuffer.firstOccurrences_sublist transactionId []
      came).subset
  rw [ids, List.mem_toFinset]
  exact List.map_subset transactionId hSubset hMem

theorem shows_receive
    {came accepted : List α}
    {session : FeedSession α κ}
    (hShows : Shows transactionId came session accepted)
    (order : SetOrder κ)
    (alert : α) :
    ∃ accepted',
      Shows transactionId (came ++ [alert])
        (session.receive transactionId order alert)
        accepted' := by
  have hFew :
      (ids transactionId (came ++ [alert])).card ≤
          dequeMax →
        (ids transactionId came).card ≤ dequeMax := by
    intro hMore
    rw [ids_append] at hMore
    exact Nat.le_trans
      (Finset.card_le_card (Finset.subset_insert _ _)) hMore
  by_cases hSeen : transactionId alert ∈ session.seen
  · refine ⟨accepted, ?_⟩
    rw [receive, if_pos hSeen,
      discardFirst_of_le order hShows.seen_card]
    refine
      { buffer_eq := hShows.buffer_eq
        accepted_sublist :=
          hShows.accepted_sublist.trans
            (List.sublist_append_left came [alert])
        seen_card := hShows.seen_card
        firsts := ?_ }
    intro hMore
    obtain ⟨hAccepted, hIds⟩ := hShows.firsts (hFew hMore)
    have hKnown :
        transactionId alert ∈ ids transactionId came :=
      hIds ▸ hSeen
    rw [firstOccurrences_concat, if_pos hKnown,
      List.append_nil, ids_append,
      Finset.insert_eq_of_mem hKnown]
    exact ⟨hAccepted, hIds⟩
  · refine ⟨accepted ++ [alert], ?_⟩
    rw [receive, if_neg hSeen]
    refine
      { buffer_eq := ?_
        accepted_sublist :=
          List.Sublist.append hShows.accepted_sublist
            (List.Sublist.refl [alert])
        seen_card := ?_
        firsts := ?_ }
    · rw [hShows.buffer_eq]
      exact appendleft_take accepted alert
    · apply card_discardFirst
      rw [Finset.card_insert_of_notMem hSeen]
      exact Nat.succ_le_succ hShows.seen_card
    · intro hMore
      obtain ⟨hAccepted, hIds⟩ := hShows.firsts (hFew hMore)
      have hNew :
          transactionId alert ∉ ids transactionId came :=
        hIds ▸ hSeen
      rw [ids_append] at hMore ⊢
      rw [firstOccurrences_concat, if_neg hNew, hAccepted]
      refine ⟨rfl, ?_⟩
      rw [hIds, discardFirst_of_le order hMore]

end FeedSession

end FraudStream

------------------------------------------------------------
-- What Every Schedule Keeps
------------------------------------------------------------

namespace FraudStream

namespace LiveFeed

open FeedSession

variable {ι α κ : Type}
variable [DecidableEq ι] [DecidableEq κ]
variable (transactionId : α → κ)

/- The queue does not know the sessions apart. -/
def queueEvent : FeedEvent ι α κ → QueueEvent α
| .decode alert => .decode alert
| .work => .work
| .drain _ _ => .drain

omit [DecidableEq ι] in
theorem run_append_singleton
    [DecidableEq ι]
    (maxsize : Int)
    (events : List (FeedEvent ι α κ))
    (event : FeedEvent ι α κ) :
    run transactionId maxsize (events ++ [event]) =
      step transactionId (run transactionId maxsize events)
        event := by
  rw [run, List.foldl_append]
  rfl

theorem consumer_step
    (feed : LiveFeed ι α κ)
    (event : FeedEvent ι α κ) :
    (step transactionId feed event).consumer =
      feed.consumer.step (queueEvent event) := by
  cases event with
  | decode alert => rfl
  | work => rfl
  | drain i order =>
      change
        (drain transactionId feed i order).consumer =
          feed.consumer.drain
      unfold drain
      split
      · rename_i hEmpty
        rw [AlertQueue.drain, hEmpty]
      · rfl

/- The queue and its consumer run as they do with a single
   page. -/
theorem consumer_run
    (maxsize : Int)
    (events : List (FeedEvent ι α κ)) :
    (run transactionId maxsize events).consumer =
      AlertQueue.run maxsize (events.map queueEvent) := by
  induction events using List.reverseRecOn with
  | nil => rfl
  | append_singleton events event ih =>
      rw [run_append_singleton, consumer_step, ih,
        List.map_append, List.map_singleton,
        AlertQueue.run_append_singleton]

/- Each session shows what it took. -/
theorem shows_of_run
    (maxsize : Int)
    (events : List (FeedEvent ι α κ))
    (i : ι) :
    ∃ accepted,
      Shows transactionId
        ((run transactionId maxsize events).taken i)
        ((run transactionId maxsize events).sessions i)
        accepted := by
  induction events using List.reverseRecOn with
  | nil => exact ⟨[], shows_init transactionId⟩
  | append_singleton events event ih =>
      rw [run_append_singleton]
      generalize run transactionId maxsize events = feed
        at ih
      obtain ⟨accepted, hShows⟩ := ih
      cases event with
      | decode alert => exact ⟨accepted, hShows⟩
      | work => exact ⟨accepted, hShows⟩
      | drain j order =>
          change
            ∃ accepted,
              Shows transactionId
                ((drain transactionId feed j order).taken i)
                ((drain transactionId feed j
                  order).sessions i)
                accepted
          unfold drain
          split
          · exact ⟨accepted, hShows⟩
          · rename_i alert queue hGet
            by_cases hSame : i = j
            · subst hSame
              simp only [Function.update_self]
              exact
                shows_receive transactionId hShows order
                  alert
            · simp only [Function.update_of_ne hSame]
              exact ⟨accepted, hShows⟩

/- The consumer takes alerts out for no page. -/
theorem drained_work (queue : AlertQueue α) :
    queue.work.drained = queue.drained := by
  unfold AlertQueue.work
  split
  · rfl
  · split <;> rfl
  · split <;>
      simp [AlertQueue.drained, Removal.drained?]
  · split <;> rfl

variable [Fintype ι] [DecidableEq α]

theorem count_update
    (taken : ι → List α)
    (i : ι)
    (alert other : α) :
    (∑ j,
      (Function.update taken i
        (taken i ++ [alert]) j).count other) =
      (∑ j, (taken j).count other) +
        [alert].count other := by
  have hSplit :
      ∀ j,
        (Function.update taken i
          (taken i ++ [alert]) j).count other =
          (taken j).count other +
            if j = i then [alert].count other else 0 := by
    intro j
    by_cases hSame : j = i
    · subst hSame
      rw [Function.update_self, List.count_append,
        if_pos rfl]
    · rw [Function.update_of_ne hSame, if_neg hSame,
        Nat.add_zero]
  rw [Finset.sum_congr rfl (fun j _ => hSplit j),
    Finset.sum_add_distrib, Finset.sum_ite_eq',
    if_pos (Finset.mem_univ i)]

/- The alerts that left the queue for a page, the sessions
   have among them. -/
theorem count_drained
    (maxsize : Int)
    (events : List (FeedEvent ι α κ))
    (alert : α) :
    (run transactionId maxsize
      events).consumer.drained.count alert =
      ∑ i,
        ((run transactionId maxsize events).taken i).count
          alert := by
  induction events using List.reverseRecOn with
  | nil =>
      simp [run, init, AlertQueue.init, AlertQueue.drained]
  | append_singleton events event ih =>
      rw [run_append_singleton]
      generalize run transactionId maxsize events = feed
        at ih
      cases event with
      | decode a =>
          refine Eq.trans ?_ ih
          congr 1
          change (feed.consumer.decode a).drained = _
          unfold AlertQueue.decode
          split <;> rfl
      | work =>
          refine Eq.trans ?_ ih
          congr 1
          exact drained_work feed.consumer
      | drain i order =>
          change
            (drain transactionId feed i
              order).consumer.drained.count alert =
              ∑ j,
                ((drain transactionId feed i
                  order).taken j).count alert
          unfold drain
          split
          · exact ih
          · rename_i taken queue hGet
            rw [count_update, ← ih]
            simp [AlertQueue.drain, hGet,
              AlertQueue.drained, Removal.drained?]

end LiveFeed

end FraudStream

------------------------------------------------------------
-- All Open Pages
------------------------------------------------------------

namespace FraudStream

namespace LiveFeed

open FeedSession

variable {ι α κ : Type}
variable [DecidableEq ι] [DecidableEq κ]

/- What a session shows, it took. -/
theorem buffer_sublist_taken
    (transactionId : α → κ)
    (maxsize : Int)
    (events : List (FeedEvent ι α κ))
    (i : ι) :
    let feed := run transactionId maxsize events
    (feed.sessions i).buffer.reverse.Sublist
      (feed.taken i) := by
  intro feed
  obtain ⟨accepted, hShows⟩ :=
    shows_of_run transactionId maxsize events i
  rw [hShows.buffer_eq, ← List.reverse_reverse accepted]
  refine List.Sublist.trans ?_
    (List.reverse_reverse accepted ▸ hShows.accepted_sublist)
  rw [List.reverse_reverse]
  exact (List.take_sublist _ _).reverse

omit [DecidableEq ι] [DecidableEq κ] in
/- What was taken out, was evicted or drained. -/
theorem count_removed
    [DecidableEq α]
    (removed : List (Removal α))
    (alert : α) :
    (removed.map Removal.alert).count alert =
      removed.count (.evicted alert) +
        (removed.filterMap Removal.drained?).count alert := by
  induction removed with
  | nil => rfl
  | cons removal removed ih =>
      cases removal with
      | drained a =>
          have hOther :
              (Removal.drained a :: removed).count
                  (.evicted alert) =
                removed.count (.evicted alert) :=
            List.count_cons_of_ne (by simp)
          have hTaken :
              (Removal.drained a :: removed).filterMap
                  Removal.drained? =
                a :: removed.filterMap Removal.drained? :=
            rfl
          rw [List.map_cons, Removal.alert, List.count_cons,
            hOther, hTaken, List.count_cons, ih]
          omega
      | evicted a =>
          have hKept :
              (Removal.evicted a :: removed).filterMap
                  Removal.drained? =
                removed.filterMap Removal.drained? :=
            rfl
          rw [List.map_cons, Removal.alert, List.count_cons,
            hKept, List.count_cons, ih]
          simp only [beq_iff_eq, Removal.evicted.injEq]
          omega

/- The pages divide the alerts among them: each alert is
   waiting, was evicted, or was taken by one session, and all
   pages together show it no more often than it arrived. -/
theorem displays_each_alert_once
    [Fintype ι] [DecidableEq α]
    (transactionId : α → κ)
    (maxsize : Int)
    (hMax : 1 ≤ maxsize)
    (events : List (FeedEvent ι α κ))
    (alert : α) :
    let feed := run transactionId maxsize events
    feed.consumer.enqueued.count alert =
        (feed.consumer.removed.count (.evicted alert)) +
          feed.consumer.queue.items.count alert +
          ∑ i, (feed.taken i).count alert ∧
      ∑ i, (feed.sessions i).buffer.count alert ≤
        feed.consumer.arrived.count alert := by
  intro feed
  have hQueue :
      feed.consumer =
        AlertQueue.run maxsize (events.map queueEvent) :=
    consumer_run transactionId maxsize events
  have hKept : feed.consumer.WellKept maxsize := by
    rw [hQueue]
    exact AlertQueue.wellKept_of_run hMax _
  have hDrained :
      feed.consumer.drained.count alert =
        ∑ i, (feed.taken i).count alert :=
    count_drained transactionId maxsize events alert
  have hEnqueued :
      feed.consumer.enqueued.count alert =
        feed.consumer.removed.count (.evicted alert) +
          feed.consumer.queue.items.count alert +
          ∑ i, (feed.taken i).count alert := by
    rw [← hDrained, AlertQueue.drained, ← hKept.inOrder,
      List.count_append, count_removed]
    omega
  refine ⟨hEnqueued, ?_⟩
  have hArrived :
      feed.consumer.enqueued.count alert ≤
        feed.consumer.arrived.count alert := by
    rw [← hKept.allPut]
    exact (List.sublist_append_left _ _).count_le alert
  calc
    ∑ i, (feed.sessions i).buffer.count alert
    _ ≤ ∑ i, (feed.taken i).count alert := by
        apply Finset.sum_le_sum
        intro i _
        rw [← List.count_reverse]
        exact
          (buffer_sublist_taken transactionId maxsize events
            i).count_le alert
    _ ≤ feed.consumer.enqueued.count alert := by
        rw [hEnqueued]
        exact Nat.le_add_left _ _
    _ ≤ feed.consumer.arrived.count alert := hArrived

/- A page holds at most five hundred alerts, and as many ids.
   Until it took alerts of more than five hundred
   transactions, it shows the first alert of each of them,
   the newest on top. -/
theorem displays_first_alerts
    (transactionId : α → κ)
    (maxsize : Int)
    (events : List (FeedEvent ι α κ))
    (i : ι) :
    let feed := run transactionId maxsize events
    (feed.sessions i).buffer.length ≤ dequeMax ∧
      (feed.sessions i).seen.card ≤ dequeMax ∧
      ((ids transactionId (feed.taken i)).card ≤ dequeMax →
        (feed.sessions i).buffer =
          (BatchBuffer.firstOccurrences transactionId []
            (feed.taken i)).reverse) := by
  intro feed
  obtain ⟨accepted, hShows⟩ :=
    shows_of_run transactionId maxsize events i
  refine ⟨?_, hShows.seen_card, ?_⟩
  · rw [hShows.buffer_eq]
    exact List.length_take_le _ _
  · intro hFew
    rw [hShows.buffer_eq, (hShows.firsts hFew).1]
    apply List.take_of_length_le
    rw [List.length_reverse]
    refine Nat.le_trans ?_ hFew
    exact length_firstOccurrences_le transactionId _

def trueFirst : SetOrder Bool where
  first := fun seen => decide (true ∈ seen)
  first_mem := by
    intro seen hNonempty
    obtain ⟨k, hMem⟩ := hNonempty
    cases k with
    | true =>
        rw [decide_eq_true hMem]
        exact hMem
    | false =>
        by_cases hTrue : true ∈ seen
        · rw [decide_eq_true hTrue]
          exact hTrue
        · rw [decide_eq_false hTrue]
          exact hMem

/- Two pages, and two alerts of one transaction. -/
def twoPages : List (FeedEvent Bool (Bool × Nat) Bool) :=
  [.decode (true, 1), .work, .decode (true, 2), .work,
    .drain true trueFirst, .drain false trueFirst]

theorem alert_is_displayed_once :
    let feed := run Prod.fst 500 twoPages
    ∑ i, (feed.sessions i).buffer.count (true, 1) ≤
      feed.consumer.arrived.count (true, 1) :=
  (displays_each_alert_once Prod.fst 500 (by decide)
    twoPages (true, 1)).2

end LiveFeed

end FraudStream
