import Mathlib.Data.Finset.Sort
import Mathlib.Logic.Function.Basic
import FraudStream.Library.EventTime

/-
  Streams of stamped elements and watermarks, and keyed
  operators as functions on streams.

  An operator keeps one state a key, under one watermark.
  What it emits for an element carries the timestamp of the
  element, and watermarks pass through. The timers that a
  watermark reaches fire in ascending order.

  Key definitions include:
    * `EventStream.Item`
    * `EventStream.elements`
    * `EventStream.flatMap`
    * `EventStream.SameValues`
    * `EventStream.StampedBy`
    * `EventStream.watermarkAfter`
    * `EventTime.Keyed`
    * `EventTime.Operator.transform`
    * `EventTime.Operator.keyedAfter`

  The rules are:
    * `EventStream.mem_elements_flatMap_iff`
    * `EventStream.SameValues.eq_of_stampedBy`
    * `EventTime.Operator.mem_elements_transform`
    * `EventTime.Operator.transform_concat_element`
-/

------------------------------------------------------------
-- Streams
------------------------------------------------------------

namespace EventStream

variable {α β : Type}

/- One item of a stream. -/
inductive Item (α : Type) where
| element : (timestamp : Int) → α → Item α
| watermark : Int → Item α
deriving DecidableEq

/- The stamped elements of a stream. -/
def elements : List (Item α) → List (Int × α)
| [] => []
| .element t x :: items => (t, x) :: elements items
| .watermark _ :: items => elements items

/- The watermarks of a stream. -/
def watermarks : List (Item α) → List Int
| [] => []
| .element _ _ :: items => watermarks items
| .watermark w :: items => w :: watermarks items

/- The elements without their timestamps. -/
def values (items : List (Item α)) : List α :=
  (elements items).map Prod.snd

/- What a function makes of one item. -/
def Item.flatMap
    (f : α → List β) : Item α → List (Item β)
| .element t x => (f x).map (Item.element t)
| .watermark w => [.watermark w]

/- Replace each element, keeping its timestamp. -/
def flatMap
    (f : α → List β)
    (items : List (Item α)) : List (Item β) :=
  List.flatMap (Item.flatMap f) items

theorem elements_append
    (items items' : List (Item α)) :
    elements (items ++ items') =
      elements items ++ elements items' := by
  induction items with
  | nil => rfl
  | cons item items ih =>
      cases item with
      | element t x => simp [elements, ih]
      | watermark w => simp [elements, ih]

theorem elements_map_element
    (t : Int)
    (ys : List β) :
    elements (ys.map (Item.element t)) =
      ys.map (fun y => (t, y)) := by
  induction ys with
  | nil => rfl
  | cons y ys ih => simp [elements, ih]

/- An element of the result comes from one of the stream. -/
theorem mem_elements_flatMap_iff
    (f : α → List β)
    (items : List (Item α))
    (t : Int)
    (y : β) :
    (t, y) ∈ elements (flatMap f items) ↔
      ∃ x, (t, x) ∈ elements items ∧ y ∈ f x := by
  induction items with
  | nil => simp [flatMap, elements]
  | cons item items ih =>
      cases item with
      | element t' x =>
          have hHead :
              flatMap f (.element t' x :: items) =
                (f x).map (Item.element t') ++
                  flatMap f items := rfl
          rw [hHead, elements_append, elements_map_element,
            List.mem_append, ih]
          simp only [elements, List.mem_cons, List.mem_map,
            Prod.mk.injEq]
          constructor
          · rintro (⟨y', hMem, rfl, rfl⟩ | ⟨x', hMem, hy⟩)
            · exact ⟨x, .inl ⟨rfl, rfl⟩, hMem⟩
            · exact ⟨x', .inr hMem, hy⟩
          · rintro ⟨x', ⟨rfl, rfl⟩ | hMem, hy⟩
            · exact .inl ⟨y, hy, rfl, rfl⟩
            · exact .inr ⟨x', hMem, hy⟩
      | watermark w => exact ih

/- The same element at any two times, or one watermark. -/
def Item.SameValue : Item α → Item α → Prop
| .element _ x, .element _ y => x = y
| .watermark w, .watermark w' => w = w'
| _, _ => False

/- Two streams that differ in timestamps only. -/
def SameValues (items items' : List (Item α)) : Prop :=
  List.Forall₂ Item.SameValue items items'

theorem SameValues.flatMap
    {items items' : List (Item α)}
    (hSame : SameValues items items')
    (f : α → List β) :
    SameValues (EventStream.flatMap f items)
      (EventStream.flatMap f items') := by
  induction hSame with
  | nil => exact List.Forall₂.nil
  | @cons item item' items items' hHead hTail ih =>
      apply List.rel_append _ ih
      cases item with
      | element t x =>
          cases item' with
          | element t' x' =>
              cases hHead
              simp only [Item.flatMap,
                List.forall₂_map_left_iff,
                List.forall₂_map_right_iff]
              exact List.forall₂_same.2 (fun y _ => rfl)
          | watermark w => exact hHead.elim
      | watermark w =>
          cases item' with
          | element t' x' => exact hHead.elim
          | watermark w' =>
              cases hHead
              exact List.Forall₂.cons rfl List.Forall₂.nil

/- Every element carries the time that `stamp` reads off
   its value. -/
def StampedBy
    (stamp : α → Int)
    (items : List (Item α)) : Prop :=
  ∀ t x, (t, x) ∈ elements items → t = stamp x

/- Streams that carry the times of their values agree. -/
theorem SameValues.eq_of_stampedBy
    {stamp : α → Int}
    {items items' : List (Item α)}
    (hSame : SameValues items items')
    (hStamped : StampedBy stamp items)
    (hStamped' : StampedBy stamp items') :
    items = items' := by
  induction hSame with
  | nil => rfl
  | @cons item item' items items' hHead hTail ih =>
      cases item with
      | element t x =>
          cases item' with
          | element t' x' =>
              cases hHead
              have hTime := hStamped t x (by simp [elements])
              have hTime' :=
                hStamped' t' x (by simp [elements])
              rw [hTime, hTime', ih]
              · intro s y hMem
                exact hStamped s y (by simp [elements, hMem])
              · intro s y hMem
                exact hStamped' s y (by simp [elements, hMem])
          | watermark w => exact hHead.elim
      | watermark w =>
          cases item' with
          | element t' x' => exact hHead.elim
          | watermark w' =>
              cases hHead
              rw [ih hStamped hStamped']

/- The last watermark of a stream, or the one before it. -/
def watermarkAfter (w : Int) : List (Item α) → Int
| [] => w
| .element _ _ :: items => watermarkAfter w items
| .watermark w' :: items => watermarkAfter w' items

theorem watermarkAfter_append
    (w : Int)
    (items items' : List (Item α)) :
    watermarkAfter w (items ++ items') =
      watermarkAfter (watermarkAfter w items) items' := by
  induction items generalizing w with
  | nil => rfl
  | cons item items ih =>
      cases item with
      | element t x => exact ih w
      | watermark w' => exact ih w'

@[simp] theorem watermarkAfter_map_element
    (w t : Int)
    (ys : List β) :
    watermarkAfter w (ys.map (Item.element t)) = w := by
  induction ys with
  | nil => rfl
  | cons y ys ih => exact ih

@[simp] theorem flatMap_append
    (f : α → List β)
    (items items' : List (Item α)) :
    flatMap f (items ++ items') =
      flatMap f items ++ flatMap f items' :=
  List.flatMap_append

theorem flatMap_isPrefix
    (f : α → List β)
    {items items' : List (Item α)}
    (hPrefix : items <+: items') :
    flatMap f items <+: flatMap f items' := by
  rcases hPrefix with ⟨rest, rfl⟩
  rw [flatMap_append]
  exact List.prefix_append _ _

theorem elements_isPrefix
    {items items' : List (Item α)}
    (hPrefix : items <+: items') :
    elements items <+: elements items' := by
  rcases hPrefix with ⟨rest, rfl⟩
  rw [elements_append]
  exact List.prefix_append _ _

theorem flatMap_element
    (f : α → List β)
    (t : Int)
    (x : α) :
    flatMap f [.element t x] =
      (f x).map (Item.element t) := by
  simp [flatMap, Item.flatMap]

/- Watermarks pass through unchanged. -/
theorem watermarkAfter_flatMap
    (f : α → List β)
    (w : Int)
    (items : List (Item α)) :
    watermarkAfter w (flatMap f items) =
      watermarkAfter w items := by
  induction items generalizing w with
  | nil => rfl
  | cons item items ih =>
      have hCons :
          flatMap f (item :: items) =
            item.flatMap f ++ flatMap f items := rfl
      rw [hCons, watermarkAfter_append, ih]
      cases item with
      | element t x =>
          rw [Item.flatMap, watermarkAfter_map_element,
            watermarkAfter]
      | watermark w' => rfl

end EventStream

------------------------------------------------------------
-- Keyed Operators
------------------------------------------------------------

namespace EventTime

open EventStream

/- A state and timers for each key, under one watermark. -/
structure Keyed (κ σ : Type) where
  states : κ → KeyState σ
  watermark : Int

namespace Operator

variable {κ σ α β : Type}

/- No key has been seen. -/
def startKeyed (op : Operator σ α β) : Keyed κ σ where
  states := fun _ => { state := op.init, timers := ∅ }
  watermark := minLong

/- The output for one element of a key. -/
def outputOf
    (op : Operator σ α β)
    (rt : Keyed κ σ)
    (k : κ)
    (t : Int)
    (x : α) : List β :=
  (op.processElement t rt.watermark x
    (rt.states k).state).output

/- Process one element of a key. -/
def processKey
    [DecidableEq κ]
    (op : Operator σ α β)
    (rt : Keyed κ σ)
    (k : κ)
    (t : Int)
    (x : α) : Keyed κ σ where
  states :=
    Function.update rt.states k
      ((rt.states k).process op t rt.watermark x)
  watermark := rt.watermark

/- Advance the watermark of every key. -/
def advanceKeys
    (op : Operator σ α β)
    (rt : Keyed κ σ)
    (w : Int) : Keyed κ σ where
  states := fun k =>
    (rt.states k).fire op w
      (((rt.states k).due w).sort (· ≤ ·))
  watermark := w

variable [DecidableEq κ]

/- The output stream from a given state on. -/
def transformFrom
    (op : Operator σ α β)
    (key : α → κ)
    (rt : Keyed κ σ) :
    List (Item α) → List (Item β)
| [] => []
| .element t x :: items =>
    (op.outputOf rt (key x) t x).map (Item.element t) ++
      transformFrom op key
        (op.processKey rt (key x) t x) items
| .watermark w :: items =>
    .watermark w ::
      transformFrom op key (op.advanceKeys rt w) items

/- The output stream of a keyed operator. -/
def transform
    (op : Operator σ α β)
    (key : α → κ)
    (items : List (Item α)) : List (Item β) :=
  transformFrom op key op.startKeyed items

/- An emitted element carries the timestamp of the element
   it was emitted for. -/
theorem mem_elements_transformFrom
    (op : Operator σ α β)
    (key : α → κ)
    {rt : Keyed κ σ}
    {items : List (Item α)}
    {t : Int}
    {y : β}
    (hMem :
      (t, y) ∈ elements (transformFrom op key rt items)) :
    ∃ x w s, (t, x) ∈ elements items ∧
      y ∈ (op.processElement t w x s).output := by
  induction items generalizing rt with
  | nil => simp [transformFrom, elements] at hMem
  | cons item items ih =>
      cases item with
      | element t' x =>
          rw [transformFrom, elements_append,
            elements_map_element, List.mem_append] at hMem
          rcases hMem with hHere | hLater
          · simp only [List.mem_map, Prod.mk.injEq]
              at hHere
            rcases hHere with ⟨y', hOut, rfl, rfl⟩
            exact
              ⟨x, rt.watermark, (rt.states (key x)).state,
                by simp [elements], hOut⟩
          · rcases ih hLater with ⟨x', w, s, hMem, hOut⟩
            exact
              ⟨x', w, s, by simp [elements, hMem], hOut⟩
      | watermark w => exact ih hMem

/- The states and the watermark after a stream. -/
def keyedAfter
    (op : Operator σ α β)
    (key : α → κ)
    (rt : Keyed κ σ) :
    List (Item α) → Keyed κ σ
| [] => rt
| .element t x :: items =>
    keyedAfter op key (op.processKey rt (key x) t x) items
| .watermark w :: items =>
    keyedAfter op key (op.advanceKeys rt w) items

/- Later items are processed from the state that the earlier
   items leave. -/
theorem transformFrom_append
    (op : Operator σ α β)
    (key : α → κ)
    (rt : Keyed κ σ)
    (items items' : List (Item α)) :
    transformFrom op key rt (items ++ items') =
      transformFrom op key rt items ++
        transformFrom op key (keyedAfter op key rt items)
          items' := by
  induction items generalizing rt with
  | nil => rfl
  | cons item items ih =>
      cases item with
      | element t x =>
          simp [transformFrom, keyedAfter, ih]
      | watermark w =>
          simp [transformFrom, keyedAfter, ih]

/- What has been emitted stays. -/
theorem transform_isPrefix
    (op : Operator σ α β)
    (key : α → κ)
    {items items' : List (Item α)}
    (hPrefix : items <+: items') :
    op.transform key items <+: op.transform key items' := by
  rcases hPrefix with ⟨rest, rfl⟩
  rw [transform, transform, transformFrom_append]
  exact List.prefix_append _ _

/- One more element adds its own outputs. -/
theorem transform_concat_element
    (op : Operator σ α β)
    (key : α → κ)
    (items : List (Item α))
    (t : Int)
    (x : α) :
    op.transform key (items ++ [.element t x]) =
      op.transform key items ++
        (op.outputOf (keyedAfter op key op.startKeyed items)
          (key x) t x).map (Item.element t) := by
  rw [transform, transformFrom_append, transform]
  simp [transformFrom]

theorem watermark_keyedAfter
    (op : Operator σ α β)
    (key : α → κ)
    (rt : Keyed κ σ)
    (items : List (Item α)) :
    (keyedAfter op key rt items).watermark =
      watermarkAfter rt.watermark items := by
  induction items generalizing rt with
  | nil => rfl
  | cons item items ih =>
      cases item with
      | element t x => exact ih _
      | watermark w => exact ih _

theorem watermarkAfter_transformFrom
    (op : Operator σ α β)
    (key : α → κ)
    (rt : Keyed κ σ)
    (w : Int)
    (items : List (Item α)) :
    watermarkAfter w (transformFrom op key rt items) =
      watermarkAfter w items := by
  induction items generalizing rt w with
  | nil => rfl
  | cons item items ih =>
      cases item with
      | element t x =>
          rw [transformFrom, watermarkAfter_append,
            watermarkAfter_map_element, ih, watermarkAfter]
      | watermark w' => exact ih _ w'

theorem mem_elements_transform
    (op : Operator σ α β)
    (key : α → κ)
    {items : List (Item α)}
    {t : Int}
    {y : β}
    (hMem : (t, y) ∈ elements (op.transform key items)) :
    ∃ x w s, (t, x) ∈ elements items ∧
      y ∈ (op.processElement t w x s).output :=
  mem_elements_transformFrom op key hMem

end Operator

end EventTime
