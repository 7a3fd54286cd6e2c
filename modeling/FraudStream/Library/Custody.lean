import Mathlib.Data.List.Count
import Mathlib.Logic.Function.Basic

/-
  Items that are handed from place to place.

  A place holds a list of items. An item enters at one
  place, and the whole contents of a place are moved to
  another one. Every item that has entered is held exactly
  once, at one place.

  Key definitions include:
    * `Custody.HeldOnce`
    * `Custody.put`
    * `Custody.move`
    * `Custody.Accounted`

  The rules are:
    * `Custody.accounted_put`
    * `Custody.accounted_move`
-/

------------------------------------------------------------
-- Places
------------------------------------------------------------

namespace Custody

variable {π α : Type}
variable [DecidableEq π] [DecidableEq α]

/- What each place holds. -/
abbrev Contents (π α : Type) := π → List α

/- One place holds the item, and holds it once. -/
def HeldOnce
    (c : Contents π α)
    (x : α) : Prop :=
  ∃ p, (c p).count x = 1 ∧ ∀ q, q ≠ p → x ∉ c q

/- No place holds the item. -/
def HeldNowhere
    (c : Contents π α)
    (x : α) : Prop :=
  ∀ p, x ∉ c p

/- An item enters at a place. -/
def put
    (c : Contents π α)
    (p : π)
    (x : α) : Contents π α :=
  Function.update c p (c p ++ [x])

/- The contents of one place go to another one. -/
def move
    (c : Contents π α)
    (source target : π) : Contents π α :=
  Function.update
    (Function.update c target (c target ++ c source))
    source []

/- The items that have entered are held once each, and
   nothing else is held. -/
def Accounted
    (c : Contents π α)
    (entered : α → Prop) : Prop :=
  ∀ x, (entered x → HeldOnce c x) ∧
    (¬ entered x → HeldNowhere c x)

end Custody

------------------------------------------------------------
-- Entering And Moving
------------------------------------------------------------

namespace Custody

variable {π α : Type}
variable [DecidableEq π] [DecidableEq α]
variable {c : Contents π α}

omit [DecidableEq α] in
@[simp] theorem put_self
    (p : π)
    (x : α) :
    put c p x p = c p ++ [x] :=
  Function.update_self ..

omit [DecidableEq α] in
theorem put_of_ne
    {p q : π}
    (hPlaces : q ≠ p)
    (x : α) :
    put c p x q = c q :=
  Function.update_of_ne hPlaces ..

omit [DecidableEq α] in
@[simp] theorem move_source
    (source target : π) :
    move c source target source = [] :=
  Function.update_self ..

omit [DecidableEq α] in
theorem move_target
    {source target : π}
    (hPlaces : source ≠ target) :
    move c source target target = c target ++ c source := by
  rw [move, Function.update_of_ne hPlaces.symm,
    Function.update_self]

omit [DecidableEq α] in
theorem move_of_ne
    {source target q : π}
    (hSource : q ≠ source)
    (hTarget : q ≠ target) :
    move c source target q = c q := by
  rw [move, Function.update_of_ne hSource,
    Function.update_of_ne hTarget]

omit [DecidableEq α] in
theorem mem_put
    (p q : π)
    (x y : α) :
    y ∈ put c p x q ↔ y ∈ c q ∨ (q = p ∧ y = x) := by
  by_cases hPlace : q = p
  · subst hPlace
    simp
  · simp [put_of_ne hPlace, hPlace]

omit [DecidableEq α] in
theorem mem_move
    {source target : π}
    (hPlaces : source ≠ target)
    (q : π)
    (x : α) :
    x ∈ move c source target q ↔
      q ≠ source ∧
        (x ∈ c q ∨ (q = target ∧ x ∈ c source)) := by
  by_cases hSource : q = source
  · subst hSource
    simp
  · by_cases hTarget : q = target
    · subst hTarget
      simp [move_target hPlaces, hPlaces.symm]
    · simp [move_of_ne hSource hTarget, hSource, hTarget]

omit [DecidableEq α] in
theorem heldNowhere_move
    {source target : π}
    {x : α}
    (hPlaces : source ≠ target)
    (hNowhere : HeldNowhere c x) :
    HeldNowhere (move c source target) x := by
  intro q hMem
  rw [mem_move hPlaces] at hMem
  rcases hMem with ⟨-, hHere | ⟨-, hSource⟩⟩
  · exact hNowhere q hHere
  · exact hNowhere source hSource

/- What was at the source is at the target, and what was
   elsewhere stays there. -/
theorem heldOnce_move
    {source target : π}
    {x : α}
    (hPlaces : source ≠ target)
    (hHeld : HeldOnce c x) :
    HeldOnce (move c source target) x := by
  rcases hHeld with ⟨p, hCount, hOnly⟩
  by_cases hAt : p = source
  · subst hAt
    refine ⟨target, ?_, ?_⟩
    · have hOther := hOnly target hPlaces.symm
      rw [move_target hPlaces, List.count_append, hCount,
        List.count_eq_zero_of_not_mem hOther]
    · intro q hq hMem
      rw [mem_move hPlaces] at hMem
      rcases hMem with ⟨hSource, hHere | ⟨hTarget, -⟩⟩
      · exact hOnly q hSource hHere
      · exact hq hTarget
  · have hSource := hOnly source (Ne.symm hAt)
    refine ⟨p, ?_, ?_⟩
    · by_cases hTarget : p = target
      · subst hTarget
        rw [move_target hPlaces, List.count_append, hCount,
          List.count_eq_zero_of_not_mem hSource]
      · rw [move_of_ne hAt hTarget, hCount]
    · intro q hq hMem
      rw [mem_move hPlaces] at hMem
      rcases hMem with ⟨-, hHere | ⟨-, hMoved⟩⟩
      · exact hOnly q hq hHere
      · exact hSource hMoved

theorem accounted_move
    {entered : α → Prop}
    {source target : π}
    (hPlaces : source ≠ target)
    (hAccounted : Accounted c entered) :
    Accounted (move c source target) entered := by
  intro x
  constructor
  · intro hEntered
    exact heldOnce_move hPlaces ((hAccounted x).1 hEntered)
  · intro hOutside
    exact
      heldNowhere_move hPlaces ((hAccounted x).2 hOutside)

/- A new item is held at the place that it enters. -/
theorem heldOnce_put_self
    {x : α}
    (p : π)
    (hNowhere : HeldNowhere c x) :
    HeldOnce (put c p x) x := by
  refine ⟨p, ?_, ?_⟩
  · rw [put_self, List.count_append,
      List.count_eq_zero_of_not_mem (hNowhere p)]
    simp
  · intro q hq hMem
    rw [mem_put] at hMem
    rcases hMem with hHere | ⟨hPlace, -⟩
    · exact hNowhere q hHere
    · exact hq hPlace

theorem heldOnce_put_of_ne
    {x y : α}
    (p : π)
    (hItem : y ≠ x)
    (hHeld : HeldOnce c y) :
    HeldOnce (put c p x) y := by
  rcases hHeld with ⟨p', hCount, hOnly⟩
  refine ⟨p', ?_, ?_⟩
  · by_cases hPlace : p' = p
    · subst hPlace
      rw [put_self, List.count_append, hCount,
        List.count_eq_zero_of_not_mem (by simpa using hItem)]
    · rw [put_of_ne hPlace, hCount]
  · intro q hq hMem
    rw [mem_put] at hMem
    rcases hMem with hHere | ⟨-, hSame⟩
    · exact hOnly q hq hHere
    · exact hItem hSame

theorem accounted_put
    {entered entered' : α → Prop}
    {x : α}
    (p : π)
    (hNew : ¬ entered x)
    (hEntered : ∀ y, entered' y ↔ y = x ∨ entered y)
    (hAccounted : Accounted c entered) :
    Accounted (put c p x) entered' := by
  intro y
  rw [hEntered]
  by_cases hItem : y = x
  · subst hItem
    refine ⟨fun _ => ?_, fun hOutside => ?_⟩
    · exact heldOnce_put_self p ((hAccounted y).2 hNew)
    · exact absurd (.inl rfl) hOutside
  · refine ⟨fun hIn => ?_, fun hOutside => ?_⟩
    · exact
        heldOnce_put_of_ne p hItem
          ((hAccounted y).1 (hIn.resolve_left hItem))
    · intro q hMem
      rw [mem_put] at hMem
      rcases hMem with hHere | ⟨-, hSame⟩
      · exact
          (hAccounted y).2 (fun hIn => hOutside (.inr hIn))
            q hHere
      · exact hItem hSame

omit [DecidableEq π] in
theorem accounted_nil
    {entered : α → Prop}
    (hNone : ∀ x, ¬ entered x) :
    Accounted (fun _ : π => []) entered := by
  intro x
  refine ⟨fun hEntered => absurd hEntered (hNone x), ?_⟩
  intro _ p
  exact List.not_mem_nil

end Custody
