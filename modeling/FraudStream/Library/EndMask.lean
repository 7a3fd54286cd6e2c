import Mathlib.Data.List.Basic
import Mathlib.Logic.Nontrivial.Defs

/-
  Masks that keep both ends of a sequence.

  From a threshold on, a mask keeps some items of the front
  and of the back, with a filler between; a shorter sequence
  becomes the filler. A mask conceals a sequence when
  another one of the same length looks the same.

  Key definitions include:
    * `EndMask`
    * `EndMask.apply`
    * `EndMask.Conceals`

  The rule is `EndMask.conceals_iff`.
-/

/- What a mask keeps of a sequence. -/
structure EndMask (α : Type) where
  front : Nat
  back : Nat
  threshold : Nat
  filler : List α

namespace EndMask

variable {α : Type}

def apply
    (m : EndMask α)
    (xs : List α) : List α :=
  if m.threshold ≤ xs.length then
    xs.take m.front ++ m.filler ++
      xs.drop (xs.length - m.back)
  else
    m.filler

/- Another sequence of this length looks the same. -/
def Conceals
    (m : EndMask α)
    (xs : List α) : Prop :=
  ∃ ys, ys ≠ xs ∧ ys.length = xs.length ∧
    m.apply ys = m.apply xs

/- Another item at a position makes another sequence. -/
theorem set_ne
    {xs : List α}
    {n : Nat}
    (hLt : n < xs.length)
    {x : α}
    (hItem : x ≠ xs[n]) :
    xs.set n x ≠ xs := by
  intro hSame
  have hRead : (xs.set n x)[n]? = xs[n]? := by rw [hSame]
  rw [List.getElem?_set_self hLt,
    List.getElem?_eq_getElem hLt] at hRead
  exact hItem (Option.some.inj hRead)

/- What is kept of two sequences is the same on both ends,
   when their masks are. -/
theorem ends_of_apply
    {m : EndMask α}
    {xs ys : List α}
    (hThreshold : m.threshold ≤ xs.length)
    (hLength : ys.length = xs.length)
    (hMasks : m.apply ys = m.apply xs) :
    ys.take m.front = xs.take m.front ∧
      ys.drop (xs.length - m.back) =
        xs.drop (xs.length - m.back) := by
  rw [apply, apply, hLength, if_pos hThreshold,
    if_pos hThreshold, List.append_assoc,
    List.append_assoc] at hMasks
  have hFronts :
      (ys.take m.front).length = (xs.take m.front).length :=
    by rw [List.length_take, List.length_take, hLength]
  rcases List.append_inj hMasks hFronts with
    ⟨hFront, hRest⟩
  exact ⟨hFront, List.append_cancel_left hRest⟩

/- A nonempty sequence is concealed when it is too short for
   its ends to be kept, or longer than what is kept. -/
theorem conceals_iff
    [Nontrivial α]
    (m : EndMask α)
    {xs : List α}
    (hNonempty : xs ≠ []) :
    m.Conceals xs ↔
      xs.length < m.threshold ∨
        m.front + m.back < xs.length := by
  constructor
  · rintro ⟨ys, hOther, hLength, hMasks⟩
    by_contra hKept
    rw [not_or, Nat.not_lt, Nat.not_lt] at hKept
    rcases ends_of_apply hKept.1 hLength hMasks with
      ⟨hFront, hBack⟩
    -- The kept ends overlap, so nothing is left to differ.
    have hRest : ys.drop m.front = xs.drop m.front := by
      have hSplit :
          m.front =
            (xs.length - m.back) +
              (m.front - (xs.length - m.back)) := by
        omega
      rw [hSplit, ← List.drop_drop, ← List.drop_drop,
        hBack]
    apply hOther
    rw [← List.take_append_drop m.front ys, hFront, hRest,
      List.take_append_drop]
  · intro hHidden
    by_cases hShort : xs.length < m.threshold
    · have hLt : 0 < xs.length :=
        List.length_pos_iff.2 hNonempty
      rcases exists_ne xs[0] with ⟨x, hItem⟩
      refine ⟨xs.set 0 x, set_ne hLt hItem,
        List.length_set, ?_⟩
      rw [apply, apply, List.length_set,
        if_neg (Nat.not_le.2 hShort),
        if_neg (Nat.not_le.2 hShort)]
    · have hLong := hHidden.resolve_left hShort
      have hLt : m.front < xs.length := by omega
      rcases exists_ne xs[m.front] with ⟨x, hItem⟩
      refine ⟨xs.set m.front x, set_ne hLt hItem,
        List.length_set, ?_⟩
      rw [apply, apply, List.length_set,
        List.take_set_of_le (Nat.le_refl _),
        List.drop_set_of_lt (by omega)]

end EndMask
