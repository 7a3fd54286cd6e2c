import Mathlib.Data.ZMod.Basic

/-
  Check digits: digits whose total over their places is zero.

  What a digit adds depends on its place, counted from the
  right. A change of one digit or a swap of two adjacent
  digits is noticed when it changes the total, whatever the
  other digits are.

  Key definitions include:
    * `CheckDigit.total`
    * `Luhn.place`
    * `Luhn.Valid`

  The main results are:
    * `CheckDigit.total_change_iff`
    * `CheckDigit.total_swap_iff`
    * `Luhn.existsUnique_check`
-/

------------------------------------------------------------
-- Totals
------------------------------------------------------------

namespace CheckDigit

variable {α G : Type}

/- The total of digits: the place of a digit is the number of
   digits behind it. -/
def total
    [AddCommMonoid G]
    (place : Nat → α → G) : List α → G
| [] => 0
| d :: ds => place ds.length d + total place ds

theorem total_append
    [AddCommMonoid G]
    (place : Nat → α → G)
    (ds es : List α) :
    total place (ds ++ es) =
      total (fun i => place (i + es.length)) ds +
        total place es := by
  induction ds with
  | nil => simp [total]
  | cons d ds ih =>
      rw [List.cons_append, total, total, ih,
        List.length_append, add_assoc]

variable [AddCommGroup G]

/- A change of one digit keeps the total when both digits add
   the same at their place. -/
theorem total_change_iff
    (place : Nat → α → G)
    (before after : List α)
    (d e : α) :
    total place (before ++ d :: after) =
        total place (before ++ e :: after) ↔
      place after.length d = place after.length e := by
  rw [total_append, total_append, List.length_cons,
    List.length_cons, add_right_inj, total, total,
    add_left_inj]

/- A swap of two digits keeps the total when they add the
   same at each other's place. -/
theorem total_swap_iff
    (place : Nat → α → G)
    (before after : List α)
    (d e : α) :
    total place (before ++ d :: e :: after) =
        total place (before ++ e :: d :: after) ↔
      place (after.length + 1) d + place after.length e =
        place (after.length + 1) e +
          place after.length d := by
  rw [total_append, total_append]
  simp only [total, List.length_cons, add_right_inj]
  rw [← add_assoc, ← add_assoc, add_left_inj]

theorem total_concat
    (place : Nat → α → G)
    (ds : List α)
    (d : α) :
    total place (ds ++ [d]) =
      total (fun i => place (i + 1)) ds + place 0 d := by
  simp [total_append, total]

end CheckDigit

------------------------------------------------------------
-- The Luhn Scheme
------------------------------------------------------------

namespace Luhn

/- The sum of the digits of twice a digit. -/
def doubled (d : Nat) : Nat :=
  2 * d / 10 + 2 * d % 10

/- Every second digit from the right is doubled. -/
def place (i d : Nat) : ZMod 10 :=
  if i % 2 = 1 then doubled d else d

/- The total is a multiple of ten. -/
def Valid (ds : List Nat) : Prop :=
  CheckDigit.total place ds = 0

instance (ds : List Nat) : Decidable (Valid ds) := by
  unfold Valid
  infer_instance

/- What a digit adds at a place determines the digit. -/
theorem place_inj
    {i d e : Nat}
    (hLeft : d < 10)
    (hRight : e < 10) :
    place i d = place i e ↔ d = e := by
  have hDoubled :
      ∀ d : Nat, d < 10 → ∀ e : Nat, e < 10 →
        ((doubled d : ZMod 10) = doubled e ↔ d = e) := by
    decide
  have hPlain :
      ∀ d : Nat, d < 10 → ∀ e : Nat, e < 10 →
        ((d : ZMod 10) = e ↔ d = e) := by
    decide
  unfold place
  split
  · exact hDoubled d hLeft e hRight
  · exact hPlain d hLeft e hRight

/- The digits that can be swapped unnoticed. -/
def Swappable (d e : Nat) : Prop :=
  d = e ∨ (d = 0 ∧ e = 9) ∨ (d = 9 ∧ e = 0)

instance (d e : Nat) : Decidable (Swappable d e) := by
  unfold Swappable
  infer_instance

/- Only one of two adjacent digits is doubled. -/
theorem place_swap_iff
    {i d e : Nat}
    (hLeft : d < 10)
    (hRight : e < 10) :
    place (i + 1) d + place i e =
        place (i + 1) e + place i d ↔
      Swappable d e := by
  have hFirst :
      ∀ d : Nat, d < 10 → ∀ e : Nat, e < 10 →
        ((doubled d + e : ZMod 10) = doubled e + d ↔
          Swappable d e) := by
    decide
  have hSecond :
      ∀ d : Nat, d < 10 → ∀ e : Nat, e < 10 →
        ((d + doubled e : ZMod 10) = e + doubled d ↔
          Swappable d e) := by
    decide
  unfold place
  by_cases hOdd : i % 2 = 1
  · have hEven : ¬ (i + 1) % 2 = 1 := by
      omega
    simp only [if_neg hEven, if_pos hOdd]
    exact hSecond d hLeft e hRight
  · have hNext : (i + 1) % 2 = 1 := by
      omega
    simp only [if_pos hNext, if_neg hOdd]
    exact hFirst d hLeft e hRight

/- A changed digit is noticed. -/
theorem not_valid_of_change
    {before after : List Nat}
    {d e : Nat}
    (hLeft : d < 10)
    (hRight : e < 10)
    (hNe : e ≠ d)
    (hValid : Valid (before ++ d :: after)) :
    ¬ Valid (before ++ e :: after) := by
  intro hChanged
  have hTotals := hChanged.trans hValid.symm
  rw [CheckDigit.total_change_iff,
    place_inj hRight hLeft] at hTotals
  exact hNe hTotals

/- A swap of adjacent digits is noticed but for 0 and 9. -/
theorem valid_swap_iff
    {before after : List Nat}
    {d e : Nat}
    (hLeft : d < 10)
    (hRight : e < 10)
    (hValid : Valid (before ++ d :: e :: after)) :
    Valid (before ++ e :: d :: after) ↔ Swappable d e := by
  rw [← place_swap_iff hLeft hRight,
    ← CheckDigit.total_swap_iff place before after]
  unfold Valid at hValid ⊢
  rw [hValid, eq_comm]

/- There is one check digit for any digits. -/
theorem existsUnique_check
    (ds : List Nat) :
    ∃! d, d < 10 ∧ Valid (ds ++ [d]) := by
  have hCheck :
      ∀ t : ZMod 10, ∃! d : Nat,
        d < 10 ∧ t + (d : ZMod 10) = 0 := by
    intro t
    refine ⟨(-t).val, ⟨ZMod.val_lt _, ?_⟩, ?_⟩
    · rw [ZMod.natCast_val, ZMod.cast_id, add_neg_cancel]
    · rintro d ⟨hDigit, hZero⟩
      rw [← eq_neg_of_add_eq_zero_right hZero,
        ZMod.val_natCast_of_lt hDigit]
  unfold Valid
  simp only [CheckDigit.total_concat]
  exact hCheck _

end Luhn
