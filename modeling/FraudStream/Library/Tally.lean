import FraudStream.Library.Dict
import Mathlib.Data.Int.Basic
import Mathlib.Algebra.Group.Int.Defs

/-
  Counting keys in a dictionary.

  A tally adds one to the count of each key of a list; a key
  that has no count yet starts at zero.

  Key definitions include:
    * `Dict.tally`

  Main results:
    * `Dict.eq_empty_of_get?`
    * `Dict.get?_tally`
-/

namespace Dict

variable {κ : Type}
variable [DecidableEq κ]

/- A dictionary in which no key is found is empty. -/
theorem eq_empty_of_get?
    {ν : Type}
    {d : Dict κ ν}
    (hNone : ∀ k, d.get? k = none) :
    d = empty := by
  apply ext
  cases hEntries : d.entries with
  | nil => rfl
  | cons e es =>
      have hFirst := hNone e.1
      rw [get?, hEntries] at hFirst
      simp [lookupEntries] at hFirst

/- Add one to the count of a key. -/
def increment
    (counts : Dict κ Int)
    (k : κ) : Dict κ Int :=
  counts.put k ((counts.get? k).getD 0 + 1)

def tally
    (counts : Dict κ Int)
    (ks : List κ) : Dict κ Int :=
  ks.foldl increment counts

@[simp] theorem tally_nil (counts : Dict κ Int) :
    counts.tally [] = counts := rfl

theorem tally_cons
    (counts : Dict κ Int)
    (k : κ)
    (ks : List κ) :
    counts.tally (k :: ks) =
      (counts.increment k).tally ks := rfl

/- A key of the list has its old count and one more for each
   of its places; the other keys keep theirs. -/
theorem get?_tally
    (counts : Dict κ Int)
    (ks : List κ)
    (x : κ) :
    (counts.tally ks).get? x =
      if x ∈ ks then
        some ((counts.get? x).getD 0 + ks.count x)
      else
        counts.get? x := by
  induction ks generalizing counts with
  | nil => simp
  | cons k ks ih =>
      rw [tally_cons, ih, increment, get?_put]
      by_cases hKey : x = k
      · subst hKey
        by_cases hMem : x ∈ ks
        · simp [hMem, add_assoc, add_comm]
        · simp [hMem, List.count_eq_zero_of_not_mem hMem]
      · by_cases hMem : x ∈ ks
        · simp [hMem, hKey, Ne.symm hKey]
        · simp [hMem, hKey]

end Dict
