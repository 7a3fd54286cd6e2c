import Mathlib.Data.List.Basic

/-
  Runs of digits between word boundaries, as the pattern
  `\b\d{lo,hi}\b` finds them.

  A boundary lies between a word character and another
  character, or between a word character and an end of the
  text.

  Key definitions include:
    * `WordRun.IsBoundary`
    * `WordRun.Matches`
    * `WordRun.Search`
    * `WordRun.FullMatch`

  The main result is `WordRun.fullMatch_iff`.
-/

------------------------------------------------------------
-- Matches
------------------------------------------------------------

namespace WordRun

variable {α : Type}
variable (isWord isDigit : α → Bool)
variable (lo hi : Nat)

/- `\b` between two texts. -/
def IsBoundary (before after : List α) : Prop :=
  before.getLast?.any isWord ≠ after.head?.any isWord

/- The pattern matches a run between two texts. -/
structure Matches
    (before run after : List α) : Prop where
  lo_le : lo ≤ run.length
  le_hi : run.length ≤ hi
  digits : ∀ c ∈ run, isDigit c
  start : IsBoundary isWord before (run ++ after)
  stop : IsBoundary isWord (before ++ run) after

/- The pattern matches somewhere in a text. -/
def Search (text : List α) : Prop :=
  ∃ before run after,
    text = before ++ run ++ after ∧
      Matches isWord isDigit lo hi before run after

/- The pattern matches the whole text. -/
def FullMatch (text : List α) : Prop :=
  Matches isWord isDigit lo hi [] text []

variable {isWord isDigit}
variable {lo hi}

/- The ends of a text of digits are word boundaries, where
   digits are word characters. -/
theorem fullMatch_iff
    (hWord : ∀ c, isDigit c → isWord c)
    (hLo : 0 < lo)
    {text : List α} :
    FullMatch isWord isDigit lo hi text ↔
      lo ≤ text.length ∧ text.length ≤ hi ∧
        ∀ c ∈ text, isDigit c := by
  constructor
  · intro hFull
    exact ⟨hFull.lo_le, hFull.le_hi, hFull.digits⟩
  · rintro ⟨hLow, hHigh, hDigits⟩
    have hSome : text ≠ [] :=
      List.ne_nil_of_length_pos (by omega)
    have hFirst :=
      hWord _ (hDigits _ (List.head_mem hSome))
    have hLast :=
      hWord _ (hDigits _ (List.getLast_mem hSome))
    refine ⟨hLow, hHigh, hDigits, ?_, ?_⟩
    · simp [IsBoundary, List.head?_eq_some_head hSome,
        hFirst]
    · simp [IsBoundary,
        List.getLast?_eq_some_getLast hSome, hLast]

end WordRun
