import Mathlib.Data.List.Basic
import Mathlib.Data.List.Nodup
import Mathlib.Data.List.Pairwise

/-
  A sequence of attempts, each under a handler of its own.

  An attempt makes one call, or none, and may raise. What
  its handler absorbs does not stop the sequence; anything
  else leaves it, and the later attempts are not made.

  Key definitions include:
    * `GuardedAttempt`
    * `GuardedAttempt.made`
    * `GuardedAttempt.calls`
    * `GuardedAttempt.escape`
    * `GuardedAttempt.Stops`
    * `GuardedAttempt.Silent`
    * `GuardedAttempt.SilentAfter`

  The rules are:
    * `GuardedAttempt.calls_sublist`
    * `GuardedAttempt.exists_raised_made_iff`
    * `GuardedAttempt.makes_all_iff`
    * `GuardedAttempt.calls_eq_iff`
    * `GuardedAttempt.not_absorbs_of_escape`
    * `GuardedAttempt.escape_eq_findSome?`
-/

/- The call that is made and what is raised. -/
structure GuardedAttempt (κ ε : Type) where
  call : Option κ
  raised : Option ε

namespace GuardedAttempt

variable {κ ε : Type}

/- The attempts that are made. -/
def made
    (absorbs : ε → Bool) :
    List (GuardedAttempt κ ε) → List (GuardedAttempt κ ε)
| [] => []
| a :: as =>
    a ::
      (if a.raised.all absorbs then
        made absorbs as
      else
        [])

/- Their calls, in order. -/
def calls
    (absorbs : ε → Bool)
    (as : List (GuardedAttempt κ ε)) : List κ :=
  (made absorbs as).filterMap GuardedAttempt.call

/- What leaves the sequence. -/
def escape
    (absorbs : ε → Bool) : List (GuardedAttempt κ ε) → Option ε
| [] => none
| a :: as =>
    if a.raised.all absorbs then
      escape absorbs as
    else
      a.raised

/- The attempt raises what its handler does not absorb. -/
def Stops
    (absorbs : ε → Bool)
    (a : GuardedAttempt κ ε) : Prop :=
  a.raised.all absorbs = false

instance
    (absorbs : ε → Bool)
    (a : GuardedAttempt κ ε) :
    Decidable (a.Stops absorbs) :=
  inferInstanceAs (Decidable (_ = false))

/- No call is made until an attempt stops the sequence. -/
def Silent
    (absorbs : ε → Bool) : List (GuardedAttempt κ ε) → Prop
| [] => True
| a :: as =>
    a.call.isNone = true ∧
      (a.Stops absorbs ∨ Silent absorbs as)

/- The first attempt that stops the sequence under the second
   handlers stops it under the first, or is followed by no
   call. -/
def SilentAfter
    (absorbs absorbs' : ε → Bool) :
    List (GuardedAttempt κ ε) → Prop
| [] => True
| a :: as =>
    a.Stops absorbs ∨
      (if a.Stops absorbs' then
        Silent absorbs as
      else
        SilentAfter absorbs absorbs' as)

instance decidableSilent
    (absorbs : ε → Bool) :
    (as : List (GuardedAttempt κ ε)) →
      Decidable (Silent absorbs as)
| [] => inferInstanceAs (Decidable True)
| a :: as =>
    have := decidableSilent absorbs as
    inferInstanceAs
      (Decidable
        (a.call.isNone = true ∧
          (a.Stops absorbs ∨ Silent absorbs as)))

instance decidableSilentAfter
    (absorbs absorbs' : ε → Bool) :
    (as : List (GuardedAttempt κ ε)) →
      Decidable (SilentAfter absorbs absorbs' as)
| [] => inferInstanceAs (Decidable True)
| a :: as =>
    have := decidableSilentAfter absorbs absorbs' as
    inferInstanceAs
      (Decidable
        (a.Stops absorbs ∨
          (if a.Stops absorbs' then
            Silent absorbs as
          else
            SilentAfter absorbs absorbs' as)))

variable (absorbs : ε → Bool)

theorem made_sublist
    (as : List (GuardedAttempt κ ε)) :
    List.Sublist (made absorbs as) as := by
  induction as with
  | nil => exact List.Sublist.slnil
  | cons a as ih =>
      rw [made]
      apply List.Sublist.cons_cons
      split
      · exact ih
      · exact List.nil_sublist _

theorem calls_sublist
    (as : List (GuardedAttempt κ ε)) :
    List.Sublist (calls absorbs as)
      (as.filterMap GuardedAttempt.call) :=
  (made_sublist absorbs as).filterMap GuardedAttempt.call

theorem calls_cons
    (a : GuardedAttempt κ ε)
    (as : List (GuardedAttempt κ ε)) :
    calls absorbs (a :: as) =
      a.call.toList ++
        (if a.raised.all absorbs then
          calls absorbs as
        else
          []) := by
  have hHead :
      calls absorbs (a :: as) =
        a.call.toList ++
          (if a.raised.all absorbs then
            made absorbs as
          else
            []).filterMap GuardedAttempt.call := by
    rw [calls, made]
    cases hCall : a.call <;> simp [hCall]
  rw [hHead]
  split <;> rfl

/- Something is raised by an attempt that is made when any of
   them would raise: the attempt that stops the sequence has
   raised itself. -/
theorem exists_raised_made_iff
    (as : List (GuardedAttempt κ ε)) :
    (∃ a ∈ made absorbs as, a.raised ≠ none) ↔
      ∃ a ∈ as, a.raised ≠ none := by
  constructor
  · rintro ⟨a, hMade, hRaised⟩
    exact ⟨a, (made_sublist absorbs as).subset hMade, hRaised⟩
  · induction as with
    | nil => exact id
    | cons a as ih =>
        rintro ⟨b, hMem, hRaised⟩
        cases hHead : a.raised with
        | some e =>
            refine ⟨a, ?_, by simp [hHead]⟩
            rw [made]
            exact List.mem_cons_self
        | none =>
            rcases List.mem_cons.1 hMem with rfl | hRest
            · exact absurd hHead hRaised
            · rcases ih ⟨b, hRest, hRaised⟩ with
                ⟨c, hMade, hRaised'⟩
              refine ⟨c, ?_, hRaised'⟩
              rw [made, hHead]
              exact List.mem_cons_of_mem a hMade

/- Every call is made exactly when an attempt that stops the
   sequence leaves no call to the later ones. -/
theorem makes_all_iff
    {as : List (GuardedAttempt κ ε)}
    (hNodup : (as.filterMap GuardedAttempt.call).Nodup) :
    (∀ a ∈ as, ∀ c, a.call = some c →
        c ∈ calls absorbs as) ↔
      as.Pairwise (fun a b =>
        a.Stops absorbs → b.call = none) := by
  induction as with
  | nil => simp
  | cons a as ih =>
      have hHead :
          (a :: as).filterMap GuardedAttempt.call =
            a.call.toList ++ as.filterMap GuardedAttempt.call := by
        cases hCall : a.call <;> simp [hCall]
      rw [hHead, List.nodup_append] at hNodup
      rcases hNodup with ⟨-, hRest, hDisjoint⟩
      have hElsewhere :
          ∀ b ∈ as, ∀ c, b.call = some c →
            c ∉ a.call.toList := by
        intro b hMem c hCall hHere
        have hLater : c ∈ as.filterMap GuardedAttempt.call :=
          List.mem_filterMap.2 ⟨b, hMem, hCall⟩
        exact hDisjoint c hHere c hLater rfl
      rw [List.pairwise_cons, ← ih hRest,
        List.forall_mem_cons]
      have hOwn :
          ∀ c, a.call = some c →
            c ∈ calls absorbs (a :: as) := by
        intro c hCall
        simp [calls_cons, hCall]
      constructor
      · rintro ⟨-, hMade⟩
        constructor
        · intro b hMem hStops
          cases hCall : b.call with
          | none => rfl
          | some c =>
              have hHere := hMade b hMem c hCall
              rw [calls_cons, hStops] at hHere
              exact
                absurd (by simpa using hHere)
                  (hElsewhere b hMem c hCall)
        · intro b hMem c hCall
          have hHere := hMade b hMem c hCall
          rw [calls_cons, List.mem_append] at hHere
          have hLater :=
            hHere.resolve_left (hElsewhere b hMem c hCall)
          split at hLater
          · exact hLater
          · cases hLater
      · rintro ⟨hStops, hMade⟩
        refine ⟨hOwn, ?_⟩
        intro b hMem c hCall
        rw [calls_cons, List.mem_append]
        right
        split
        · exact hMade b hMem c hCall
        · rename_i hRaised
          have hNone :=
            hStops b hMem (Bool.eq_false_iff.2 hRaised)
          rw [hCall] at hNone
          cases hNone

theorem calls_eq_nil_iff
    (as : List (GuardedAttempt κ ε)) :
    calls absorbs as = [] ↔ Silent absorbs as := by
  induction as with
  | nil => exact iff_of_true rfl trivial
  | cons a as ih =>
      rw [calls_cons, Silent, ← ih, Stops,
        List.append_eq_nil_iff, Option.toList_eq_nil_iff,
        Option.isNone_iff_eq_none]
      cases a.raised.all absorbs <;> simp

/- Handlers that absorb more make the same calls exactly when
   there is no call in what they add. -/
theorem calls_eq_iff
    {absorbs absorbs' : ε → Bool}
    (hMore : ∀ e, absorbs' e = true → absorbs e = true)
    (as : List (GuardedAttempt κ ε)) :
    calls absorbs as = calls absorbs' as ↔
      SilentAfter absorbs absorbs' as := by
  induction as with
  | nil => exact iff_of_true rfl trivial
  | cons a as ih =>
      rw [calls_cons, calls_cons, SilentAfter,
        List.append_cancel_left_eq, ← calls_eq_nil_iff,
        ← ih]
      cases hStops : a.raised.all absorbs with
      | false =>
          -- What the first handlers let pass, the second do.
          have hStops' : a.raised.all absorbs' = false := by
            cases hRaised : a.raised with
            | none => simp [hRaised] at hStops
            | some e =>
                simp only [hRaised, Option.all_some] at hStops ⊢
                by_contra hAbsorbs
                simp [hMore e (by simpa using hAbsorbs)]
                  at hStops
          simp [Stops, hStops, hStops']
      | true =>
          cases hStops' : a.raised.all absorbs' <;>
            simp [Stops, hStops, hStops']

/- What leaves is not absorbed. -/
theorem not_absorbs_of_escape
    {as : List (GuardedAttempt κ ε)}
    {e : ε}
    (hEscape : escape absorbs as = some e) :
    absorbs e = false := by
  induction as with
  | nil => cases hEscape
  | cons a as ih =>
      rw [escape] at hEscape
      split at hEscape
      · exact ih hEscape
      · rename_i hRaised
        rw [hEscape] at hRaised
        simpa using hRaised

/- With no handler, the first thing that is raised leaves. -/
theorem escape_eq_findSome?
    (as : List (GuardedAttempt κ ε)) :
    escape (fun _ => false) as =
      as.findSome? GuardedAttempt.raised := by
  induction as with
  | nil => rfl
  | cons a as ih =>
      rw [escape, List.findSome?_cons, ih]
      cases a.raised <;> rfl

end GuardedAttempt
