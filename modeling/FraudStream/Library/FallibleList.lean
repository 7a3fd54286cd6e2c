import Mathlib.Data.List.Forall2

/-
  Lists computed item by item by a function that may fail,
  as pointwise relations between items and results.

  The rules are:
    * `FallibleList.bind_ok_iff`
    * `FallibleList.mapM_ok_iff`
    * `FallibleList.mapM_error_iff`
    * `FallibleList.exists_mapM_ok_iff`
    * `FallibleList.mapM_some_iff`
    * `FallibleList.exists_mapM_of_isSome`
    * `FallibleList.forall₂_split`
    * `FallibleList.forall₂_mem_right`
    * `FallibleList.forall₂_pairwise`
    * `FallibleList.forall₂_getLast`
    * `FallibleList.forall_mem_of_map_eq`
    * `FallibleList.map_eq_of_forall₂`
    * `FallibleList.forall₂_iff_forall_mem`
    * `FallibleList.filterMap_of_length`
-/

------------------------------------------------------------
-- Results Of A Traversal
------------------------------------------------------------

namespace FallibleList

variable {ε α β : Type}

/- A sequence of two steps returns when both do. -/
theorem bind_ok_iff
    (x : Except ε α)
    (f : α → Except ε β)
    (b : β) :
    x >>= f = .ok b ↔ ∃ a, x = .ok a ∧ f a = .ok b := by
  cases x with
  | error e =>
      constructor
      · intro hOk
        cases hOk
      · rintro ⟨a, hOk, -⟩
        cases hOk
  | ok a =>
      constructor
      · intro hOk
        exact ⟨a, rfl, hOk⟩
      · rintro ⟨a', hEq, hOk⟩
        cases hEq
        exact hOk

/- A list is computed exactly when each item is. -/
theorem mapM_ok_iff
    (f : α → Except ε β)
    (xs : List α)
    (ys : List β) :
    xs.mapM f = .ok ys ↔
      List.Forall₂ (fun x y => f x = .ok y) xs ys := by
  induction xs generalizing ys with
  | nil =>
      rw [List.mapM_nil, List.forall₂_nil_left_iff]
      constructor
      · intro hNil
        cases hNil
        rfl
      · rintro rfl
        rfl
  | cons x xs ih =>
      rw [List.mapM_cons, List.forall₂_cons_left_iff,
        bind_ok_iff]
      constructor
      · rintro ⟨y, hHead, hRest⟩
        rcases (bind_ok_iff _ _ _).1 hRest with
          ⟨ys', hTail, hEq⟩
        cases hEq
        exact ⟨y, ys', hHead, (ih ys').1 hTail, rfl⟩
      · rintro ⟨y, ys', hHead, hTail, rfl⟩
        refine ⟨y, hHead, (bind_ok_iff _ _ _).2 ?_⟩
        exact ⟨ys', (ih ys').2 hTail, rfl⟩

/- A list is computed when each item is. -/
theorem exists_mapM_ok_iff
    (f : α → Except ε β)
    (xs : List α) :
    (∃ ys, xs.mapM f = .ok ys) ↔
      ∀ x ∈ xs, ∃ y, f x = .ok y := by
  simp only [mapM_ok_iff]
  induction xs with
  | nil => simp
  | cons x xs ih =>
      rw [List.forall_mem_cons, ← ih]
      constructor
      · rintro ⟨_, hAll⟩
        cases hAll with
        | cons hHead hTail => exact ⟨⟨_, hHead⟩, _, hTail⟩
      · rintro ⟨⟨y, hHead⟩, ys, hTail⟩
        exact ⟨y :: ys, .cons hHead hTail⟩

/- Replacing the error keeps the result. -/
theorem exists_mapError_ok_iff
    {ε' : Type}
    (g : ε → ε')
    (x : Except ε α) :
    (∃ a, x.mapError g = .ok a) ↔ ∃ a, x = .ok a := by
  cases x <;> simp [Except.mapError]

/- The error of a result. -/
def error? : Except ε α → Option ε
| .ok _ => none
| .error e => some e

theorem error?_ok
    (a : α) :
    error? (.ok a : Except ε α) = none := rfl

/- A list fails with the error of its first failing item. -/
theorem mapM_error_iff
    (f : α → Except ε β)
    (xs : List α)
    (e : ε) :
    xs.mapM f = .error e ↔
      xs.findSome? (fun x => error? (f x)) = some e := by
  induction xs with
  | nil =>
      constructor
      · intro hError
        cases hError
      · intro hFound
        cases hFound
  | cons x xs ih =>
      rw [List.mapM_cons, List.findSome?_cons]
      cases hHead : f x with
      | error e' =>
          constructor
          · intro hError
            cases hError
            rfl
          · intro hFound
            cases hFound
            rfl
      | ok y =>
          rw [error?_ok, ← ih]
          cases hTail : xs.mapM f with
          | error e' => exact Iff.rfl
          | ok ys =>
              constructor
              · intro hError
                cases hError
              · intro hError
                cases hError

/- The same of results that may be missing. -/
theorem mapM_some_iff
    (f : α → Option β)
    (xs : List α)
    (ys : List β) :
    xs.mapM f = some ys ↔
      List.Forall₂ (fun x y => f x = some y) xs ys := by
  induction xs generalizing ys with
  | nil => simp [List.forall₂_nil_left_iff, eq_comm]
  | cons x xs ih =>
      rw [List.mapM_cons, List.forall₂_cons_left_iff]
      simp only [Option.bind_eq_bind, Option.pure_def,
        Option.bind_eq_some_iff, ih, Option.some.injEq]
      constructor
      · rintro ⟨y, hHead, ys', hTail, rfl⟩
        exact ⟨y, ys', hHead, hTail, rfl⟩
      · rintro ⟨y, ys', hHead, hTail, rfl⟩
        exact ⟨y, hHead, ys', hTail, rfl⟩

theorem exists_mapM_of_isSome
    {f : α → Option β}
    {xs : List α}
    (hAll : ∀ x ∈ xs, (f x).isSome) :
    ∃ ys, xs.mapM f = some ys := by
  simp only [mapM_some_iff]
  induction xs with
  | nil => exact ⟨[], .nil⟩
  | cons x xs ih =>
      rw [List.forall_mem_cons] at hAll
      rcases Option.isSome_iff_exists.1 hAll.1 with
        ⟨y, hHead⟩
      rcases ih hAll.2 with ⟨ys, hTail⟩
      exact ⟨y :: ys, .cons hHead hTail⟩

end FallibleList

------------------------------------------------------------
-- Related Lists
------------------------------------------------------------

namespace FallibleList

variable {α β : Type}

/- Related lists split at an item of the first one. -/
theorem forall₂_split
    {R : α → β → Prop}
    {before after : List α}
    {x : α}
    {ys : List β}
    (hAll : List.Forall₂ R (before ++ x :: after) ys) :
    ∃ before' y after', ys = before' ++ y :: after' ∧
      List.Forall₂ R before before' ∧ R x y ∧
      List.Forall₂ R after after' := by
  induction before generalizing ys with
  | nil =>
      rcases List.forall₂_cons_left_iff.1 hAll with
        ⟨y, ys', hHead, hTail, rfl⟩
      exact ⟨[], y, ys', rfl, List.Forall₂.nil, hHead, hTail⟩
  | cons x' before ih =>
      rcases List.forall₂_cons_left_iff.1 hAll with
        ⟨y', ys', hHead, hTail, rfl⟩
      rcases ih hTail with
        ⟨before', y, after', rfl, hBefore, hx, hAfter⟩
      exact
        ⟨y' :: before', y, after', rfl,
          List.Forall₂.cons hHead hBefore, hx, hAfter⟩

/- A related item comes from the first list. -/
theorem forall₂_mem_right
    {R : α → β → Prop}
    {xs : List α}
    {ys : List β}
    {y : β}
    (hAll : List.Forall₂ R xs ys)
    (hMem : y ∈ ys) :
    ∃ x ∈ xs, R x y := by
  rcases List.append_of_mem hMem with ⟨before, after, rfl⟩
  rcases forall₂_split hAll.flip with
    ⟨before', x, after', rfl, -, hxy, -⟩
  exact ⟨x, by simp, hxy⟩

/- Results are ordered as their items. -/
theorem forall₂_pairwise
    {R : α → β → Prop}
    {P : α → α → Prop}
    {Q : β → β → Prop}
    {xs : List α}
    {ys : List β}
    (hAll : List.Forall₂ R xs ys)
    (hOrder :
      ∀ x x' y y', R x y → R x' y' → P x x' → Q y y')
    (hItems : xs.Pairwise P) :
    ys.Pairwise Q := by
  induction hAll with
  | nil => exact List.Pairwise.nil
  | cons hHead hTail ih =>
      rcases List.pairwise_cons.1 hItems with ⟨hFirst, hRest⟩
      refine List.pairwise_cons.2 ⟨?_, ih hRest⟩
      intro y' hMem
      rcases forall₂_mem_right hTail hMem with
        ⟨x', hMem', hRelated⟩
      exact hOrder _ _ _ _ hHead hRelated (hFirst x' hMem')

/- The last item has the last result. -/
theorem forall₂_getLast
    {R : α → β → Prop}
    {xs : List α}
    {ys : List β}
    {x : α}
    (hAll : List.Forall₂ R xs ys)
    (hLast : xs.getLast? = some x) :
    ∃ y, ys.getLast? = some y ∧ R x y := by
  rcases List.getLast?_eq_some_iff.1 hLast with ⟨before, rfl⟩
  rcases forall₂_split hAll with
    ⟨before', y, after', rfl, -, hRelated, hAfter⟩
  cases hAfter
  exact ⟨y, by simp, hRelated⟩

/- Facts about the items, told by what they are related
   to. -/
theorem forall_mem_of_map_eq
    {γ : Type}
    {R : α → β → Prop}
    {P : α → Prop}
    {f : β → γ}
    {g : α → γ}
    {xs : List α}
    {ys : List β}
    (hAll : List.Forall₂ R xs ys)
    (hEq : ys.map f = xs.map g)
    (hStep : ∀ x ∈ xs, ∀ y, R x y → f y = g x → P x) :
    ∀ x ∈ xs, P x := by
  induction hAll with
  | nil => exact List.forall_mem_nil _
  | cons hHead hTail ih =>
      rw [List.map_cons, List.map_cons,
        List.cons.injEq] at hEq
      rw [List.forall_mem_cons] at hStep ⊢
      exact
        ⟨hStep.1 _ hHead hEq.1, ih hEq.2 hStep.2⟩

/- A relation that keeps an attribute of the items lists the
   attribute alike. -/
theorem map_eq_of_forall₂
    {γ : Type}
    {R : α → β → Prop}
    {f : α → γ}
    {g : β → γ}
    {xs : List α}
    {ys : List β}
    (hKeeps : ∀ x y, R x y → g y = f x)
    (hAll : List.Forall₂ R xs ys) :
    ys.map g = xs.map f := by
  induction hAll with
  | nil => rfl
  | cons hHead hTail ih =>
      rw [List.map_cons, List.map_cons, ih,
        hKeeps _ _ hHead]

/- Where related items are related by a second relation when
   the first of them has a property, so are the lists. -/
theorem forall₂_iff_forall_mem
    {R S : α → β → Prop}
    {P : α → Prop}
    {xs : List α}
    {ys : List β}
    (hAll : List.Forall₂ R xs ys)
    (hStep : ∀ x y, R x y → (S x y ↔ P x)) :
    List.Forall₂ S xs ys ↔ ∀ x ∈ xs, P x := by
  induction hAll with
  | nil => simp
  | cons hHead hTail ih =>
      rw [List.forall₂_cons, List.forall_mem_cons, ih,
        hStep _ _ hHead]

/- When nothing is filtered out, every item has a result. -/
theorem filterMap_of_length
    {f : α → Option β}
    {xs : List α}
    (hLength : (xs.filterMap f).length = xs.length) :
    List.Forall₂ (fun x y => f x = some y) xs
      (xs.filterMap f) := by
  induction xs with
  | nil => exact List.Forall₂.nil
  | cons x xs ih =>
      cases hx : f x with
      | none =>
          have hLe := List.length_filterMap_le f xs
          simp only [List.filterMap_cons, hx,
            List.length_cons] at hLength
          omega
      | some y =>
          simp only [List.filterMap_cons, hx,
            List.length_cons, Nat.add_right_cancel_iff]
            at hLength ⊢
          exact List.Forall₂.cons hx (ih hLength)

end FallibleList
