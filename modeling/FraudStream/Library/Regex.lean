import Mathlib.Data.List.Basic

/-
  Regular expressions with anchors.

  An engine says what may follow where `$` matches. A match
  is a part of a text that an expression consumes between
  what is before and what is after it; an expression between
  `^` and `$` is met by the texts of its language, followed
  by what the engine allows.

  Key definitions include:
    * `Regex`
    * `Regex.Matches`
    * `Regex.MatchesStart`, `Regex.Finds`
    * `Regex.anchored`

  Main results:
    * `Regex.matches_iff_language`
    * `Regex.matchesStart_anchored_iff`
    * `Regex.finds_anchored_iff`
-/

------------------------------------------------------------
-- Expressions
------------------------------------------------------------

/- The anchors, a class of symbols, a bounded repetition of
   one, and concatenation. -/
inductive Regex (α : Type) where
| startAnchor
| endAnchor
| one : (α → Bool) → Regex α
| between : (lo hi : Nat) → (α → Bool) → Regex α
| seq : Regex α → Regex α → Regex α

namespace Regex

variable {α : Type}

/- What may follow the place where `$` matches. -/
structure Engine (α : Type) where
  EndsAt : List α → Prop

/- `$` matches at the end only. -/
def atEnd : Engine α where
  EndsAt := fun after => after = []

/- `$` matches at the end and before a last `newline`. -/
def beforeNewline (newline : α) : Engine α where
  EndsAt := fun after => after = [] ∨ after = [newline]

/- The expression consumes the part of a text that stands
   between the other two. -/
def Matches
    (engine : Engine α) :
    Regex α → List α → List α → List α → Prop
| .startAnchor, before, part, _ => before = [] ∧ part = []
| .endAnchor, _, part, after =>
    part = [] ∧ engine.EndsAt after
| .one p, _, part, _ => ∃ a, part = [a] ∧ p a = true
| .between lo hi p, _, part, _ =>
    lo ≤ part.length ∧ part.length ≤ hi ∧
      ∀ a ∈ part, p a = true
| .seq r s, before, part, after =>
    ∃ first second,
      part = first ++ second ∧
      Matches engine r before first (second ++ after) ∧
      Matches engine s (before ++ first) second after

/- A match that begins where the text does. -/
def MatchesStart
    (engine : Engine α)
    (r : Regex α)
    (text : List α) : Prop :=
  ∃ part after,
    text = part ++ after ∧ r.Matches engine [] part after

/- A match that may begin anywhere. -/
def Finds
    (engine : Engine α)
    (r : Regex α)
    (text : List α) : Prop :=
  ∃ before part after,
    text = before ++ (part ++ after) ∧
      r.Matches engine before part after

/- The expression between `^` and `$`. -/
def anchored (r : Regex α) : Regex α :=
  .seq .startAnchor (.seq r .endAnchor)

end Regex

------------------------------------------------------------
-- Languages
------------------------------------------------------------

namespace Regex

variable {α : Type}

def AnchorFree : Regex α → Prop
| .startAnchor | .endAnchor => False
| .one _ | .between _ _ _ => True
| .seq r s => AnchorFree r ∧ AnchorFree s

/- The texts that an expression without anchors consumes. -/
def Language : Regex α → List α → Prop
| .startAnchor, _ | .endAnchor, _ => False
| .one p, part => ∃ a, part = [a] ∧ p a = true
| .between lo hi p, part =>
    lo ≤ part.length ∧ part.length ≤ hi ∧
      ∀ a ∈ part, p a = true
| .seq r s, part =>
    ∃ first second,
      part = first ++ second ∧
        Language r first ∧ Language s second

/- Without anchors neither the engine nor what surrounds the
   match matters. -/
theorem matches_iff_language
    (engine : Engine α)
    {r : Regex α}
    (hFree : r.AnchorFree)
    (before part after : List α) :
    r.Matches engine before part after ↔
      r.Language part := by
  induction r generalizing before part after with
  | startAnchor => cases hFree
  | endAnchor => cases hFree
  | one p => rfl
  | between lo hi p => rfl
  | seq r s ihr ihs =>
      simp only [Matches, Language, ihr hFree.1,
        ihs hFree.2]

theorem matches_anchored_iff
    (engine : Engine α)
    {r : Regex α}
    (hFree : r.AnchorFree)
    (before part after : List α) :
    r.anchored.Matches engine before part after ↔
      before = [] ∧ r.Language part ∧
        engine.EndsAt after := by
  simp only [anchored, Matches,
    matches_iff_language engine hFree]
  constructor
  · rintro ⟨_, _, rfl, ⟨rfl, rfl⟩, hRest⟩
    rcases hRest with ⟨first, _, rfl, hPart, rfl, hEnds⟩
    rw [List.nil_append, List.append_nil]
    exact ⟨rfl, hPart, hEnds⟩
  · rintro ⟨rfl, hPart, hEnds⟩
    exact ⟨[], part, rfl, ⟨rfl, rfl⟩, part, [],
      (List.append_nil part).symm, hPart, rfl, hEnds⟩

/- A text meets `^r$` when it is a text of `r`, followed by
   what the engine allows. -/
theorem matchesStart_anchored_iff
    (engine : Engine α)
    {r : Regex α}
    (hFree : r.AnchorFree)
    (text : List α) :
    r.anchored.MatchesStart engine text ↔
      ∃ part after,
        text = part ++ after ∧
          r.Language part ∧ engine.EndsAt after := by
  simp only [MatchesStart,
    matches_anchored_iff engine hFree, true_and]

/- The start anchor leaves one place to find a match. -/
theorem finds_anchored_iff
    (engine : Engine α)
    {r : Regex α}
    (hFree : r.AnchorFree)
    (text : List α) :
    r.anchored.Finds engine text ↔
      r.anchored.MatchesStart engine text := by
  rw [matchesStart_anchored_iff engine hFree]
  simp only [Finds, matches_anchored_iff engine hFree]
  constructor
  · rintro ⟨_, part, after, rfl, rfl, hPart⟩
    exact ⟨part, after, rfl, hPart⟩
  · rintro ⟨part, after, rfl, hPart⟩
    exact ⟨[], part, after, rfl, rfl, hPart⟩

theorem matchesStart_atEnd_iff
    {r : Regex α}
    (hFree : r.AnchorFree)
    (text : List α) :
    r.anchored.MatchesStart atEnd text ↔
      r.Language text := by
  rw [matchesStart_anchored_iff atEnd hFree]
  simp only [atEnd]
  constructor
  · rintro ⟨part, _, rfl, hPart, rfl⟩
    rwa [List.append_nil]
  · intro hText
    exact ⟨text, [], (List.append_nil text).symm, hText, rfl⟩

/- An engine that allows a last line break accepts one more
   text for each text of the language. -/
theorem matchesStart_beforeNewline_iff
    {r : Regex α}
    (hFree : r.AnchorFree)
    (newline : α)
    (text : List α) :
    r.anchored.MatchesStart (beforeNewline newline) text ↔
      r.Language text ∨
        ∃ part, text = part ++ [newline] ∧
          r.Language part := by
  rw [matchesStart_anchored_iff (beforeNewline newline) hFree]
  simp only [beforeNewline]
  constructor
  · rintro ⟨part, after, rfl, hPart, rfl | rfl⟩
    · rw [List.append_nil]
      exact .inl hPart
    · exact .inr ⟨part, rfl, hPart⟩
  · rintro (hText | ⟨part, rfl, hPart⟩)
    · exact ⟨text, [], (List.append_nil text).symm, hText,
        .inl rfl⟩
    · exact ⟨part, [newline], rfl, hPart, .inr rfl⟩

end Regex
