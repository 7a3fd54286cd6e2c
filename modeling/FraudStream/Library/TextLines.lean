import Mathlib.Data.List.DropRight

/-
  Texts by lines and by words.

  A symbol that no line holds ends each line of a text. The
  words of a line are its longest parts without a space, and
  they do not change when the spaces around it are dropped.

  Key definitions include:
    * `TextLines.unlines`
    * `TextLines.strip`
    * `TextLines.words`

  Main results:
    * `TextLines.splitOn_unlines`
    * `TextLines.words_strip`
    * `TextLines.words_word_append`
-/

------------------------------------------------------------
-- Lines
------------------------------------------------------------

namespace TextLines

variable {α : Type}

/- The text of lines that all end with `newline`. -/
def unlines
    (newline : α)
    (lines : List (List α)) : List α :=
  lines.flatMap (fun line => line ++ [newline])

theorem unlines_append
    (newline : α)
    (lines more : List (List α)) :
    unlines newline (lines ++ more) =
      unlines newline lines ++ unlines newline more :=
  List.flatMap_append

theorem unlines_cons
    (newline : α)
    (line : List α)
    (lines : List (List α)) :
    unlines newline (line :: lines) =
      line ++ newline :: unlines newline lines := by
  simp [unlines]

theorem unlines_eq_nil_iff
    (newline : α)
    (lines : List (List α)) :
    unlines newline lines = [] ↔ lines = [] := by
  cases lines with
  | nil => simp [unlines]
  | cons line lines => simp [unlines_cons]

/- The lines of a text are read back, with an empty one
   after the last newline. -/
theorem splitOn_unlines
    [DecidableEq α]
    {newline : α}
    {lines : List (List α)}
    (hPlain : ∀ line ∈ lines, newline ∉ line) :
    (unlines newline lines).splitOn newline =
      lines ++ [[]] := by
  induction lines with
  | nil => rfl
  | cons line lines ih =>
      have hRest :
          (unlines newline lines).splitOn newline =
            lines ++ [[]] :=
        ih fun other hMem =>
          hPlain other (List.mem_cons_of_mem _ hMem)
      rw [unlines_cons,
        List.splitOn_append_cons_self_of_not_mem
          (hPlain line List.mem_cons_self), hRest]
      rfl

end TextLines

------------------------------------------------------------
-- Words
------------------------------------------------------------

namespace TextLines

variable {α : Type}
variable {space : α → Bool}

/- Drop the spaces before and after a text. -/
def strip
    (space : α → Bool)
    (text : List α) : List α :=
  (text.dropWhile space).rdropWhile space

/- The longest parts of a text without a space. -/
def words
    (space : α → Bool)
    (text : List α) : List (List α) :=
  (text.splitOnP space).filter (fun word => !word.isEmpty)

@[simp]
theorem words_nil : words space [] = [] := by
  simp [words]

theorem words_append_space
    (text more : List α)
    {s : α}
    (hSpace : space s = true) :
    words space (text ++ s :: more) =
      words space text ++ words space more := by
  rw [words, List.splitOnP_append_cons _ _ hSpace,
    List.filter_append]
  rfl

theorem words_space_cons
    (text : List α)
    {s : α}
    (hSpace : space s = true) :
    words space (s :: text) = words space text := by
  simpa using words_append_space [] text hSpace

theorem words_word
    {word : List α}
    (hWord : ∀ a ∈ word, space a = false)
    (hSome : word ≠ []) :
    words space word = [word] := by
  rw [words, List.splitOnP_eq_singleton hWord]
  simp [hSome]

/- A word that is followed by a space is the first word. -/
theorem words_word_append
    {word more : List α}
    {s : α}
    (hWord : ∀ a ∈ word, space a = false)
    (hSome : word ≠ [])
    (hSpace : space s = true) :
    words space (word ++ s :: more) =
      word :: words space more := by
  rw [words_append_space _ _ hSpace, words_word hWord hSome]
  rfl

theorem words_eq_nil
    {text : List α}
    (hSpaces : ∀ a ∈ text, space a = true) :
    words space text = [] := by
  induction text with
  | nil => exact words_nil
  | cons s text ih =>
      rw [words_space_cons _ (hSpaces s List.mem_cons_self)]
      exact
        ih fun a hMem =>
          hSpaces a (List.mem_cons_of_mem _ hMem)

/- A text that does not begin with a space has a word. -/
theorem words_cons_ne_nil
    {a : α}
    (text : List α)
    (hWord : space a = false) :
    words space (a :: text) ≠ [] := by
  have hHead :
      (a :: text).splitOnP space =
        (text.splitOnP space).modifyHead (a :: ·) := by
    rw [List.splitOnP_cons_eq_if_modifyHead, hWord]
    rfl
  rw [words, hHead]
  cases hParts : text.splitOnP space with
  | nil => exact absurd hParts (List.splitOnP_ne_nil _ _)
  | cons part parts => simp

theorem words_spaces_append
    {spaces : List α}
    (text : List α)
    (hSpaces : ∀ a ∈ spaces, space a = true) :
    words space (spaces ++ text) = words space text := by
  induction spaces with
  | nil => rfl
  | cons s spaces ih =>
      rw [List.cons_append,
        words_space_cons _ (hSpaces s List.mem_cons_self)]
      exact
        ih fun a hMem =>
          hSpaces a (List.mem_cons_of_mem _ hMem)

theorem words_append_spaces
    (text : List α)
    {spaces : List α}
    (hSpaces : ∀ a ∈ spaces, space a = true) :
    words space (text ++ spaces) = words space text := by
  cases spaces with
  | nil => rw [List.append_nil]
  | cons s spaces =>
      have hRest :
          words space spaces = [] :=
        words_eq_nil fun a hMem =>
          hSpaces a (List.mem_cons_of_mem _ hMem)
      rw [words_append_space _ _
          (hSpaces s List.mem_cons_self),
        hRest, List.append_nil]

theorem words_dropWhile (text : List α) :
    words space (text.dropWhile space) =
      words space text := by
  have hSpaces :
      ∀ a ∈ text.takeWhile space, space a = true :=
    fun _ hMem => List.mem_takeWhile_imp hMem
  calc
    words space (text.dropWhile space)
        = words space
            (text.takeWhile space ++
              text.dropWhile space) :=
          (words_spaces_append _ hSpaces).symm
    _ = words space text := by
          rw [List.takeWhile_append_dropWhile]

theorem words_rdropWhile (text : List α) :
    words space (text.rdropWhile space) =
      words space text := by
  have hSpaces :
      ∀ a ∈ text.rtakeWhile space, space a = true :=
    fun _ hMem => List.mem_rtakeWhile_imp hMem
  calc
    words space (text.rdropWhile space)
        = words space
            (text.rdropWhile space ++
              text.rtakeWhile space) :=
          (words_append_spaces _ hSpaces).symm
    _ = words space text := by
          rw [List.rdropWhile_append_rtakeWhile]

theorem words_strip (text : List α) :
    words space (strip space text) = words space text := by
  rw [strip, words_rdropWhile, words_dropWhile]

/- What is left of a text begins with its first symbol that
   is not a space. -/
theorem strip_spaces_cons
    {spaces : List α}
    {a : α}
    (text : List α)
    (hSpaces : ∀ b ∈ spaces, space b = true)
    (hWord : space a = false) :
    ∃ rest, strip space (spaces ++ a :: text) = a :: rest := by
  have hLeft :
      (spaces ++ a :: text).dropWhile space = a :: text := by
    rw [List.dropWhile_append_of_pos hSpaces]
    simp [hWord]
  cases hStrip : strip space (spaces ++ a :: text) with
  | nil =>
      rw [strip, hLeft, List.rdropWhile_eq_nil_iff] at hStrip
      have hSpace := hStrip a List.mem_cons_self
      rw [hWord] at hSpace
      contradiction
  | cons b rest =>
      have hPart : b :: rest <+: a :: text := by
        rw [← hStrip, strip, hLeft]
        exact List.rdropWhile_prefix _ _
      exact ⟨rest, by rw [(List.cons_prefix_cons.1 hPart).1]⟩

end TextLines
