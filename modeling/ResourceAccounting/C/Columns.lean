import ResourceAccounting.C.Printf

/-!
# Columns — rows of left-justified cells, read back as words

A row is printed as one `%-ws` after the other, with nothing between them.  A cell that fills its
width leaves no blank behind it and grows together with the next one; an empty cell leaves blanks
only.  Neither is seen by a reader that splits the row into words:

- `row` — the printed cells;
- `glue` — the words that are left of non-empty cells;
- `split_row`, `split_row_nil_cons` — these are the words that `split` gives.
-/

namespace ResourceAccounting
namespace C

open Python

/-- The cells of a row, each in a column of width `w`. -/
def row (w : Nat) (cells : List Text) : Text :=
  cells.flatMap (leftJustify w) ++ ['\n']

/-- The words of a row: a cell that fills its column is glued to the next word. -/
def glue (w : Nat) : List Text → List Text
  | [] => []
  | s :: cells =>
      if s.length < w then
        s :: glue w cells
      else
        match glue w cells with
        | [] => [s]
        | t :: words => (s ++ t) :: words

@[simp]
theorem glue_nil (w : Nat) : glue w [] = [] :=
  rfl

theorem glue_cons_of_lt {w : Nat} {s : Text} (h : s.length < w) (cells : List Text) :
    glue w (s :: cells) = s :: glue w cells := by
  rw [glue, if_pos h]

theorem glue_singleton (w : Nat) (s : Text) : glue w [s] = [s] := by
  by_cases h : s.length < w
  · rw [glue_cons_of_lt h, glue_nil]
  · simp [glue, h]

/-- The first word starts with the first cell. -/
theorem exists_glue_cons (w : Nat) (s : Text) (cells : List Text) :
    ∃ t words, glue w (s :: cells) = (s ++ t) :: words := by
  by_cases h : s.length < w
  · exact ⟨[], glue w cells, by rw [glue_cons_of_lt h, List.append_nil]⟩
  · cases hglue : glue w cells with
    | nil => exact ⟨[], [], by simp [glue, h, hglue]⟩
    | cons t words => exact ⟨t, words, by simp [glue, h, hglue]⟩

theorem glue_cons_of_le {w : Nat} {s t : Text} {cells words : List Text} (h : w ≤ s.length)
    (hglue : glue w cells = t :: words) : glue w (s :: cells) = (s ++ t) :: words := by
  rw [glue, if_neg (not_lt.2 h), hglue]

/-! ## Reading a row -/

theorem split_replicate_append (n : Nat) (t : Text) :
    split (List.replicate n ' ' ++ t) = split t := by
  induction n with
  | zero => simp
  | succ n ih =>
      rw [List.replicate_succ, List.cons_append, split_blank_cons _ (by decide), ih]

/-- A word is glued to a text that starts with a word. -/
theorem split_word_append {s t : Text} (hs : IsWord s) {v : Text} {words : List Text}
    (ht : ∃ c r, t = c :: r ∧ isSpace c = false) (hsplit : split t = v :: words) :
    split (s ++ t) = (s ++ v) :: words := by
  rcases ht with ⟨c, r, rfl, hc⟩
  induction s with
  | nil => exact hsplit
  | cons d s ih =>
      have hd : ¬ isSpace d = true := by simp [hs d List.mem_cons_self]
      have hrest := ih fun e he => hs e (List.mem_cons_of_mem d he)
      -- the rest starts with a character of a word, so its first piece is not empty
      obtain ⟨e, rest, heq, he⟩ : ∃ e rest, s ++ c :: r = e :: rest ∧ ¬ isSpace e = true := by
        cases s with
        | nil => exact ⟨c, r, rfl, by simp [hc]⟩
        | cons e s =>
            have he := hs e (List.mem_cons_of_mem d List.mem_cons_self)
            exact ⟨e, s ++ c :: r, rfl, by simp [he]⟩
      have hpiece : ∃ piece pieces, (s ++ c :: r).splitOnP isSpace = (e :: piece) :: pieces := by
        rcases List.exists_cons_of_ne_nil (List.splitOnP_ne_nil isSpace rest) with ⟨q, qs, hqs⟩
        refine ⟨q, qs, ?_⟩
        rw [heq, List.splitOnP_cons_eq_if_modifyHead, if_neg he, hqs, List.modifyHead_cons]
      rcases hpiece with ⟨piece, pieces, hpieces⟩
      have hsplitRest : split (s ++ c :: r) = (e :: piece) ::
          pieces.filter (fun w => !w.isEmpty) := by
        simp [split, hpieces]
      have hsplitWord : split (d :: (s ++ c :: r)) = (d :: e :: piece) ::
          pieces.filter (fun w => !w.isEmpty) := by
        simp [split, List.splitOnP_cons_eq_if_modifyHead, hd, hpieces]
      rw [hsplitRest] at hrest
      have hparts := List.cons.inj hrest
      rw [List.cons_append, hsplitWord, hparts.1, hparts.2, List.cons_append]

/-- A row of non-empty cells is read as its words. -/
theorem split_row (w : Nat) {cells : List Text} (h : ∀ s ∈ cells, IsWord s ∧ s ≠ []) :
    split (row w cells) = glue w cells := by
  induction cells with
  | nil => rfl
  | cons s cells ih =>
      rcases h s List.mem_cons_self with ⟨hs, hne⟩
      have hcells := fun t ht => h t (List.mem_cons_of_mem s ht)
      have hrest := ih hcells
      have hrow : row w (s :: cells) = s ++ (List.replicate (w - s.length) ' ' ++ row w cells) := by
        simp [row, leftJustify]
      by_cases hlt : s.length < w
      · -- a blank ends the word
        obtain ⟨k, hk⟩ : ∃ k, w - s.length = k + 1 := ⟨w - s.length - 1, by omega⟩
        rw [hrow, hk, List.replicate_succ, List.cons_append,
          split_word_append_blank hs hne _ (by decide), split_replicate_append, hrest,
          glue_cons_of_lt hlt]
      · have hk : w - s.length = 0 := by omega
        rw [hrow, hk, List.replicate_zero, List.nil_append]
        cases cells with
        | nil =>
            have hnewline : row w [] = ['\n'] := rfl
            rw [hnewline, split_append_blank_singleton s (by decide), split_word hs hne,
              glue_singleton]
        | cons t cells =>
            rcases exists_glue_cons w t cells with ⟨u, words, hglue⟩
            rw [hglue] at hrest
            rw [glue_cons_of_le (not_lt.1 hlt) hglue]
            -- the next cell is not empty
            rcases hcells t List.mem_cons_self with ⟨ht, hnet⟩
            rcases List.exists_cons_of_ne_nil hnet with ⟨c, r, rfl⟩
            have hstart : row w ((c :: r) :: cells) =
                c :: (r ++ (List.replicate (w - (c :: r).length) ' ' ++ row w cells)) := by
              simp [row, leftJustify]
            exact split_word_append hs ⟨c, _, hstart, ht c List.mem_cons_self⟩ hrest

/-- An empty cell leaves blanks only. -/
theorem split_row_nil_cons (w : Nat) (cells : List Text) :
    split (row w ([] :: cells)) = split (row w cells) := by
  have hrow : row w ([] :: cells) = List.replicate w ' ' ++ row w cells := by
    simp [row, leftJustify]
  rw [hrow, split_replicate_append]

end C
end ResourceAccounting
