import Mathlib.Data.List.DropRight

/-!
# Lines — reading a stream of lines in pieces

A stream of lines, each closed by a delimiter `d`, arrives in pieces.  A reader keeps what it has
received in a buffer of limited size and asks for another piece only when the buffer holds no
complete line.

- `carry` — what follows the last delimiter;
- `Fits` — pieces for which there is always room in the buffer;
- `line_unique` — the first line of a text is determined by the text.
-/

namespace ResourceAccounting
namespace Streams

variable {α : Type*}

/-- A text has one first line. -/
theorem line_unique {d : α} {l l' r r' : List α} (hl : d ∉ l) (hl' : d ∉ l')
    (h : l ++ d :: r = l' ++ d :: r') : l = l' ∧ r = r' := by
  induction l generalizing l' with
  | nil =>
      cases l' with
      | nil => exact ⟨rfl, by simpa using h⟩
      | cons x l' =>
          have hx : d = x := (List.cons.inj h).1
          exact absurd (hx ▸ List.mem_cons_self) hl'
  | cons x l ih =>
      cases l' with
      | nil =>
          have hx : x = d := (List.cons.inj h).1
          exact absurd (hx ▸ List.mem_cons_self) hl
      | cons y l' =>
          have hparts := List.cons.inj h
          have hrest := ih (fun hd => hl (List.mem_cons_of_mem _ hd))
            (fun hd => hl' (List.mem_cons_of_mem _ hd)) hparts.2
          exact ⟨by rw [hparts.1, hrest.1], hrest.2⟩

section Pieces

variable [DecidableEq α]

/-- What follows the last delimiter. -/
def carry (d : α) (t : List α) : List α :=
  t.rtakeWhile (fun x => decide (x ≠ d))

theorem carry_of_not_mem {d : α} {t : List α} (h : d ∉ t) : carry d t = t := by
  refine List.rtakeWhile_eq_self_iff.2 fun x hx => ?_
  simpa using fun hxd : x = d => h (hxd ▸ hx)

theorem carry_concat (d : α) (t : List α) (x : α) :
    carry d (t ++ [x]) = if x = d then [] else carry d t ++ [x] := by
  by_cases hx : x = d
  · simp [carry, hx]
  · simp [carry, hx]

theorem carry_append_cons (d : α) (l r : List α) : carry d (l ++ d :: r) = carry d r := by
  induction r using List.reverseRecOn with
  | nil => exact (carry_concat d l d).trans (if_pos rfl)
  | append_singleton r x ih =>
      calc
        carry d (l ++ d :: (r ++ [x])) = carry d ((l ++ d :: r) ++ [x]) := by
              rw [List.append_assoc, List.cons_append]
        _ = carry d (r ++ [x]) := by rw [carry_concat, carry_concat, ih]

/-- There is room for every piece, after what is left of the pieces before it. -/
def Fits (d : α) (size : Nat) : List α → List (List α) → Prop
  | _, [] => True
  | t, piece :: pieces =>
      (carry d t).length + piece.length ≤ size ∧ Fits d size (carry d t ++ piece) pieces

instance decidableFits (d : α) (size : Nat) :
    ∀ (t : List α) (pieces : List (List α)), Decidable (Fits d size t pieces)
  | _, [] => isTrue trivial
  | t, piece :: pieces =>
      have := decidableFits d size (carry d t ++ piece) pieces
      inferInstanceAs (Decidable (_ ∧ _))

theorem fits_of_append_cons {d : α} {size : Nat} {l r : List α} {pieces : List (List α)}
    (h : Fits d size (l ++ d :: r) pieces) : Fits d size r pieces := by
  cases pieces with
  | nil => trivial
  | cons piece pieces => simpa [Fits, carry_append_cons] using h

theorem fits_cons_of_not_mem {d : α} {size : Nat} {t piece : List α} {pieces : List (List α)}
    (ht : d ∉ t) (h : Fits d size t (piece :: pieces)) :
    t.length + piece.length ≤ size ∧ Fits d size (t ++ piece) pieces := by
  simpa [Fits, carry_of_not_mem ht] using h

end Pieces

end Streams
end ResourceAccounting
