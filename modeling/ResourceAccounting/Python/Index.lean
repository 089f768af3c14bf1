import Mathlib.Algebra.BigOperators.Group.Finset.Piecewise
import Mathlib.Order.Interval.Finset.Nat

/-!
# Index — list indices of Python, which may be negative

A negative index counts from the end of the list, so that only an index below the negated length
raises an `IndexError`.  A loop that goes to both sides of a place and trusts the `IndexError` to stop
it at the ends therefore meets the last places of the list when it goes beyond the first one:

- `place?` — the place that an index refers to;
- `window`, `wrapped` — the places around a place, and those that are met again from the front;
- `sum_centred` — what such a loop adds up.
-/

namespace ResourceAccounting
namespace Python

/-- The place that the index `i` refers to in a list of length `n`. -/
def place? (n : Nat) (i : Int) : Option Nat :=
  if 0 ≤ i then
    if i < n then some i.toNat else none
  else if 0 ≤ n + i then
    some (n + i).toNat
  else
    none

theorem lt_of_place? {n j : Nat} {i : Int} (h : place? n i = some j) : j < n := by
  unfold place? at h
  split_ifs at h <;> (cases h; omega)

/-- `l[i]`, `none` for an `IndexError`. -/
def index? {α : Type*} (l : List α) (i : Int) : Option α :=
  (place? l.length i).bind (fun j => l[j]?)

/-- The places at a distance of at most `r` from `x`. -/
def window (n r x : Nat) : Finset Nat :=
  (Finset.range n).filter (fun j => x ≤ j + r ∧ j ≤ x + r)

/-- The places to which the negative ones among the indices from `x - r` on refer. -/
def wrapped (n r x : Nat) : Finset Nat :=
  (Finset.range n).filter (fun j => n + x ≤ j + r)

section Sum

variable {M : Type*} [AddCommMonoid M] (f : Nat → M) (n r x : Nat)

/-- The amount at the place of an index, 0 for an `IndexError`. -/
def amountAt (i : Int) : M :=
  ((place? n i).map f).getD 0

variable {n x}

theorem amountAt_natCast (i : Nat) : amountAt f n i = if i < n then f i else 0 := by
  by_cases h : i < n
  · simp [amountAt, place?, h]
  · simp [amountAt, place?, h]

/-- An index below 0 by `i`. -/
theorem amountAt_of_neg {i : Nat} (hi : 0 < i) :
    amountAt f n (-(i : Int)) = if i ≤ n then f (n - i) else 0 := by
  have hneg : ¬ (0 : Int) ≤ -(i : Int) := by omega
  by_cases h : i ≤ n
  · have hplace : ((n : Int) + -(i : Int)).toNat = n - i := by omega
    have hnonneg : (0 : Int) ≤ n + -(i : Int) := by omega
    rw [amountAt, place?, if_neg hneg, if_pos hnonneg, hplace, if_pos h]
    rfl
  · have hnonneg : ¬ (0 : Int) ≤ n + -(i : Int) := by omega
    rw [amountAt, place?, if_neg hneg, if_neg hnonneg, if_neg h]
    rfl

/-- To the right the end of the list stops the loop. -/
theorem sum_right :
    ∑ i ∈ Finset.Icc 1 r, amountAt f n (x + i) =
      ∑ j ∈ (Finset.range n).filter (fun j => x < j ∧ j ≤ x + r), f j := by
  have hamount : ∀ i ∈ Finset.Icc 1 r,
      amountAt f n (x + i) = if x + i < n then f (x + i) else 0 := by
    intro i _
    have hindex : (x : Int) + i = ((x + i : Nat) : Int) := by omega
    rw [hindex, amountAt_natCast]
  rw [Finset.sum_congr rfl hamount, ← Finset.sum_filter]
  refine Finset.sum_nbij' (fun i => x + i) (fun j => j - x) ?_ ?_ ?_ ?_ ?_
  · intro i hi
    simp only [Finset.mem_filter, Finset.mem_Icc] at hi
    simp only [Finset.mem_filter, Finset.mem_range]
    omega
  · intro j hj
    simp only [Finset.mem_filter, Finset.mem_range] at hj
    simp only [Finset.mem_filter, Finset.mem_Icc]
    omega
  · intro i _
    exact Nat.add_sub_cancel_left x i
  · intro j hj
    simp only [Finset.mem_filter] at hj
    omega
  · intro i _
    rfl

/-- To the left it goes on at the end of the list. -/
theorem sum_left (hx : x < n) :
    ∑ i ∈ Finset.Icc 1 r, amountAt f n (x - i) =
      ∑ j ∈ (Finset.range n).filter (fun j => j < x ∧ x ≤ j + r), f j + ∑ j ∈ wrapped n r x, f j := by
  rw [← Finset.sum_filter_add_sum_filter_not (Finset.Icc 1 r) (fun i => i ≤ x)]
  congr 1
  · have hamount : ∀ i ∈ (Finset.Icc 1 r).filter (fun i => i ≤ x),
        amountAt f n (x - i) = f (x - i) := by
      intro i hi
      have hle : i ≤ x := (Finset.mem_filter.1 hi).2
      have hindex : (x : Int) - i = ((x - i : Nat) : Int) := by omega
      rw [hindex, amountAt_natCast, if_pos (by omega)]
    rw [Finset.sum_congr rfl hamount]
    refine Finset.sum_nbij' (fun i => x - i) (fun j => x - j) ?_ ?_ ?_ ?_ ?_
    · intro i hi
      simp only [Finset.mem_filter, Finset.mem_Icc] at hi
      simp only [Finset.mem_filter, Finset.mem_range]
      omega
    · intro j hj
      simp only [Finset.mem_filter, Finset.mem_range] at hj
      simp only [Finset.mem_filter, Finset.mem_Icc]
      omega
    · intro i hi
      simp only [Finset.mem_filter] at hi
      omega
    · intro j hj
      simp only [Finset.mem_filter] at hj
      omega
    · intro i _
      rfl
  · -- the index `x - i` refers to the place `n + x - i`
    have hamount : ∀ i ∈ (Finset.Icc 1 r).filter (fun i => ¬ i ≤ x),
        amountAt f n (x - i) = if i ≤ n + x then f (n + x - i) else 0 := by
      intro i hi
      have hlt : x < i := not_le.1 (Finset.mem_filter.1 hi).2
      have hindex : (x : Int) - i = -((i - x : Nat) : Int) := by omega
      have hplace : n - (i - x) = n + x - i := by omega
      have hreach : i - x ≤ n ↔ i ≤ n + x := by omega
      rw [hindex, amountAt_of_neg f (by omega), hplace]
      exact if_congr hreach rfl rfl
    rw [Finset.sum_congr rfl hamount, ← Finset.sum_filter, wrapped]
    refine Finset.sum_nbij' (fun i => n + x - i) (fun j => n + x - j) ?_ ?_ ?_ ?_ ?_
    · intro i hi
      simp only [Finset.mem_filter, Finset.mem_Icc] at hi
      simp only [Finset.mem_filter, Finset.mem_range]
      omega
    · intro j hj
      simp only [Finset.mem_filter, Finset.mem_range] at hj
      simp only [Finset.mem_filter, Finset.mem_Icc]
      omega
    · intro i hi
      simp only [Finset.mem_filter] at hi
      omega
    · intro j hj
      simp only [Finset.mem_filter, Finset.mem_range] at hj
      omega
    · intro i _
      rfl

/-- What a loop over both sides of `x` adds up: the window around `x`, and the places that are met
again from the front. -/
theorem sum_centred (hx : x < n) :
    f x + ∑ i ∈ Finset.Icc 1 r, (amountAt f n (x - i) + amountAt f n (x + i)) =
      ∑ j ∈ window n r x, f j + ∑ j ∈ wrapped n r x, f j := by
  have hwindow : ∑ j ∈ window n r x, f j =
      f x + (∑ j ∈ (Finset.range n).filter (fun j => j < x ∧ x ≤ j + r), f j +
        ∑ j ∈ (Finset.range n).filter (fun j => x < j ∧ j ≤ x + r), f j) := by
    have hsplit : window n r x = insert x ((Finset.range n).filter (fun j => j < x ∧ x ≤ j + r) ∪
        (Finset.range n).filter (fun j => x < j ∧ j ≤ x + r)) := by
      ext j
      simp only [window, Finset.mem_insert, Finset.mem_union, Finset.mem_filter, Finset.mem_range]
      omega
    have hdisjoint : Disjoint ((Finset.range n).filter (fun j => j < x ∧ x ≤ j + r))
        ((Finset.range n).filter (fun j => x < j ∧ j ≤ x + r)) := by
      refine Finset.disjoint_filter.2 fun j _ hleft hright => ?_
      omega
    rw [hsplit, Finset.sum_insert, Finset.sum_union hdisjoint]
    simp
  rw [Finset.sum_add_distrib, sum_left f r hx, sum_right, hwindow, add_assoc (f x)]
  exact congrArg (f x + ·) (add_right_comm _ _ _)

end Sum

end Python
end ResourceAccounting
