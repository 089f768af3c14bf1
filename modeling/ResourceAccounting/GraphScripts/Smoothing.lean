import Mathlib.Algebra.BigOperators.Intervals
import Mathlib.Data.List.GetD
import Mathlib.Tactic.FieldSimp
import Mathlib.Tactic.Linarith
import ResourceAccounting.Python.Index

/-!
# Smoothing — the moving average of power.py

power.py averages each sample with up to 99 samples on both sides and leaves it to the `IndexError`
to stop at the ends of the list.  On the left there is none: the negative indices refer to the end
of the list, whose samples are counted as neighbours of the first ones.

- `poweravg` — the loop;
- `smoothed_iff` — when the average is that of the window around the sample;
- `smoothed_forall_iff` — the lengths and places for which it always is.
-/

namespace ResourceAccounting
namespace GraphScripts

open Python

/-! ## The script -/

/-- `avg` and `count` -/
@[ext]
structure Average where
  avg : ℚ
  count : Nat
  deriving DecidableEq, Repr

/-- `try: avg += power[i]; count += 1` with `except: pass` -/
def Average.add (a : Average) (power : List ℚ) (i : Int) : Average :=
  match index? power i with
  | some p => { avg := a.avg + p, count := a.count + 1 }
  | none => a

/-- The loop over `range(1,100)`, for the sample `p` at `x`. -/
def average (power : List ℚ) (p : ℚ) (x : Nat) : Average :=
  (List.range' 1 99).foldl
    (fun a (i : Nat) => (a.add power ((x : Int) - i)).add power ((x : Int) + i))
    { avg := p, count := 1 }

/-- `poweravg` -/
def poweravg (power : List ℚ) : List ℚ :=
  power.zipIdx.map (fun e => (average power e.1 e.2).avg / (average power e.1 e.2).count)

/-! ## The demand -/

/-- The mean of the samples at these places. -/
def meanOver (power : List ℚ) (places : Finset Nat) : ℚ :=
  (∑ j ∈ places, power.getD j 0) / places.card

/-- The average at `x` is the mean of the samples at a distance of at most 99. -/
def Smoothed (power : List ℚ) (x : Nat) : Prop :=
  (poweravg power)[x]? = some (meanOver power (window power.length 99 x))

instance (power : List ℚ) (x : Nat) : Decidable (Smoothed power x) :=
  inferInstanceAs (Decidable (_ = _))

/-! ## What the loop averages -/

theorem index?_of_place? {power : List ℚ} {i : Int} {j : Nat}
    (h : place? power.length i = some j) : index? power i = some (power.getD j 0) := by
  simp [index?, h, lt_of_place? h]

theorem avg_add (a : Average) (power : List ℚ) (i : Int) :
    (a.add power i).avg = a.avg + amountAt (fun j => power.getD j 0) power.length i := by
  cases h : place? power.length i with
  | none => simp [Average.add, index?, amountAt, h]
  | some j => simp [Average.add, index?_of_place? h, amountAt, h]

theorem count_add (a : Average) (power : List ℚ) (i : Int) :
    (a.add power i).count = a.count + amountAt (fun _ => 1) power.length i := by
  cases h : place? power.length i with
  | none => simp [Average.add, index?, amountAt, h]
  | some j => simp [Average.add, index?_of_place? h, amountAt, h]

/-- The loop, for any number of turns. -/
theorem foldl_add (power : List ℚ) (x : Nat) (a : Average) (r : Nat) :
    ((List.range' 1 r).foldl
      (fun a (i : Nat) => (a.add power ((x : Int) - i)).add power ((x : Int) + i)) a) =
    { avg := a.avg + ∑ i ∈ Finset.Icc 1 r,
        (amountAt (fun j => power.getD j 0) power.length ((x : Int) - i) +
          amountAt (fun j => power.getD j 0) power.length ((x : Int) + i))
      count := a.count + ∑ i ∈ Finset.Icc 1 r,
        (amountAt (fun _ => 1) power.length ((x : Int) - i) +
          amountAt (fun _ => 1) power.length ((x : Int) + i)) } := by
  induction r with
  | zero => simp
  | succ r ih =>
      rw [List.range'_1_concat, List.foldl_concat, ih, Finset.sum_Icc_succ_top (by omega),
        Finset.sum_Icc_succ_top (by omega), add_comm 1 r]
      simp only [Average.ext_iff, avg_add, count_add, add_assoc, and_self]

/-- What the loop averages for the sample at `x`: the samples of the window, and those at the end of
the list to which the negative indices refer. -/
theorem average_eq {power : List ℚ} {x : Nat} (hx : x < power.length) :
    average power (power.getD x 0) x =
      { avg := ∑ j ∈ window power.length 99 x, power.getD j 0 +
          ∑ j ∈ wrapped power.length 99 x, power.getD j 0
        count := (window power.length 99 x).card + (wrapped power.length 99 x).card } := by
  have havg := sum_centred (fun j => power.getD j 0) 99 hx
  have hcount := sum_centred (fun _ => (1 : Nat)) 99 hx
  rw [← Finset.card_eq_sum_ones, ← Finset.card_eq_sum_ones] at hcount
  rw [average, foldl_add, Average.mk.injEq]
  exact ⟨havg, hcount⟩

theorem getElem?_poweravg {power : List ℚ} {x : Nat} (hx : x < power.length) :
    (poweravg power)[x]? = some
      ((∑ j ∈ window power.length 99 x, power.getD j 0 +
          ∑ j ∈ wrapped power.length 99 x, power.getD j 0) /
        ((window power.length 99 x).card + (wrapped power.length 99 x).card)) := by
  have hsample : power[x] = power.getD x 0 := by
    simp [hx]
  simp only [poweravg, List.getElem?_map, List.getElem?_zipIdx, List.getElem?_eq_getElem hx,
    Option.map_some, zero_add, hsample, average_eq hx, Nat.cast_add]

/-- Two groups together have the mean of the first if and only if the second is empty or has the
same mean. -/
theorem add_div_add_eq_iff {a b w t : ℚ} (hw : 0 < w) (ht : 0 ≤ t) (hb : t = 0 → b = 0) :
    (a + b) / (w + t) = a / w ↔ t = 0 ∨ b / t = a / w := by
  rcases ht.eq_or_lt with heq | hpos
  · have hzero : t = 0 := heq.symm
    simp [hzero, hb hzero]
  · rw [div_eq_div_iff (by positivity) hw.ne', div_eq_div_iff hpos.ne' hw.ne']
    constructor
    · intro h
      right
      linarith
    · rintro (h | h)
      · exact absurd h hpos.ne'
      · linarith

theorem card_wrapped {n x : Nat} (hx : x < n) : (wrapped n 99 x).card = min n (99 - x) := by
  have hwrapped : wrapped n 99 x = Finset.Ico (n + x - 99) n := by
    ext j
    simp only [wrapped, Finset.mem_filter, Finset.mem_range, Finset.mem_Ico]
    omega
  rw [hwrapped, Nat.card_Ico]
  omega

theorem card_window_pos {n x : Nat} (hx : x < n) : 0 < (window n 99 x).card := by
  refine Finset.card_pos.2 ⟨x, ?_⟩
  simp only [window, Finset.mem_filter, Finset.mem_range]
  omega

theorem smoothed_iff_of_wrapped {power : List ℚ} {x : Nat} (hx : x < power.length) :
    Smoothed power x ↔ (wrapped power.length 99 x).card = 0 ∨
      meanOver power (wrapped power.length 99 x) = meanOver power (window power.length 99 x) := by
  have hpos : (0 : ℚ) < (window power.length 99 x).card := by
    exact_mod_cast card_window_pos hx
  have hnone : ((wrapped power.length 99 x).card : ℚ) = 0 →
      ∑ j ∈ wrapped power.length 99 x, power.getD j 0 = 0 := by
    intro h
    rw [Finset.card_eq_zero.1 (Nat.cast_eq_zero.1 h), Finset.sum_empty]
  rw [Smoothed, getElem?_poweravg hx, Option.some_inj, meanOver, meanOver,
    add_div_add_eq_iff hpos (Nat.cast_nonneg _) hnone, Nat.cast_eq_zero]

/-- In a short list the negative indices refer to every sample once, and so does the window. -/
theorem smoothed_of_short {power : List ℚ} {x : Nat} (hx : x < power.length)
    (hshort : power.length + x ≤ 99) : Smoothed power x := by
  have hsame : wrapped power.length 99 x = window power.length 99 x := by
    ext j
    simp only [wrapped, window, Finset.mem_filter, Finset.mem_range]
    omega
  rw [smoothed_iff_of_wrapped hx, hsame]
  exact Or.inr rfl

/-- The mean over a list of zeros that ends with a one. -/
theorem meanOver_concat_one (n : Nat) (places : Finset Nat) :
    meanOver (List.replicate n 0 ++ [1]) places = (if n ∈ places then 1 else 0) / places.card := by
  have hsample : ∀ j ∈ places,
      (List.replicate n (0 : ℚ) ++ [1]).getD j 0 = if n = j then 1 else 0 := by
    intro j _
    rcases lt_trichotomy j n with hlt | rfl | hgt
    · rw [List.getD_append _ _ _ _ (by simpa using hlt), if_neg hlt.ne']
      simp [hlt]
    · simp
    · rw [if_neg hgt.ne, List.getD_eq_default]
      simp
      omega
  rw [meanOver, Finset.sum_congr rfl hsample, Finset.sum_ite_eq]

/-- The average at `x` of every list of length `n` is the mean of the window if and only if no
negative index is used or every sample is reached by one. -/
theorem smoothed_forall_iff {n x : Nat} (hx : x < n) :
    (∀ power : List ℚ, power.length = n → Smoothed power x) ↔ 99 ≤ x ∨ n + x ≤ 99 := by
  constructor
  · intro hall
    by_contra hcond
    rw [not_or, not_le, not_le] at hcond
    have hlength : (List.replicate (n - 1) (0 : ℚ) ++ [1]).length = n := by
      rw [List.length_append, List.length_replicate, List.length_singleton]
      omega
    have hmeans := (smoothed_iff_of_wrapped (by rw [hlength]; exact hx)).1 (hall _ hlength)
    rw [hlength, meanOver_concat_one, meanOver_concat_one, card_wrapped hx] at hmeans
    -- the one is among the samples that the negative indices reach
    have hreached : n - 1 ∈ wrapped n 99 x := by
      simp only [wrapped, Finset.mem_filter, Finset.mem_range]
      omega
    have hcard : min n (99 - x) = 99 - x := by omega
    rw [if_pos hreached, hcard] at hmeans
    have hpos : (0 : ℚ) < ((99 - x : Nat) : ℚ) := by
      exact_mod_cast (by omega : 0 < 99 - x)
    rcases hmeans with hzero | hmean
    · omega
    · by_cases hin : n - 1 ∈ window n 99 x
      · -- the window is the whole list, which is longer
        have hwindow : (window n 99 x).card = n := by
          have hall : window n 99 x = Finset.range n := by
            simp only [window, Finset.mem_filter, Finset.mem_range] at hin
            ext j
            simp only [window, Finset.mem_filter, Finset.mem_range]
            omega
          rw [hall, Finset.card_range]
        have hn : (0 : ℚ) < (n : ℚ) := by exact_mod_cast (by omega : 0 < n)
        rw [if_pos hin, hwindow, div_eq_div_iff hpos.ne' hn.ne', one_mul, one_mul] at hmean
        have heq : n = 99 - x := by exact_mod_cast hmean
        omega
      · rw [if_neg hin, zero_div, div_eq_zero_iff] at hmean
        rcases hmean with hone | hzero
        · exact one_ne_zero hone
        · exact hpos.ne' hzero
  · rintro (hfar | hshort) power rfl
    · rw [smoothed_iff_of_wrapped hx, card_wrapped hx]
      left
      omega
    · exact smoothed_of_short hx hshort

end GraphScripts
end ResourceAccounting
