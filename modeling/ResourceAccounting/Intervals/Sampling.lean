import Mathlib.MeasureTheory.Measure.Lebesgue.Basic
import Mathlib.MeasureTheory.Measure.Real
import Mathlib.Order.CompletePartialOrder
import ResourceAccounting.Intervals.Open

/-!
# Sampling — the covered length, estimated at the starts of steps of one size

A line is walked in steps of one size, and each step counts as covered if its first point is.  How
far this estimate is from the length of the covered set depends on the ends of the intervals only:

- `Ico_subset_cover`, `disjoint_Ico_cover` — a step in which no interval ends is covered as a whole
  or not at all, and its first point tells which;
- `abs_samples_sub_lengthIn_le` — so the estimate is off by at most one step for each end.
-/

namespace ResourceAccounting
namespace Intervals

/-! ## The ends of the intervals -/

section Ends

variable {α : Type*} [LinearOrder α]

/-- The ends of the intervals, two for each. -/
def ends (l : List (OpenInterval α)) : List α :=
  l.flatMap fun s => [s.lo, s.hi]

@[simp]
theorem length_ends (l : List (OpenInterval α)) : (ends l).length = 2 * l.length := by
  simp [ends, List.length_flatMap, mul_comm]

theorem lo_mem_ends {l : List (OpenInterval α)} {s : OpenInterval α} (hs : s ∈ l) :
    s.lo ∈ ends l :=
  List.mem_flatMap.2 ⟨s, hs, by simp⟩

theorem hi_mem_ends {l : List (OpenInterval α)} {s : OpenInterval α} (hs : s ∈ l) :
    s.hi ∈ ends l :=
  List.mem_flatMap.2 ⟨s, hs, by simp⟩

/-- How many ends lie in the step from `a` to `b`. -/
def endsIn (l : List (OpenInterval α)) (a b : α) : ℕ :=
  (ends l).countP (fun x => decide (a ≤ x ∧ x < b))

theorem endsIn_le (l : List (OpenInterval α)) (a b : α) : endsIn l a b ≤ 2 * l.length := by
  rw [← length_ends]
  exact List.countP_le_length

/-- An end lies in one of two steps in a row. -/
theorem endsIn_add (l : List (OpenInterval α)) {a b c : α} (hab : a ≤ b) (hbc : b ≤ c) :
    endsIn l a b + endsIn l b c = endsIn l a c := by
  unfold endsIn
  induction ends l with
  | nil => simp
  | cons x xs ih =>
      simp only [List.countP_cons, decide_eq_true_eq]
      rw [← ih]
      rcases lt_or_ge x b with hlt | hge
      · have hright : ¬ (b ≤ x ∧ x < c) := fun h => absurd h.1 (not_le.2 hlt)
        have hleft : (a ≤ x ∧ x < c) ↔ (a ≤ x ∧ x < b) :=
          ⟨fun h => ⟨h.1, hlt⟩, fun h => ⟨h.1, h.2.trans_le hbc⟩⟩
        simp only [hright, hleft, if_false]
        omega
      · have hleft : ¬ (a ≤ x ∧ x < b) := fun h => absurd h.2 (not_lt.2 hge)
        have hright : (a ≤ x ∧ x < c) ↔ (b ≤ x ∧ x < c) :=
          ⟨fun h => ⟨hge, h.2⟩, fun h => ⟨hab.trans hge, h.2⟩⟩
        simp only [hleft, hright, if_false]
        omega

theorem not_mem_of_endsIn_eq_zero {l : List (OpenInterval α)} {a b x : α} (h : endsIn l a b = 0)
    (hx : x ∈ ends l) : x < a ∨ b ≤ x := by
  have hnot := List.countP_eq_zero.1 h x hx
  simp only [decide_eq_true_eq, not_and, not_lt] at hnot
  exact (lt_or_ge x a).imp_right hnot

/-- The first point is covered and no interval ends: all of the step is covered. -/
theorem Ico_subset_cover {l : List (OpenInterval α)} {a b : α} (h : endsIn l a b = 0)
    (ha : a ∈ cover l) : Set.Ico a b ⊆ cover l := by
  rcases ha with ⟨s, hs, hlo, hhi⟩
  intro t ht
  rcases not_mem_of_endsIn_eq_zero h (hi_mem_ends hs) with hlt | hge
  · exact absurd hlt (not_lt.2 hhi.le)
  · exact ⟨s, hs, hlo.trans_le ht.1, ht.2.trans_le hge⟩

/-- The first point is not covered and no interval starts: nothing of the step is covered. -/
theorem disjoint_Ico_cover {l : List (OpenInterval α)} {a b : α} (h : endsIn l a b = 0)
    (ha : a ∉ cover l) : Disjoint (cover l) (Set.Ico a b) := by
  rw [Set.disjoint_left]
  rintro t ⟨s, hs, hlo, hhi⟩ ht
  rcases not_mem_of_endsIn_eq_zero h (lo_mem_ends hs) with hlt | hge
  · exact ha ⟨s, hs, hlt, lt_of_le_of_lt ht.1 hhi⟩
  · exact absurd (hlo.trans ht.2) (not_lt.2 hge)

/-- The number of covered points among `a`, `a + δ`, …, `n` in all. -/
def samples [Add α] (l : List (OpenInterval α)) (δ : α) : ℕ → α → ℕ
  | 0, _ => 0
  | n + 1, a => (if a ∈ cover l then 1 else 0) + samples l δ n (a + δ)

end Ends

/-! ## The covered length -/

section Length

open MeasureTheory

/-- The length of what is covered from `a` to `b`. -/
noncomputable def lengthIn (l : List (OpenInterval ℝ)) (a b : ℝ) : ℝ :=
  volume.real (cover l ∩ Set.Ico a b)

theorem isOpen_cover (l : List (OpenInterval ℝ)) : IsOpen (cover l) := by
  induction l with
  | nil => simp
  | cons s l ih =>
      rw [cover_cons]
      exact isOpen_Ioo.union ih

theorem volume_cover_inter_ne_top (l : List (OpenInterval ℝ)) (a b : ℝ) :
    volume (cover l ∩ Set.Ico a b) ≠ ⊤ :=
  ne_top_of_le_ne_top (by simp) (measure_mono Set.inter_subset_right)

theorem lengthIn_nonneg (l : List (OpenInterval ℝ)) (a b : ℝ) : 0 ≤ lengthIn l a b :=
  measureReal_nonneg

theorem lengthIn_le (l : List (OpenInterval ℝ)) {a b : ℝ} (hab : a ≤ b) :
    lengthIn l a b ≤ b - a := by
  calc
    lengthIn l a b ≤ volume.real (Set.Ico a b) :=
      measureReal_mono Set.inter_subset_right (by simp)
    _ = b - a := Real.volume_real_Ico_of_le hab

theorem lengthIn_add (l : List (OpenInterval ℝ)) {a b c : ℝ} (hab : a ≤ b) (hbc : b ≤ c) :
    lengthIn l a b + lengthIn l b c = lengthIn l a c := by
  have hdisjoint : Disjoint (cover l ∩ Set.Ico a b) (cover l ∩ Set.Ico b c) := by
    apply Set.disjoint_left.2
    rintro t ⟨-, ht⟩ ⟨-, ht'⟩
    exact absurd ht'.1 (not_le.2 ht.2)
  have hunion := measureReal_union hdisjoint
    ((isOpen_cover l).measurableSet.inter measurableSet_Ico)
    (volume_cover_inter_ne_top l a b) (volume_cover_inter_ne_top l b c)
  rw [← Set.inter_union_distrib_left, Set.Ico_union_Ico_eq_Ico hab hbc] at hunion
  exact hunion.symm

theorem lengthIn_eq_closed (l : List (OpenInterval ℝ)) (a b : ℝ) :
    volume.real (cover l ∩ Set.Icc a b) = lengthIn l a b :=
  measureReal_congr ((ae_eq_refl (cover l)).inter Ico_ae_eq_Icc.symm)

/-- One step: off by at most the step, and exact unless an interval ends in it. -/
theorem abs_sample_sub_lengthIn_le (l : List (OpenInterval ℝ)) (a : ℝ) {δ : ℝ} (hδ : 0 ≤ δ) :
    |δ * ((if a ∈ cover l then 1 else 0 : ℕ) : ℝ) - lengthIn l a (a + δ)| ≤
      δ * endsIn l a (a + δ) := by
  have hle : a ≤ a + δ := by linarith
  rcases Nat.eq_zero_or_pos (endsIn l a (a + δ)) with hzero | hpos
  · -- the first point decides for the whole step
    have hexact : lengthIn l a (a + δ) = δ * ((if a ∈ cover l then 1 else 0 : ℕ) : ℝ) := by
      by_cases ha : a ∈ cover l
      · rw [lengthIn, Set.inter_eq_right.2 (Ico_subset_cover hzero ha),
          Real.volume_real_Ico_of_le hle, if_pos ha]
        simp
      · rw [lengthIn, (disjoint_Ico_cover hzero ha).inter_eq, if_neg ha]
        simp
    simp [hexact, hzero]
  · have hone : (1 : ℝ) ≤ endsIn l a (a + δ) := by exact_mod_cast hpos
    have hsample : δ ≤ δ * endsIn l a (a + δ) := le_mul_of_one_le_right hδ hone
    have hlow := lengthIn_nonneg l a (a + δ)
    have hhigh : lengthIn l a (a + δ) ≤ δ := by
      have := lengthIn_le l hle
      linarith
    rw [abs_le]
    by_cases ha : a ∈ cover l
    · simp only [ha, if_true, Nat.cast_one, mul_one]
      constructor <;> linarith
    · simp only [ha, if_false, Nat.cast_zero, mul_zero]
      constructor <;> linarith

/-- The estimate over `n` steps is off by at most one step for each end in them. -/
theorem abs_samples_sub_lengthIn_le (l : List (OpenInterval ℝ)) {δ : ℝ} (hδ : 0 ≤ δ) (n : ℕ) :
    ∀ a : ℝ, |δ * (samples l δ n a : ℝ) - lengthIn l a (a + n * δ)| ≤
      δ * endsIn l a (a + n * δ) := by
  induction n with
  | zero =>
      intro a
      have hempty : lengthIn l a a = 0 := by simp [lengthIn]
      simp only [samples, Nat.cast_zero, zero_mul, mul_zero, add_zero, hempty, sub_zero, abs_zero]
      positivity
  | succ n ih =>
      intro a
      have hstop : a + (n + 1 : ℕ) * δ = a + δ + n * δ := by
        push_cast
        ring
      have hstep : a ≤ a + δ := by linarith
      have hrest : a + δ ≤ a + δ + n * δ := by
        have : 0 ≤ n * δ := by positivity
        linarith
      -- the first step and the rest are both bounded by the ends that lie in them
      have hfirst := abs_sample_sub_lengthIn_le l a hδ
      have hothers := ih (a + δ)
      rw [hstop, ← lengthIn_add l hstep hrest, ← endsIn_add l hstep hrest]
      simp only [samples, Nat.cast_add, mul_add]
      rw [abs_le] at hfirst hothers ⊢
      constructor <;> linarith [hfirst.1, hfirst.2, hothers.1, hothers.2]

end Length

end Intervals
end ResourceAccounting
