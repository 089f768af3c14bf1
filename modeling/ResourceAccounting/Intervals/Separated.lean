import Mathlib.Data.List.Pairwise
import Mathlib.Order.CompletePartialOrder
import Mathlib.Order.Interval.Set.Disjoint
import ResourceAccounting.Intervals.Open

/-!
# Separated — lists of open intervals that share no point

In a dense order two open intervals meet exactly when they have a point in common.  A list of
intervals without common points stays one when it absorbs an interval that meets one of them at
most.  It does not when the interval meets two: both grow by the points of the new interval.

- `meets_iff_not_disjoint` — to meet is to share a point;
- `separated_absorb_iff` — the intervals that a separated list can absorb;
- `exists_covers_absorb` — one interval then covers everything that has been merged.
-/

namespace ResourceAccounting
namespace Intervals

variable {α : Type*} [LinearOrder α]

/-- No point lies in two intervals of the list. -/
def Separated (l : List (OpenInterval α)) : Prop :=
  l.Pairwise (fun s r => Disjoint s.points r.points)

@[simp]
theorem separated_nil : Separated ([] : List (OpenInterval α)) :=
  List.Pairwise.nil

/-! ## Counting -/

theorem countP_le_one_iff_pairwise {β : Type*} {p : β → Bool} {l : List β} :
    l.countP p ≤ 1 ↔ l.Pairwise (fun b c => ¬ (p b = true ∧ p c = true)) := by
  induction l with
  | nil => simp
  | cons b l ih =>
      rw [List.pairwise_cons, ← ih]
      by_cases hb : p b = true
      · -- the head is the one, so no other may follow
        have hnone : l.countP p = 0 ↔ ∀ c ∈ l, ¬ (p b = true ∧ p c = true) := by
          simp [List.countP_eq_zero, hb]
        rw [List.countP_cons_of_pos hb, ← hnone]
        omega
      · simp [hb]

theorem eq_of_countP_le_one {β : Type*} {p : β → Bool} {l : List β} {b c : β}
    (h : l.countP p ≤ 1) (hb : b ∈ l) (hc : c ∈ l) (hpb : p b = true) (hpc : p c = true) :
    b = c := by
  by_contra hne
  have hsymm : Std.Symm (fun b c => ¬ (p b = true ∧ p c = true)) := ⟨fun _ _ h => mt And.symm h⟩
  exact (countP_le_one_iff_pairwise.1 h).forall hb hc hne ⟨hpb, hpc⟩

/-! ## Meeting and sharing points -/

/-- The hull takes in no point of an interval that is apart from both. -/
theorem OpenInterval.disjoint_hull {s r q : OpenInterval α} (hmeets : s.Meets r)
    (hs : Disjoint s.points q.points) (hr : Disjoint r.points q.points) :
    Disjoint (s.hull r).points q.points := by
  rw [points_hull hmeets, Set.disjoint_union_left]
  exact ⟨hs, hr⟩

section Dense

variable [DenselyOrdered α]

namespace OpenInterval

theorem points_nonempty (s : OpenInterval α) : s.points.Nonempty :=
  Set.nonempty_Ioo.2 s.lo_lt_hi

theorem meets_iff_not_disjoint {s r : OpenInterval α} :
    s.Meets r ↔ ¬ Disjoint s.points r.points := by
  rw [points, points, Set.Ioo_disjoint_Ioo, not_le, max_lt_iff, lt_min_iff, lt_min_iff]
  exact ⟨fun h => ⟨⟨s.lo_lt_hi, h.2⟩, h.1, r.lo_lt_hi⟩, fun h => ⟨h.2.1, h.1.2⟩⟩

theorem disjoint_of_not_meets {s r : OpenInterval α} (h : ¬ s.Meets r) :
    Disjoint s.points r.points :=
  not_not.1 (mt meets_iff_not_disjoint.2 h)

/-- Two hulls with the same interval share its points. -/
theorem not_disjoint_hull (s q r : OpenInterval α) :
    ¬ Disjoint (s.hull r).points (q.hull r).points := by
  rcases r.points_nonempty with ⟨t, ht⟩
  exact Set.not_disjoint_iff.2
    ⟨t, s.points_right_subset_hull r ht, q.points_right_subset_hull r ht⟩

end OpenInterval

/-! ## Absorbing into a separated list -/

open OpenInterval

/-- Of two intervals without a common point, both may not grow. -/
theorem disjoint_grow_iff {s q r : OpenInterval α} (h : Disjoint s.points q.points) :
    Disjoint (if s.Meets r then s.hull r else s).points
        (if q.Meets r then q.hull r else q).points ↔ ¬ (s.Meets r ∧ q.Meets r) := by
  by_cases hs : s.Meets r
  · by_cases hq : q.Meets r
    · simpa [hs, hq] using not_disjoint_hull s q r
    · simpa [hs, hq] using disjoint_hull hs h (disjoint_of_not_meets hq).symm
  · by_cases hq : q.Meets r
    · simpa [hs, hq] using (disjoint_hull hq h.symm (disjoint_of_not_meets hs).symm).symm
    · simpa [hs, hq] using h

theorem separated_growAll_iff {l : List (OpenInterval α)} {r : OpenInterval α}
    (hl : Separated l) :
    Separated (growAll l r) ↔ l.countP (fun s => decide (s.Meets r)) ≤ 1 := by
  rw [Separated, growAll, List.pairwise_map, countP_le_one_iff_pairwise]
  constructor
  · intro hgrown
    exact (hl.and hgrown).imp fun h => by simpa using (disjoint_grow_iff h.1).1 h.2
  · intro hone
    exact (hl.and hone).imp fun h => (disjoint_grow_iff h.1).2 (by simpa using h.2)

/-- A separated list stays so if and only if the interval that it absorbs meets one of its intervals
at most. -/
theorem separated_absorb_iff {l : List (OpenInterval α)} {r : OpenInterval α}
    (hl : Separated l) :
    Separated (absorb l r) ↔ l.countP (fun s => decide (s.Meets r)) ≤ 1 := by
  unfold absorb
  split
  · exact separated_growAll_iff hl
  · rename_i hnone
    have hcount : l.countP (fun s => decide (s.Meets r)) = 0 := by
      simpa [List.countP_eq_zero] using hnone
    refine iff_of_true ?_ (by omega)
    rw [Separated, List.pairwise_append]
    refine ⟨hl, List.pairwise_singleton _ _, fun s hs q hq => ?_⟩
    rw [List.mem_singleton.1 hq]
    exact disjoint_of_not_meets fun hmeets => hnone ⟨s, hs, hmeets⟩

end Dense

/-- If at most one interval of the list meets `r`, one interval covers both afterwards. -/
theorem exists_covers_absorb {l : List (OpenInterval α)} {r : OpenInterval α}
    (hone : l.countP (fun s => decide (s.Meets r)) ≤ 1) :
    ∃ q ∈ absorb l r, r.points ⊆ q.points ∧ ∀ s ∈ l, s.Meets r → s.points ⊆ q.points := by
  by_cases hex : ∃ s ∈ l, s.Meets r
  · rw [absorb, if_pos hex]
    rcases hex with ⟨s, hs, hmeets⟩
    refine ⟨s.hull r, List.mem_map.2 ⟨s, hs, if_pos hmeets⟩, s.points_right_subset_hull r, ?_⟩
    intro q hq hqmeets
    rw [eq_of_countP_le_one hone hq hs (decide_eq_true hqmeets) (decide_eq_true hmeets)]
    exact s.points_subset_hull r
  · rw [absorb, if_neg hex]
    refine ⟨r, by simp, subset_rfl, fun s hs hmeets => absurd ⟨s, hs, hmeets⟩ hex⟩

end Intervals
end ResourceAccounting
