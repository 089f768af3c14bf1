import Mathlib.Order.Interval.Set.LinearOrder

/-!
# Open — lists of open intervals and the set they cover

Intervals over a linear order are collected in a list.  A new interval is absorbed by every listed
interval that it meets, each of which grows to the hull of the two; an interval that meets none is
listed itself.  The list that results depends on the order of the intervals: an interval that has
grown stays in the list beside the others.  The covered set does not:

- `points_hull` — the hull of two intervals that meet covers what the two cover;
- `cover_absorb` — absorbing an interval adds its points and nothing else;
- `cover_foldl_absorb` — so a whole run covers the union.
-/

namespace ResourceAccounting
namespace Intervals

variable {α : Type*} [LinearOrder α]

/-- An open interval, given by its ends. -/
@[ext]
structure OpenInterval (α : Type*) [LT α] where
  lo : α
  hi : α
  lo_lt_hi : lo < hi
  deriving DecidableEq, Repr

namespace OpenInterval

def points (s : OpenInterval α) : Set α :=
  Set.Ioo s.lo s.hi

instance (s : OpenInterval α) (t : α) : Decidable (t ∈ s.points) :=
  inferInstanceAs (Decidable (s.lo < t ∧ t < s.hi))

/-- Neither of the two intervals lies behind the other. -/
def Meets (s r : OpenInterval α) : Prop :=
  r.lo < s.hi ∧ s.lo < r.hi

instance (s r : OpenInterval α) : Decidable (s.Meets r) :=
  inferInstanceAs (Decidable (_ ∧ _))

/-- The least interval that holds both. -/
def hull (s r : OpenInterval α) : OpenInterval α where
  lo := min s.lo r.lo
  hi := max s.hi r.hi
  lo_lt_hi := (min_le_left _ _).trans_lt (s.lo_lt_hi.trans_le (le_max_left _ _))

theorem points_hull {s r : OpenInterval α} (h : s.Meets r) :
    (s.hull r).points = s.points ∪ r.points :=
  (Set.Ioo_union_Ioo' h.1 h.2).symm

theorem points_subset_hull (s r : OpenInterval α) : s.points ⊆ (s.hull r).points :=
  Set.Ioo_subset_Ioo (min_le_left _ _) (le_max_left _ _)

theorem points_right_subset_hull (s r : OpenInterval α) : r.points ⊆ (s.hull r).points :=
  Set.Ioo_subset_Ioo (min_le_right _ _) (le_max_right _ _)

end OpenInterval

/-! ## The covered set -/

/-- The points that some interval of the list holds. -/
def cover (l : List (OpenInterval α)) : Set α :=
  {t | ∃ s ∈ l, t ∈ s.points}

theorem mem_cover {l : List (OpenInterval α)} {t : α} : t ∈ cover l ↔ ∃ s ∈ l, t ∈ s.points :=
  Iff.rfl

instance (l : List (OpenInterval α)) (t : α) : Decidable (t ∈ cover l) :=
  inferInstanceAs (Decidable (∃ s ∈ l, t ∈ s.points))

@[simp]
theorem cover_nil : cover ([] : List (OpenInterval α)) = ∅ := by
  ext t
  simp [mem_cover]

@[simp]
theorem cover_cons (s : OpenInterval α) (l : List (OpenInterval α)) :
    cover (s :: l) = s.points ∪ cover l := by
  ext t
  simp [mem_cover]

@[simp]
theorem cover_append (l m : List (OpenInterval α)) : cover (l ++ m) = cover l ∪ cover m := by
  ext t
  simp [mem_cover, or_and_right, exists_or]

theorem points_subset_cover {s : OpenInterval α} {l : List (OpenInterval α)} (hs : s ∈ l) :
    s.points ⊆ cover l :=
  fun _ ht => ⟨s, hs, ht⟩

/-- The order of the list and repetitions in it do not show. -/
theorem cover_congr {l m : List (OpenInterval α)} (h : ∀ s, s ∈ l ↔ s ∈ m) : cover l = cover m := by
  ext t
  simp [mem_cover, h]

/-! ## Absorbing an interval -/

/-- Grow every interval of the list that meets `r`. -/
def growAll (l : List (OpenInterval α)) (r : OpenInterval α) : List (OpenInterval α) :=
  l.map (fun s => if s.Meets r then s.hull r else s)

/-- Let the list absorb `r`. -/
def absorb (l : List (OpenInterval α)) (r : OpenInterval α) : List (OpenInterval α) :=
  if ∃ s ∈ l, s.Meets r then growAll l r else l ++ [r]

theorem cover_growAll_subset (l : List (OpenInterval α)) (r : OpenInterval α) :
    cover (growAll l r) ⊆ cover l ∪ r.points := by
  rintro t ⟨s, hs, ht⟩
  rcases List.mem_map.1 hs with ⟨s, hsl, rfl⟩
  by_cases hmeets : s.Meets r
  · rw [if_pos hmeets, OpenInterval.points_hull hmeets] at ht
    exact ht.imp_left (fun ht => points_subset_cover hsl ht)
  · rw [if_neg hmeets] at ht
    exact Or.inl (points_subset_cover hsl ht)

theorem subset_cover_growAll (l : List (OpenInterval α)) (r : OpenInterval α) :
    cover l ⊆ cover (growAll l r) := by
  rintro t ⟨s, hs, ht⟩
  refine ⟨_, List.mem_map.2 ⟨s, hs, rfl⟩, ?_⟩
  split
  · exact s.points_subset_hull r ht
  · exact ht

/-- One interval that meets `r` is enough to take all of `r` in. -/
theorem points_subset_cover_growAll {l : List (OpenInterval α)} {r s : OpenInterval α} (hs : s ∈ l)
    (hmeets : s.Meets r) : r.points ⊆ cover (growAll l r) := by
  intro t ht
  refine ⟨s.hull r, List.mem_map.2 ⟨s, hs, if_pos hmeets⟩, ?_⟩
  rw [OpenInterval.points_hull hmeets]
  exact Or.inr ht

theorem cover_absorb (l : List (OpenInterval α)) (r : OpenInterval α) :
    cover (absorb l r) = cover l ∪ r.points := by
  unfold absorb
  split
  · rename_i hex
    rcases hex with ⟨s, hs, hmeets⟩
    -- growing never gives a point up, and adds only points of `r`
    apply Set.Subset.antisymm (cover_growAll_subset l r)
    exact Set.union_subset (subset_cover_growAll l r) (points_subset_cover_growAll hs hmeets)
  · simp

/-- In whatever order the intervals come, the list covers their union. -/
theorem cover_foldl_absorb (rs l : List (OpenInterval α)) :
    cover (rs.foldl absorb l) = cover l ∪ cover rs := by
  induction rs generalizing l with
  | nil => simp
  | cons r rs ih =>
      -- the list itself depends on the order, its cover is the invariant
      calc
        cover ((r :: rs).foldl absorb l) = cover (absorb l r) ∪ cover rs := ih _
        _ = (cover l ∪ r.points) ∪ cover rs := by rw [cover_absorb]
        _ = cover l ∪ cover (r :: rs) := by rw [cover_cons, Set.union_assoc]

end Intervals
end ResourceAccounting
