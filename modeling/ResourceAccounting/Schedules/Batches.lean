import Mathlib.Data.List.Perm.Basic
import Mathlib.Data.List.Sort

/-!
# Batches — a sequence cut into batches and written batch by batch

`f i` is the content of batch `i`.  Writing the batches of a list `l` of batch numbers one after
the other gives `l.flatMap f`.  When no item occurs twice, the written sequence determines the
order of the non-empty batches.
-/

namespace ResourceAccounting
namespace Schedules

variable {ι α : Type*}

theorem flatMap_filter_ne_nil (f : ι → List α) (l : List ι) :
    (l.filter (fun i => !(f i).isEmpty)).flatMap f = l.flatMap f := by
  induction l with
  | nil => rfl
  | cons i l ih =>
      by_cases hi : f i = []
      · simp [hi, ih]
      · simp [hi, ih]

/-- Two orders of the same non-empty batches that write the same sequence of distinct items are
the same order. -/
theorem eq_of_flatMap_eq (f : ι → List α) :
    ∀ {l m : List ι}, l.Perm m → (∀ i ∈ l, f i ≠ []) → (m.flatMap f).Nodup →
      l.flatMap f = m.flatMap f → l = m := by
  intro l
  induction l with
  | nil =>
      intro m hperm _ _ _
      exact (List.nil_perm.1 hperm).symm
  | cons i l ih =>
      intro m hperm hne hnodup heq
      cases m with
      | nil => exact absurd hperm.symm (by simp)
      | cons j m =>
          rcases List.exists_cons_of_ne_nil (hne i List.mem_cons_self) with ⟨x, xs, hx⟩
          have hj : f j ≠ [] := hne j (hperm.symm.subset List.mem_cons_self)
          rcases List.exists_cons_of_ne_nil hj with ⟨y, ys, hy⟩
          -- both sequences start with the same item, which lies in one batch only
          have hxy : x = y := by
            simp only [List.flatMap_cons, hx, hy, List.cons_append] at heq
            exact (List.cons.inj heq).1
          have hij : i = j := by
            by_contra hij
            have hmem : i ∈ m := by
              rcases List.mem_cons.1 (hperm.subset List.mem_cons_self) with h | h
              · exact absurd h hij
              · exact h
            have hdisj := (List.nodup_append.1 (by simpa using hnodup)).2.2
            refine hdisj y (by rw [hy]; exact List.mem_cons_self) x ?_ hxy.symm
            exact List.mem_flatMap.2 ⟨i, hmem, by rw [hx]; exact List.mem_cons_self⟩
          subst hij
          -- behind the first batch the same argument goes on
          have hrest : l.flatMap f = m.flatMap f := by
            simpa using heq
          have hnodup' : (m.flatMap f).Nodup :=
            (List.nodup_append.1 (by simpa using hnodup)).2.1
          rw [ih ((List.perm_cons i).1 hperm) (fun k hk => hne k (List.mem_cons_of_mem i hk)) hnodup'
            hrest]

/-- Batches written in increasing order are the batches in the order of their numbers. -/
theorem flatMap_eq_range_of_sorted (f : Nat → List α) {l : List Nat} {n : Nat}
    (hperm : l.Perm (List.range n))
    (hsorted : (l.filter (fun i => !(f i).isEmpty)).Pairwise (· < ·)) :
    l.flatMap f = (List.range n).flatMap f := by
  have hrange : ((List.range n).filter (fun i => !(f i).isEmpty)).Pairwise (· < ·) :=
    List.Pairwise.filter _ List.pairwise_lt_range
  have heq : l.filter (fun i => !(f i).isEmpty) = (List.range n).filter (fun i => !(f i).isEmpty) :=
    (hperm.filter _).eq_of_pairwise (fun a b _ _ hab hba => absurd (hab.trans hba) (lt_irrefl a))
      hsorted hrange
  rw [← flatMap_filter_ne_nil f l, heq, flatMap_filter_ne_nil]

/-- The converse, for distinct items. -/
theorem sorted_of_flatMap_eq_range (f : Nat → List α) {l : List Nat} {n : Nat}
    (hperm : l.Perm (List.range n)) (hnodup : ((List.range n).flatMap f).Nodup)
    (heq : l.flatMap f = (List.range n).flatMap f) :
    (l.filter (fun i => !(f i).isEmpty)).Pairwise (· < ·) := by
  have hfilter : l.filter (fun i => !(f i).isEmpty) = (List.range n).filter (fun i => !(f i).isEmpty) := by
    refine eq_of_flatMap_eq f (hperm.filter _) ?_ ?_ ?_
    · intro i hi
      simpa using (List.mem_filter.1 hi).2
    · rw [flatMap_filter_ne_nil]
      exact hnodup
    · rw [flatMap_filter_ne_nil, flatMap_filter_ne_nil]
      exact heq
  rw [hfilter]
  exact List.Pairwise.filter _ List.pairwise_lt_range

end Schedules
end ResourceAccounting
