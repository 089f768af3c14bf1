import Mathlib.Data.Finmap
import Mathlib.Algebra.BigOperators.Group.Finset.Basic

/-!
# Dict — dictionaries of a Python program that adds up amounts

A `dict` of amounts maps each key that occurs to an amount; the order in which a loop sees the keys
is not specified.  A key that is missing counts as 0:

- `value` — the amount of a key;
- `assign` — `d[k] = v`;
- `increase` — `try: d[k] += v` with `except: d[k] = v`;
- `total` — the sum of all amounts, and how the two change it.
-/

namespace ResourceAccounting
namespace Python

abbrev Dict (κ ν : Type*) := Finmap (fun _ : κ => ν)

namespace Dict

variable {κ ν : Type*} [DecidableEq κ]

/-- `d[k] = v` -/
def assign (d : Dict κ ν) (k : κ) (v : ν) : Dict κ ν :=
  Finmap.insert k v d

section Value

variable [Zero ν]

/-- The amount of a key, 0 if the key is missing. -/
def value (d : Dict κ ν) (k : κ) : ν :=
  (d.lookup k).getD 0

@[simp]
theorem value_empty (k : κ) : value (∅ : Dict κ ν) k = 0 := by
  simp [value]

theorem value_assign (d : Dict κ ν) (k k' : κ) (v : ν) :
    (d.assign k v).value k' = if k' = k then v else d.value k' := by
  by_cases h : k' = k
  · rw [if_pos h, h, value, assign, Finmap.lookup_insert, Option.getD_some]
  · rw [if_neg h, value, assign, Finmap.lookup_insert_of_ne d h, value]

theorem value_assign_of_ne (d : Dict κ ν) {k k' : κ} (v : ν) (h : k' ≠ k) :
    (d.assign k v).value k' = d.value k' := by
  rw [value_assign, if_neg h]

end Value

/-- `try: d[k] += v` with `except: d[k] = v` -/
def increase [Add ν] (d : Dict κ ν) (k : κ) (v : ν) : Dict κ ν :=
  match d.lookup k with
  | some old => d.assign k (old + v)
  | none => d.assign k v

section Increase

variable [AddZeroClass ν]

theorem increase_eq_assign (d : Dict κ ν) (k : κ) (v : ν) :
    d.increase k v = d.assign k (d.value k + v) := by
  unfold increase value
  cases d.lookup k with
  | none => simp
  | some old => rfl

theorem value_increase (d : Dict κ ν) (k k' : κ) (v : ν) :
    (d.increase k v).value k' = d.value k' + if k' = k then v else 0 := by
  rw [increase_eq_assign, value_assign]
  by_cases h : k' = k
  · rw [if_pos h, if_pos h, h]
  · rw [if_neg h, if_neg h, add_zero]

@[simp]
theorem value_increase_self (d : Dict κ ν) (k : κ) (v : ν) :
    (d.increase k v).value k = d.value k + v := by
  rw [value_increase, if_pos rfl]

end Increase

/-! ## The sum of the amounts -/

variable [AddCommMonoid ν]

/-- The sum of the amounts. -/
def total (d : Dict κ ν) : ν :=
  (d.entries.map Sigma.snd).sum

omit [DecidableEq κ] in
@[simp]
theorem total_empty : total (∅ : Dict κ ν) = 0 :=
  rfl

/-- An assignment makes `v` the share of the key, whatever it was. -/
theorem total_assign (d : Dict κ ν) (k : κ) (v : ν) :
    (d.assign k v).total = v + total (d.erase k) := by
  have herase : k ∉ d.erase k := Finmap.notMem_erase_self
  have hassign : d.assign k v = Finmap.insert k v (d.erase k) := by
    refine Finmap.ext_lookup fun k' => ?_
    by_cases h : k' = k
    · rw [h, assign, Finmap.lookup_insert, Finmap.lookup_insert]
    · rw [assign, Finmap.lookup_insert_of_ne _ h, Finmap.lookup_insert_of_ne _ h,
        Finmap.lookup_erase_ne h]
  rw [hassign, total, Finmap.entries_insert_of_notMem herase]
  simp [total]

/-- The share of a key in the sum is its amount. -/
theorem value_add_total_erase (d : Dict κ ν) (k : κ) :
    d.value k + total (d.erase k) = d.total := by
  cases hk : d.lookup k with
  | none =>
      have hsame : d.erase k = d := by
        refine Finmap.ext_lookup fun k' => ?_
        by_cases h : k' = k
        · rw [h, Finmap.lookup_erase, hk]
        · rw [Finmap.lookup_erase_ne h]
      rw [hsame, value, hk, Option.getD_none, zero_add]
  | some old =>
      have hsame : d.assign k old = d := by
        refine Finmap.ext_lookup fun k' => ?_
        by_cases h : k' = k
        · rw [h, assign, Finmap.lookup_insert, hk]
        · rw [assign, Finmap.lookup_insert_of_ne _ h]
      calc
        d.value k + total (d.erase k) = old + total (d.erase k) := by rw [value, hk, Option.getD_some]
        _ = d.total := by rw [← total_assign, hsame]

/-- What is assigned comes in for the amount that was there. -/
theorem total_assign_add (d : Dict κ ν) (k : κ) (v : ν) :
    (d.assign k v).total + d.value k = d.total + v := by
  rw [total_assign, ← value_add_total_erase d k, add_right_comm, add_comm v, add_right_comm]

@[simp]
theorem total_increase (d : Dict κ ν) (k : κ) (v : ν) : (d.increase k v).total = d.total + v := by
  rw [increase_eq_assign, total_assign, ← value_add_total_erase d k, add_right_comm]

end Dict

end Python
end ResourceAccounting
