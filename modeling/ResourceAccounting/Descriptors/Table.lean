import Mathlib.Data.List.AList
import Mathlib.Data.Finset.Card

/-!
# Table — the open descriptors of a process

A table maps the descriptor numbers in use to what they refer to.  A call that opens a descriptor
(`open`, `socket`, `accept`) takes the lowest number that is not in use.

- `lowestFree` — the number that the next such call returns;
- `allocate`, `close` — the table after it and after `close`;
- `count` — how many descriptors refer to things of one kind.
-/

namespace ResourceAccounting
namespace Descriptors

/-- What each open descriptor refers to. -/
abbrev Table (ω : Type*) := AList (fun _ : Nat => ω)

namespace Table

variable {ω : Type*} (t : Table ω)

/-- The lowest number that is not in use. -/
def lowestFree : Nat :=
  ((List.range (t.entries.length + 1)).find? (fun fd => decide (fd ∉ t))).getD 0

/-- Open a descriptor. -/
def allocate (o : ω) : Table ω :=
  t.insert t.lowestFree o

/-- Close a descriptor. -/
def close (fd : Nat) : Table ω :=
  t.erase fd

/-- The number of open descriptors that refer to a thing of kind `p`. -/
def count (p : ω → Bool) : Nat :=
  t.entries.countP (fun e => p e.2)

/-! ## The next number -/

/-- `n` descriptors cannot use all the numbers from 0 to `n`. -/
theorem exists_free : ∃ fd, fd ≤ t.entries.length ∧ fd ∉ t := by
  have hcard : t.keys.toFinset.card < (Finset.range (t.entries.length + 1)).card := by
    calc
      t.keys.toFinset.card ≤ t.keys.length := List.toFinset_card_le _
      _ = t.entries.length := List.length_map _
      _ < (Finset.range (t.entries.length + 1)).card := by simp
  rcases Finset.exists_mem_notMem_of_card_lt_card hcard with ⟨fd, hfd, hfree⟩
  refine ⟨fd, Nat.lt_succ_iff.1 (Finset.mem_range.1 hfd), fun hmem => hfree ?_⟩
  exact List.mem_toFinset.2 (AList.mem_keys.1 hmem)

theorem lowestFree_spec :
    t.lowestFree ∉ t ∧ t.lowestFree ≤ t.entries.length ∧ ∀ fd < t.lowestFree, fd ∈ t := by
  cases hfind : (List.range (t.entries.length + 1)).find? (fun fd => decide (fd ∉ t)) with
  | none =>
      -- the search covers a free number
      rcases t.exists_free with ⟨fd, hle, hfree⟩
      have hused := List.find?_eq_none.1 hfind fd (List.mem_range.2 (Nat.lt_succ_iff.2 hle))
      exact absurd (by simpa using hused) hfree
  | some fd =>
      have hlowest : t.lowestFree = fd := by
        simp only [lowestFree, hfind, Option.getD_some]
      rcases List.find?_range_eq_some.1 hfind with ⟨hfree, hmem, hbelow⟩
      rw [hlowest]
      exact ⟨by simpa using hfree, Nat.lt_succ_iff.1 (List.mem_range.1 hmem),
        fun j hj => by simpa using hbelow j hj⟩

theorem lowestFree_notMem : t.lowestFree ∉ t :=
  t.lowestFree_spec.1

theorem lowestFree_le_length : t.lowestFree ≤ t.entries.length :=
  t.lowestFree_spec.2.1

variable {t}

/-- No free number lies below the next one. -/
theorem lowestFree_le_of_notMem {fd : Nat} (hfree : fd ∉ t) : t.lowestFree ≤ fd := by
  by_contra hlt
  exact hfree (t.lowestFree_spec.2.2 fd (not_le.1 hlt))

theorem lowestFree_lt_iff {n : Nat} : t.lowestFree < n ↔ ∃ fd < n, fd ∉ t := by
  constructor
  · intro hlt
    exact ⟨t.lowestFree, hlt, t.lowestFree_notMem⟩
  · rintro ⟨fd, hlt, hfree⟩
    exact (lowestFree_le_of_notMem hfree).trans_lt hlt

theorem ne_lowestFree {fd : Nat} {o : ω} (hfd : t.lookup fd = some o) : fd ≠ t.lowestFree := by
  rintro rfl
  exact t.lowestFree_notMem (AList.lookup_isSome.1 (by rw [hfd]; rfl))

/-! ## Opening and closing -/

@[simp]
theorem lookup_allocate (o : ω) : (t.allocate o).lookup t.lowestFree = some o :=
  AList.lookup_insert t

/-- Opening leaves every other descriptor as it is. -/
theorem lookup_allocate_of_lookup {fd : Nat} {o : ω} (o' : ω) (hfd : t.lookup fd = some o) :
    (t.allocate o').lookup fd = some o := by
  rw [allocate, AList.lookup_insert_ne (ne_lowestFree hfd), hfd]

theorem lookup_of_lookup_allocate {fd : Nat} {o o' : ω} (hfd : (t.allocate o').lookup fd = some o) :
    o = o' ∨ t.lookup fd = some o := by
  by_cases hnew : fd = t.lowestFree
  · left
    rw [hnew, lookup_allocate] at hfd
    exact (Option.some.inj hfd).symm
  · right
    rwa [allocate, AList.lookup_insert_ne hnew] at hfd

theorem count_allocate (p : ω → Bool) (o : ω) :
    (t.allocate o).count p = t.count p + if p o then 1 else 0 := by
  rw [allocate, count, AList.entries_insert_of_notMem t.lowestFree_notMem, List.countP_cons, count]

theorem lookup_close_of_lookup {fd fd' : Nat} {o : ω} (hne : fd ≠ fd') (hfd : t.lookup fd = some o) :
    (t.close fd').lookup fd = some o := by
  rw [close, AList.lookup_erase_ne hne, hfd]

theorem lookup_of_lookup_close {fd fd' : Nat} {o : ω} (hfd : (t.close fd').lookup fd = some o) :
    t.lookup fd = some o := by
  by_cases hclosed : fd = fd'
  · rw [close, hclosed, AList.lookup_erase] at hfd
    cases hfd
  · rwa [close, AList.lookup_erase_ne hclosed] at hfd

theorem count_close (p : ω → Bool) {fd : Nat} {o : ω} (hfd : t.lookup fd = some o) :
    (t.close fd).count p + (if p o then 1 else 0) = t.count p := by
  have hmem : (⟨fd, o⟩ : Sigma fun _ : Nat => ω) ∈ t.entries := AList.mem_lookup_iff.1 hfd
  rcases List.exists_of_kerase (List.mem_keys_of_mem hmem) with ⟨o', before, after, -, hsplit, herase⟩
  -- the entry that is removed is the one that `lookup` finds
  have ho : o' = o :=
    t.nodupKeys.eq_of_mk_mem (by rw [hsplit]; simp) hmem
  have hrest : (t.close fd).entries = before ++ after := herase
  rw [count, count, hrest, hsplit, ho, List.countP_append, List.countP_append, List.countP_cons,
    Nat.add_assoc]

/-- Every descriptor is of the kind `p` or not. -/
theorem count_add_count_not (p : ω → Bool) :
    t.count p + t.count (fun o => !p o) = t.entries.length := by
  rw [List.length_eq_countP_add_countP (fun e : Sigma fun _ : Nat => ω => p e.2)]
  simp [count]

end Table

end Descriptors
end ResourceAccounting
