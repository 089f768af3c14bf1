import Mathlib.Data.List.Basic

/-!
# Memory — blocks of bytes and the accesses that go wrong

Every buffer is a block of its own, and every access of it is checked: an index outside the block, a
byte that has never been written and a null pointer each end the computation with a `Fault`.

- `load`, `store` — one byte;
- `storeAll` — bytes one after the other, as `sprintf`, `bzero` and `strcpy` write them;
- `loadString` — the bytes up to the terminator, as `strlen` and `strcpy` read them;
- `storeAll_of_le`, `storeAll_of_lt` — what is stored, or where that fails.
-/

namespace ResourceAccounting
namespace C

inductive Fault
  | outOfRange (size : Nat) (index : Int)
  | uninitialised
  | null
  deriving DecidableEq, Repr

/-- The bytes of a block; `none` for a byte that has not been written. -/
abbrev Block := List (Option UInt8)

/-- A fresh block. -/
def malloc (size : Nat) : Block :=
  List.replicate size none

/-- `*p` of a pointer that may be null. -/
def deref {α : Type*} : Option α → Except Fault α
  | some a => .ok a
  | none => .error .null

/-- `b[i]` -/
def load (b : Block) (i : Nat) : Except Fault UInt8 :=
  match b[i]? with
  | some (some v) => .ok v
  | some none => .error .uninitialised
  | none => .error (.outOfRange b.length i)

/-- `b[i] = v` -/
def store (b : Block) (i : Int) (v : UInt8) : Except Fault Block :=
  if 0 ≤ i ∧ i < b.length then .ok (b.set i.toNat (some v)) else .error (.outOfRange b.length i)

/-- `b[i] = v₀; b[i + 1] = v₁; …` -/
def storeAll (b : Block) (i : Nat) : List UInt8 → Except Fault Block
  | [] => .ok b
  | v :: vs => do
      let b ← store b i v
      storeAll b (i + 1) vs

/-- The bytes of the string that starts with the block. -/
def loadString (b : Block) : Except Fault (List UInt8) :=
  scan b.length b
where
  /-- `size` is that of the whole block. -/
  scan (size : Nat) : Block → Except Fault (List UInt8)
    | [] => .error (.outOfRange size size)
    | none :: _ => .error .uninitialised
    | some v :: rest =>
        if v = 0 then .ok [] else (scan size rest).map (fun vs => v :: vs)

/-- `strcpy(dst, src)` -/
def strcpy (dst src : Block) : Except Fault Block := do
  let vs ← loadString src
  storeAll dst 0 (vs ++ [0])

/-- `strlen(b)` -/
def strlen (b : Block) : Except Fault Nat :=
  (loadString b).map List.length

/-- `bzero(b, n)` -/
def bzero (b : Block) (n : Nat) : Except Fault Block :=
  storeAll b 0 (List.replicate n 0)

@[simp]
theorem ok_bind {ε α β : Type} (a : α) (f : α → Except ε β) :
    ((Except.ok a : Except ε α) >>= f) = f a :=
  rfl

@[simp]
theorem error_bind {ε α β : Type} (e : ε) (f : α → Except ε β) :
    ((Except.error e : Except ε α) >>= f) = .error e :=
  rfl

/-! ## Stores -/

theorem length_malloc (size : Nat) : (malloc size).length = size :=
  List.length_replicate

theorem store_of_lt {b : Block} {i : Nat} (h : i < b.length) (v : UInt8) :
    store b i v = .ok (b.set i (some v)) := by
  simp [store, h]

theorem store_of_le {b : Block} {i : Nat} (h : b.length ≤ i) (v : UInt8) :
    store b i v = .error (.outOfRange b.length i) := by
  simp [store, h]

theorem store_of_neg {b : Block} {i : Int} (h : i < 0) (v : UInt8) :
    store b i v = .error (.outOfRange b.length i) :=
  if_neg fun hi => absurd hi.1 (Int.not_le.2 h)

theorem length_store {b b' : Block} {i : Int} {v : UInt8} (h : store b i v = .ok b') :
    b'.length = b.length := by
  unfold store at h
  split at h
  · cases h
    exact List.length_set
  · cases h

theorem length_storeAll {b b' : Block} {i : Nat} {vs : List UInt8} (h : storeAll b i vs = .ok b') :
    b'.length = b.length := by
  induction vs generalizing b i with
  | nil =>
      cases h
      rfl
  | cons v vs ih =>
      rw [storeAll] at h
      cases hstore : store b i v with
      | error fault =>
          rw [hstore] at h
          cases h
      | ok next =>
          rw [hstore] at h
          rw [ih h, length_store hstore]

theorem set_append_cons (front : Block) (v : UInt8) (old : Option UInt8) (rest : Block) :
    (front ++ old :: rest).set front.length (some v) = front ++ some v :: rest := by
  simp

/-- The bytes replace those that stand in their place. -/
theorem storeAll_append {vs : List UInt8} (front : Block) {old : Block} (rest : Block)
    (h : old.length = vs.length) :
    storeAll (front ++ (old ++ rest)) front.length vs =
      .ok (front ++ (vs.map some ++ rest)) := by
  induction vs generalizing front old with
  | nil =>
      rw [List.length_eq_zero_iff.1 h]
      rfl
  | cons v vs ih =>
      cases old with
      | nil => cases h
      | cons c old =>
          have hlt : front.length < (front ++ c :: (old ++ rest)).length := by simp
          have hrest := ih (front ++ [some v]) (Nat.succ.inj h)
          rw [storeAll, List.cons_append, store_of_lt hlt, set_append_cons]
          simpa using hrest

/-- As many bytes as the block holds, or less. -/
theorem storeAll_of_le {b : Block} {vs : List UInt8} (h : vs.length ≤ b.length) :
    storeAll b 0 vs = .ok (vs.map some ++ b.drop vs.length) := by
  have hstore := storeAll_append [] (b.drop vs.length) (List.length_take_of_le h)
  rwa [List.nil_append, List.nil_append, List.take_append_drop] at hstore

theorem exists_storeAll {b : Block} {vs : List UInt8} (h : vs.length ≤ b.length) :
    ∃ b', storeAll b 0 vs = .ok b' ∧ b'.length = b.length :=
  ⟨_, storeAll_of_le h, length_storeAll (storeAll_of_le h)⟩

/-- More bytes than the block holds: the first one behind it fails. -/
theorem storeAll_of_lt {b : Block} {i : Nat} {vs : List UInt8} (hi : i ≤ b.length)
    (h : b.length < i + vs.length) :
    storeAll b i vs = .error (.outOfRange b.length b.length) := by
  induction vs generalizing b i with
  | nil => exact absurd h (by simpa using hi)
  | cons v vs ih =>
      rw [List.length_cons] at h
      rcases Nat.lt_or_eq_of_le hi with hlt | heq
      · rw [storeAll, store_of_lt hlt]
        have hrest := ih (b := b.set i (some v)) (i := i + 1) (by rw [List.length_set]; omega)
          (by rw [List.length_set]; omega)
        simpa using hrest
      · rw [storeAll, store_of_le (Nat.le_of_eq heq.symm), heq]
        rfl

/-! ## Strings -/

theorem scan_map_append (size : Nat) {vs : List UInt8} (h : 0 ∉ vs) (rest : Block) :
    loadString.scan size (vs.map some ++ some 0 :: rest) = .ok vs := by
  induction vs with
  | nil => simp [loadString.scan]
  | cons v vs ih =>
      rw [List.mem_cons, not_or] at h
      simp [loadString.scan, ih h.2, Ne.symm h.1, Except.map]

/-- A string is read up to its terminator. -/
theorem loadString_map_append {vs : List UInt8} (h : 0 ∉ vs) (rest : Block) :
    loadString (vs.map some ++ some 0 :: rest) = .ok vs :=
  scan_map_append _ h rest

/-- A written block that holds a terminator holds a string, up to the first one. -/
theorem exists_loadString {vs : List UInt8} (h : 0 ∈ vs) (rest : Block) :
    ∃ s, loadString (vs.map some ++ rest) = .ok s ∧ s.length < vs.length ∧ 0 ∉ s := by
  rcases List.eq_append_cons_of_mem h with ⟨s, t, rfl, hs⟩
  refine ⟨s, ?_, by simp, hs⟩
  simpa using loadString_map_append hs (t.map some ++ rest)

/-- The copy of a string in a block that takes it and its terminator. -/
theorem strcpy_of_loadString {dst src : Block} {s : List UInt8} (hsrc : loadString src = .ok s)
    (hdst : s.length < dst.length) :
    strcpy dst src = .ok (s.map some ++ some 0 :: dst.drop (s.length + 1)) := by
  have hstore := @storeAll_of_le dst (s ++ [0]) (by simpa using Nat.succ_le_of_lt hdst)
  rw [strcpy, hsrc]
  simpa using hstore

end C
end ResourceAccounting
