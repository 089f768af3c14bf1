import ResourceAccounting.Python.Rounding

/-!
# Double — the floats of a Python program

`Double` has the floats that rounding keeps, so that the value of every operation is the one that a
program gets.  The module gives the operations and the order, and of the laws of arithmetic those
that rounding leaves:

- `add_le_add_right`, `add_nonneg`, `le_add_of_nonneg` — sums of what is not negative;
- `sub_nonneg`, `sub_one_nonneg_iff`, `sub_one_le_one_iff` — differences;
- `floor_mono`, `floor_add_one` — `math.floor`, which is a float in Python 2, and the number after it,
  which can be the same: from `2 ^ 53` on adding one changes nothing.
-/

namespace ResourceAccounting
namespace Python

/-- A value that rounding keeps. -/
structure Double where
  val : PyFloat
  round_val : val.round = val
  deriving DecidableEq

namespace Double

/-- What an operation gives whose exact value is `x`. -/
def ofPy (x : PyFloat) : Double where
  val := x.round
  round_val := x.round_round

instance : NatCast Double where
  natCast n := ofPy (.finite n)

instance : Zero Double where
  zero := ((0 : Nat) : Double)

instance : One Double where
  one := ((1 : Nat) : Double)

instance : Add Double where
  add x y := ofPy (x.val.add y.val)

instance : Sub Double where
  sub x y := ofPy (x.val.sub y.val)

/-- `x / y`; none for a `ZeroDivisionError`. -/
def div? (x y : Double) : Option Double :=
  match x.val, y.val with
  | _, .finite q => if q = 0 then none else some (ofPy (x.val.mul (.finite q⁻¹)))
  | .finite _, .inf _ => some 0
  | _, _ => some (ofPy .nan)

/-- `math.floor(x)` -/
def floor (x : Double) : Double where
  val := x.val.floor
  round_val := PyFloat.round_floor x.round_val

instance : LE Double where
  le x y := x.val.le y.val

instance : LT Double where
  lt x y := x.val.lt y.val

instance : DecidableLE Double :=
  fun x y => inferInstanceAs (Decidable (x.val.le y.val))

instance : DecidableLT Double :=
  fun x y => inferInstanceAs (Decidable (x.val.lt y.val))

/-- The value is not `nan`. -/
def IsNumber (x : Double) : Prop :=
  x.val ≠ .nan

instance (x : Double) : Decidable x.IsNumber :=
  inferInstanceAs (Decidable (_ ≠ _))

@[ext]
theorem ext {x y : Double} (h : x.val = y.val) : x = y := by
  cases x
  cases y
  cases h
  rfl

@[simp]
theorem val_ofPy (x : PyFloat) : (ofPy x).val = x.round :=
  rfl

theorem val_add (x y : Double) : (x + y).val = (x.val.add y.val).round :=
  rfl

theorem val_sub (x y : Double) : (x - y).val = (x.val.sub y.val).round :=
  rfl

@[simp]
theorem val_zero : (0 : Double).val = .finite 0 :=
  (PyFloat.round_natCast (n := 0) (by decide)).trans (by rw [Nat.cast_zero])

@[simp]
theorem val_one : (1 : Double).val = .finite 1 :=
  (PyFloat.round_natCast (n := 1) (by decide)).trans (by rw [Nat.cast_one])

@[simp]
theorem val_two : (2 : Double).val = .finite 2 :=
  (PyFloat.round_natCast (n := 2) (by decide)).trans (by rw [Nat.cast_ofNat])

/-! ## The order -/

variable {x y z : Double}

theorem isNumber_of_le (h : x ≤ y) : x.IsNumber ∧ y.IsNumber :=
  PyFloat.ne_nan_of_le h

protected theorem le_refl_of_isNumber (hx : x.IsNumber) : x ≤ x :=
  PyFloat.le_refl_of_ne hx

protected theorem le_of_lt (h : x < y) : x ≤ y :=
  PyFloat.le_of_lt h

protected theorem le_trans (hxy : x ≤ y) (hyz : y ≤ z) : x ≤ z :=
  PyFloat.le_trans hxy hyz

protected theorem le_antisymm (hxy : x ≤ y) (hyx : y ≤ x) : x = y :=
  Double.ext (PyFloat.le_antisymm hxy hyx)

protected theorem not_lt_of_le (h : x ≤ y) : ¬ y < x :=
  PyFloat.not_lt_of_le h

protected theorem lt_of_le_of_lt (hxy : x ≤ y) (hyz : y < z) : x < z := by
  have hx := (PyFloat.ne_nan_of_le hxy).1
  have hz := (PyFloat.ne_nan_of_le (PyFloat.le_of_lt hyz)).2
  refine (PyFloat.le_or_lt hz hx).resolve_left fun hle => ?_
  exact PyFloat.not_lt_of_le (PyFloat.le_trans hle hxy) hyz

protected theorem ne_of_lt (h : x < y) : x ≠ y := by
  rintro rfl
  exact PyFloat.not_lt_of_le (PyFloat.le_of_lt h) h

protected theorem le_or_lt (hx : x.IsNumber) (hy : y.IsNumber) : x ≤ y ∨ y < x :=
  PyFloat.le_or_lt hx hy

theorem zero_le_zero : (0 : Double) ≤ 0 := by
  decide +kernel

theorem zero_le_one : (0 : Double) ≤ 1 := by
  decide +kernel

/-- Operations whose exact values are in order have their values in order. -/
theorem ofPy_le_ofPy {x y : PyFloat} (h : x.le y) : ofPy x ≤ ofPy y :=
  PyFloat.round_le_round h

theorem ofPy_val (x : Double) : ofPy x.val = x :=
  Double.ext x.round_val

/-! ## Sums -/

theorem add_comm (x y : Double) : x + y = y + x := by
  refine Double.ext ?_
  rw [val_add, val_add]
  congr 1
  cases x.val <;> cases y.val <;> grind [PyFloat.add]

instance : AddZeroClass Double where
  zero_add x := by
    refine Double.ext ?_
    rw [val_add, val_zero]
    have hexact : (PyFloat.finite 0).add x.val = x.val := by
      cases x.val <;> simp [PyFloat.add]
    rw [hexact, x.round_val]
  add_zero x := by
    refine Double.ext ?_
    rw [val_add, val_zero]
    have hexact : x.val.add (PyFloat.finite 0) = x.val := by
      cases x.val <;> simp [PyFloat.add]
    rw [hexact, x.round_val]

theorem add_le_add_right (h : x ≤ y) (hx : 0 ≤ x) (hz : 0 ≤ z) : x + z ≤ y + z := by
  refine ofPy_le_ofPy ?_
  change x.val.le y.val at h
  change (0 : Double).val.le x.val at hx
  change (0 : Double).val.le z.val at hz
  rw [val_zero] at hx hz
  revert h hx hz
  cases x.val <;> cases y.val <;> cases z.val <;> grind [PyFloat.le, PyFloat.add]

theorem le_add_of_nonneg (hx : 0 ≤ x) (hy : 0 ≤ y) : y ≤ x + y := by
  have hle := add_le_add_right hx (Double.le_refl_of_isNumber (isNumber_of_le hx).1) hy
  rwa [zero_add] at hle

theorem add_nonneg (hx : 0 ≤ x) (hy : 0 ≤ y) : 0 ≤ x + y :=
  Double.le_trans hy (le_add_of_nonneg hx hy)

theorem add_not_isNumber (hy : ¬ y.IsNumber) : ¬ (x + y).IsNumber := by
  rw [IsNumber, not_not] at hy
  rw [IsNumber, not_not, val_add, hy]
  cases x.val <;> rfl

/-! ## Differences -/

theorem sub_nonneg (h : x ≤ y) (hnumber : (y - x).IsNumber) : 0 ≤ y - x := by
  have hexact : (PyFloat.finite 0).le (y.val.sub x.val) ∨ y.val.sub x.val = .nan := by
    change x.val.le y.val at h
    revert h
    cases x.val <;> cases y.val <;> grind [PyFloat.le, PyFloat.sub, PyFloat.add, PyFloat.neg]
  rcases hexact with hle | hnan
  · have hround := PyFloat.round_le_round hle
    rwa [← val_zero, (0 : Double).round_val] at hround
  · refine absurd ?_ hnumber
    rw [val_sub, hnan]
    rfl

/-- A number is one at least if it is not negative without one. -/
theorem sub_one_nonneg_iff : 0 ≤ x - 1 ↔ 1 ≤ x := by
  have hiff := PyFloat.zero_le_round_sub_one_iff x.round_val
  rwa [← val_zero, ← val_one, ← val_sub] at hiff

theorem sub_one_le_one_iff : x - 1 ≤ 1 ↔ x ≤ 2 := by
  have hiff := PyFloat.round_sub_one_le_one_iff x.round_val
  rwa [← val_two, ← val_one, ← val_sub] at hiff

/-! ## Quotients -/

theorem exists_val_eq_finite (h0 : 0 ≤ x) (h1 : x ≤ 1) : ∃ q, x.val = .finite q ∧ 0 ≤ q ∧ q ≤ 1 := by
  change (0 : Double).val.le x.val at h0
  change x.val.le (1 : Double).val at h1
  rw [val_zero] at h0
  rw [val_one] at h1
  cases hval : x.val with
  | finite q =>
      rw [hval] at h0 h1
      exact ⟨q, rfl, h0, h1⟩
  | inf negative =>
      rw [hval] at h0 h1
      exact absurd (h0.symm.trans h1) (by decide)
  | nan =>
      rw [hval] at h1
      exact h1.elim

/-- A quotient is between 0 and 1 where the dividend is between 0 and the divisor. -/
theorem div?_mem (hx : 0 ≤ x) (hxy : x ≤ y) (hy : y ≤ 1) :
    0 ≤ (x.div? y).getD 0 ∧ (x.div? y).getD 0 ≤ 1 := by
  rcases exists_val_eq_finite hx (Double.le_trans hxy hy) with ⟨p, hp, hp0, -⟩
  rcases exists_val_eq_finite (Double.le_trans hx hxy) hy with ⟨q, hq, hq0, -⟩
  have hpq : p ≤ q := by
    change x.val.le y.val at hxy
    rwa [hp, hq] at hxy
  have hdiv : x.div? y = if q = 0 then none else some (ofPy (.finite (p * q⁻¹))) := by
    rw [div?, hp, hq]
    rfl
  rw [hdiv]
  split
  · exact ⟨zero_le_zero, zero_le_one⟩
  · rw [Option.getD_some, ← ofPy_val 0, ← ofPy_val 1, val_zero, val_one]
    have hnonneg : 0 ≤ p * q⁻¹ := mul_nonneg hp0 (inv_nonneg.2 hq0)
    have hle : p * q⁻¹ ≤ 1 := by
      rw [← div_eq_mul_inv]
      exact div_le_one_of_le₀ hpq hq0
    exact ⟨ofPy_le_ofPy hnonneg, ofPy_le_ofPy hle⟩

/-! ## Slots of one -/

theorem floor_mono (h : x ≤ y) : x.floor ≤ y.floor := by
  change x.val.le y.val at h
  change x.val.floor.le y.val.floor
  revert h
  cases x.val <;> cases y.val <;> intro h <;> try exact h
  exact Int.cast_le.2 (Int.floor_le_floor h)

/-- The number after a floor is larger, if it is another one. -/
theorem floor_add_one (hx : x.IsNumber) : x.floor + 1 = x.floor ∨ x.floor < x.floor + 1 := by
  have hle : x.floor ≤ x.floor + 1 := by
    have hexact : x.floor.val.le (x.floor.val.add (.finite 1)) := by
      change x.val ≠ .nan at hx
      change x.val.floor.le (x.val.floor.add (.finite 1))
      revert hx
      cases x.val <;> grind [PyFloat.le, PyFloat.add, PyFloat.floor]
    have hround := ofPy_le_ofPy hexact
    rw [ofPy_val, ← val_one] at hround
    exact hround
  have hnumbers := isNumber_of_le hle
  rcases Double.le_or_lt hnumbers.2 hnumbers.1 with hge | hlt
  · exact Or.inl (Double.le_antisymm hge hle)
  · exact Or.inr hlt

/-- Where no other number comes after the floor, what is larger is larger by one at least. -/
theorem one_le_sub_of_floor_add_one (h : x ≤ y) (hsame : x.floor + 1 = x.floor)
    (hnumber : (y - x).IsNumber) : y - x = 0 ∨ 1 ≤ y - x := by
  have hsum : (x.val.floor.add (.finite 1)).round = x.val.floor := by
    have hval := congrArg val hsame
    rwa [val_add, val_one] at hval
  rcases PyFloat.one_le_round_sub x.round_val y.round_val h hsum with hzero | hone | hnan
  · refine Or.inl (Double.ext ?_)
    rw [val_sub, hzero, val_zero]
  · right
    rwa [← val_sub, ← val_one] at hone
  · exact absurd hnan hnumber

end Double

end Python
end ResourceAccounting
