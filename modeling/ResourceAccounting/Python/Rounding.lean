import Mathlib.Algebra.Order.Field.Power
import Mathlib.Data.Int.Log
import Mathlib.Tactic.Linarith
import Mathlib.Tactic.Positivity
import ResourceAccounting.Python.Number

/-!
# Rounding — the nearest number that a machine has for a float

A float is a binary fraction of 53 digits.  The result of an operation is the one that is nearest to
the exact result, and of two that are equally near the one whose last digit is even; from `2 ^ 1024` on
it is infinite.

- `roundDouble` — the nearest number, without a bound; it is monotone, `roundDouble_of_eq` gives
  numbers that it keeps, and `exists_eq_mul_zpow` says that it keeps no others;
- `PyFloat.round` — with the infinities.
-/

namespace ResourceAccounting
namespace Python

/-! ## The nearest integer -/

/-- The nearest integer is half a unit away at most. -/
theorem roundHalfEven_bounds {q : ℚ} (hq : 0 ≤ q) :
    q ≤ roundHalfEven q + 1 / 2 ∧ (roundHalfEven q : ℚ) ≤ q + 1 / 2 := by
  have hden : 0 < q.den := q.den_pos
  have hdenq : (0 : ℚ) < q.den := by exact_mod_cast hden
  have hvalue : q * q.den = (q.num.toNat : ℚ) := by
    have hnum : ((q.num.toNat : Int) : ℚ) = q.num := by
      rw [Int.toNat_of_nonneg (Rat.num_nonneg.2 hq)]
    rw [Rat.mul_den_eq_num, ← hnum]
    rfl
  have hdivmod : q.den * (q.num.toNat / q.den) + q.num.toNat % q.den = q.num.toNat :=
    Nat.div_add_mod _ _
  have hrest : q.num.toNat % q.den < q.den := Nat.mod_lt _ hden
  -- twice the distance, in units of the denominator
  have hbounds : 2 * q.num.toNat ≤ (2 * roundHalfEven q + 1) * q.den ∧
      2 * roundHalfEven q * q.den ≤ 2 * q.num.toNat + q.den := by
    unfold roundHalfEven
    dsimp only
    generalize q.num.toNat / q.den = whole at hdivmod ⊢
    generalize q.num.toNat % q.den = rest at hdivmod hrest ⊢
    have hmul : (2 * whole + 1) * q.den = 2 * (q.den * whole) + q.den := by ring
    have hmul' : 2 * whole * q.den = 2 * (q.den * whole) := by ring
    have hmul₁ : (2 * (whole + 1) + 1) * q.den = 2 * (q.den * whole) + 3 * q.den := by ring
    have hmul₁' : 2 * (whole + 1) * q.den = 2 * (q.den * whole) + 2 * q.den := by ring
    split
    · rw [hmul, hmul']
      omega
    · split
      · rw [hmul₁, hmul₁']
        omega
      · split
        · rw [hmul, hmul']
          omega
        · rw [hmul₁, hmul₁']
          omega
  have hupper : (2 : ℚ) * q.num.toNat ≤ (2 * roundHalfEven q + 1) * q.den := by
    exact_mod_cast hbounds.1
  have hlower : (2 : ℚ) * roundHalfEven q * q.den ≤ 2 * q.num.toNat + q.den := by
    exact_mod_cast hbounds.2
  rw [← hvalue] at hupper hlower
  constructor
  · refine le_of_mul_le_mul_right ?_ hdenq
    linarith
  · refine le_of_mul_le_mul_right ?_ hdenq
    linarith

theorem roundHalfEven_mono {p q : ℚ} (hp : 0 ≤ p) (hpq : p ≤ q) : roundHalfEven p ≤ roundHalfEven q := by
  by_contra hlt
  have hsucc : (roundHalfEven q : ℚ) + 1 ≤ roundHalfEven p := by
    exact_mod_cast not_le.1 hlt
  have hupper := (roundHalfEven_bounds hp).2
  have hlower := (roundHalfEven_bounds (hp.trans hpq)).1
  -- no room is left between the two
  have heq : p = q := le_antisymm hpq (by linarith)
  rw [heq] at hlt
  exact hlt le_rfl

theorem le_roundHalfEven {n : Nat} {q : ℚ} (h : (n : ℚ) ≤ q) : n ≤ roundHalfEven q := by
  have hmono := roundHalfEven_mono (Nat.cast_nonneg n) h
  rwa [roundHalfEven_natCast] at hmono

theorem roundHalfEven_le {n : Nat} {q : ℚ} (hq : 0 ≤ q) (h : q ≤ n) : roundHalfEven q ≤ n := by
  have hmono := roundHalfEven_mono hq h
  rwa [roundHalfEven_natCast] at hmono

/-- A number less than half a unit away is the nearest one. -/
theorem roundHalfEven_eq {q : ℚ} {n : Nat} (hq : 0 ≤ q) (h : |q - n| < 1 / 2) : roundHalfEven q = n := by
  rcases roundHalfEven_bounds hq with ⟨hupper, hlower⟩
  rw [abs_lt] at h
  have hle : roundHalfEven q < n + 1 := by
    have hlt : (roundHalfEven q : ℚ) < n + 1 := by linarith
    exact_mod_cast hlt
  have hge : n < roundHalfEven q + 1 := by
    have hlt : (n : ℚ) < roundHalfEven q + 1 := by linarith
    exact_mod_cast hlt
  omega

/-! ## The nearest double -/

/-- The exponent of the last digit. -/
def lastExponent (q : ℚ) : Int :=
  max (Int.log 2 |q|) (-1022) - 52

/-- The distance between the doubles around a number. -/
def ulp (q : ℚ) : ℚ :=
  2 ^ lastExponent q

/-- The digits of the nearest double, as a number. -/
def mantissa (q : ℚ) : Nat :=
  roundHalfEven (|q| / ulp q)

/-- The nearest double, the even one of two, were there no bound. -/
def roundDouble (q : ℚ) : ℚ :=
  if q < 0 then -(mantissa q * ulp q) else mantissa q * ulp q

theorem ulp_pos (q : ℚ) : 0 < ulp q :=
  zpow_pos (by norm_num) _

theorem roundDouble_of_nonneg {q : ℚ} (hq : 0 ≤ q) : roundDouble q = mantissa q * ulp q :=
  if_neg (not_lt.2 hq)

theorem roundDouble_nonneg {q : ℚ} (hq : 0 ≤ q) : 0 ≤ roundDouble q := by
  rw [roundDouble_of_nonneg hq]
  exact mul_nonneg (Nat.cast_nonneg _) (ulp_pos q).le

@[simp]
theorem roundDouble_zero : roundDouble 0 = 0 := by
  have hmantissa : mantissa 0 = 0 := by
    rw [mantissa, abs_zero, zero_div]
    exact roundHalfEven_natCast 0
  rw [roundDouble_of_nonneg le_rfl, hmantissa, Nat.cast_zero, zero_mul]

/-- Rounding knows no sign. -/
theorem roundDouble_neg (q : ℚ) : roundDouble (-q) = -roundDouble q := by
  have hulp : ulp (-q) = ulp q := by rw [ulp, ulp, lastExponent, lastExponent, abs_neg]
  have hmantissa : mantissa (-q) = mantissa q := by rw [mantissa, mantissa, abs_neg, hulp]
  rcases lt_trichotomy q 0 with hq | rfl | hq
  · rw [roundDouble, if_neg (by linarith), roundDouble, if_pos hq, hmantissa, hulp, neg_neg]
  · simp
  · rw [roundDouble, if_pos (by linarith), roundDouble, if_neg (by linarith), hmantissa, hulp]

theorem two_zpow_add (a b : Int) : (2 : ℚ) ^ (a + b) = 2 ^ a * 2 ^ b :=
  zpow_add₀ (by norm_num) a b

theorem lt_two_pow_mul_ulp {q : ℚ} (hq : 0 < q) : q < 2 ^ 53 * ulp q := by
  have hlog := Int.lt_zpow_succ_log_self (b := 2) (by decide) q
  calc
    q < 2 ^ (Int.log 2 q + 1) := by exact_mod_cast hlog
    _ ≤ 2 ^ (53 + lastExponent q) := by
        refine zpow_le_zpow_right₀ (by norm_num) ?_
        rw [lastExponent, abs_of_pos hq]
        omega
    _ = 2 ^ 53 * ulp q := two_zpow_add 53 _

/-- A double has 53 digits; the number `2 ^ 53` comes from rounding up. -/
theorem mantissa_le {q : ℚ} (hq : 0 < q) : mantissa q ≤ 2 ^ 53 := by
  have hpos := ulp_pos q
  refine roundHalfEven_le (div_nonneg (abs_nonneg q) hpos.le) ?_
  rw [abs_of_pos hq, div_le_iff₀ hpos]
  exact_mod_cast (lt_two_pow_mul_ulp hq).le

/-- Numbers of 53 digits whose last digit is not below the smallest one are kept. -/
theorem roundDouble_of_eq {q : ℚ} {m : Nat} {e : Int} (hm : m < 2 ^ 53) (he : -1074 ≤ e)
    (hq : q = m * 2 ^ e) : roundDouble q = q := by
  have hpow : (0 : ℚ) < 2 ^ e := zpow_pos (by norm_num) e
  have hnonneg : 0 ≤ q := by
    rw [hq]
    exact mul_nonneg (Nat.cast_nonneg m) hpow.le
  rcases hnonneg.eq_or_lt with hzero | hpos
  · rw [← hzero, roundDouble_zero]
  · have hlt : q < 2 ^ (53 + e) := by
      rw [hq, two_zpow_add]
      exact mul_lt_mul_of_pos_right (by exact_mod_cast hm) hpow
    have hlog : Int.log 2 q < 53 + e :=
      (Int.lt_zpow_iff_log_lt (by decide) hpos).1 (by exact_mod_cast hlt)
    have hle : lastExponent q ≤ e := by
      rw [lastExponent, abs_of_pos hpos]
      omega
    -- so the number is a multiple of the distance
    rcases Int.le.dest hle with ⟨k, hk⟩
    have hmultiple : |q| / ulp q = ((m * 2 ^ k : Nat) : ℚ) := by
      rw [abs_of_pos hpos, div_eq_iff (ulp_pos q).ne']
      calc
        q = m * 2 ^ (lastExponent q + k) := by rw [hk]; exact hq
        _ = ((m * 2 ^ k : Nat) : ℚ) * ulp q := by
            rw [two_zpow_add, zpow_natCast, ulp]
            push_cast
            ring
    rw [roundDouble_of_nonneg hnonneg, mantissa, hmultiple, roundHalfEven_natCast, ← hmultiple,
      div_mul_cancel₀ _ (ulp_pos q).ne', abs_of_pos hpos]

theorem neg_1074_le_lastExponent (q : ℚ) : -1074 ≤ lastExponent q := by
  rw [lastExponent]
  omega

/-- What has been rounded is kept. -/
theorem roundDouble_roundDouble (q : ℚ) : roundDouble (roundDouble q) = roundDouble q := by
  have hpos : ∀ {q : ℚ}, 0 < q → roundDouble (roundDouble q) = roundDouble q := by
    intro q hq
    rw [roundDouble_of_nonneg hq.le]
    rcases (mantissa_le hq).lt_or_eq with hlt | heq
    · exact roundDouble_of_eq hlt (neg_1074_le_lastExponent q) rfl
    · -- one digit more, and the last one is zero
      refine roundDouble_of_eq (m := 1) (e := 53 + lastExponent q) (by decide) ?_ ?_
      · have he := neg_1074_le_lastExponent q
        omega
      · rw [heq, two_zpow_add, ulp]
        norm_num
  rcases lt_trichotomy q 0 with hq | rfl | hq
  · have hneg := hpos (neg_pos.2 hq)
    rwa [roundDouble_neg, roundDouble_neg, neg_inj] at hneg
  · rw [roundDouble_zero, roundDouble_zero]
  · exact hpos hq

theorem roundDouble_mono_of_pos {p q : ℚ} (hp : 0 < p) (hpq : p ≤ q) :
    roundDouble p ≤ roundDouble q := by
  have hq : 0 < q := hp.trans_le hpq
  have hlog : Int.log 2 p ≤ Int.log 2 q := Int.log_mono_right hp hpq
  rw [roundDouble_of_nonneg hp.le, roundDouble_of_nonneg hq.le]
  by_cases hsame : lastExponent p = lastExponent q
  · -- the mantissas are rounded alike
    have hulp : ulp p = ulp q := by rw [ulp, ulp, hsame]
    have hmantissa : mantissa p ≤ mantissa q := by
      rw [mantissa, mantissa, hulp, abs_of_pos hp, abs_of_pos hq]
      exact roundHalfEven_mono (div_nonneg hp.le (ulp_pos q).le)
        (div_le_div_of_nonneg_right hpq (ulp_pos q).le)
    rw [hulp]
    exact mul_le_mul_of_nonneg_right (by exact_mod_cast hmantissa) (ulp_pos q).le
  · -- a power of two lies between them
    have hexponent : lastExponent p + 1 ≤ lastExponent q ∧ Int.log 2 q = 52 + lastExponent q := by
      rw [lastExponent, lastExponent, abs_of_pos hp, abs_of_pos hq] at *
      omega
    have hlower : 2 ^ 52 ≤ mantissa q := by
      refine le_roundHalfEven ?_
      rw [abs_of_pos hq, le_div_iff₀ (ulp_pos q)]
      calc
        ((2 ^ 52 : Nat) : ℚ) * ulp q = 2 ^ Int.log 2 q := by
            rw [hexponent.2, two_zpow_add, ulp]
            norm_num
        _ ≤ q := by exact_mod_cast Int.zpow_log_le_self (b := 2) (by decide) hq
    calc
      (mantissa p : ℚ) * ulp p ≤ 2 ^ 53 * ulp p :=
          mul_le_mul_of_nonneg_right (by exact_mod_cast mantissa_le hp) (ulp_pos p).le
      _ = 2 ^ 52 * 2 ^ (lastExponent p + 1) := by
          rw [two_zpow_add, ulp]
          ring
      _ ≤ 2 ^ 52 * ulp q :=
          mul_le_mul_of_nonneg_left (zpow_le_zpow_right₀ (by norm_num) hexponent.1) (by norm_num)
      _ ≤ (mantissa q : ℚ) * ulp q :=
          mul_le_mul_of_nonneg_right (by exact_mod_cast hlower) (ulp_pos q).le

theorem roundDouble_mono {p q : ℚ} (hpq : p ≤ q) : roundDouble p ≤ roundDouble q := by
  rcases lt_trichotomy p 0 with hp | rfl | hp
  · rcases lt_or_ge q 0 with hq | hq
    · have hneg := roundDouble_mono_of_pos (neg_pos.2 hq) (neg_le_neg hpq)
      rw [roundDouble_neg, roundDouble_neg] at hneg
      exact neg_le_neg_iff.1 hneg
    · have hneg := roundDouble_nonneg (neg_pos.2 hp).le
      rw [roundDouble_neg] at hneg
      exact (neg_nonneg.1 hneg).trans (roundDouble_nonneg hq)
  · rw [roundDouble_zero]
    exact roundDouble_nonneg hpq
  · exact roundDouble_mono_of_pos hp hpq

/-- Rounding is half the distance off at most. -/
theorem abs_roundDouble_sub_le (q : ℚ) (hq : 0 ≤ q) : |roundDouble q - q| ≤ ulp q / 2 := by
  have hpos := ulp_pos q
  have hbounds := roundHalfEven_bounds (div_nonneg hq hpos.le)
  have hvalue : q / ulp q * ulp q = q := div_mul_cancel₀ q hpos.ne'
  rw [roundDouble_of_nonneg hq, mantissa, abs_of_nonneg hq, abs_le]
  constructor
  · have hle := mul_le_mul_of_nonneg_right hbounds.1 hpos.le
    rw [hvalue] at hle
    linarith
  · have hle := mul_le_mul_of_nonneg_right hbounds.2 hpos.le
    rw [add_mul, hvalue] at hle
    linarith

/-- Below a power of two the distance between the doubles is known. -/
theorem abs_roundDouble_sub_le_of_lt {q : ℚ} {e : Int} (hq : 0 ≤ q) (hlt : q < 2 ^ e) (he : -1021 ≤ e) :
    |roundDouble q - q| ≤ 2 ^ (e - 54) := by
  rcases hq.eq_or_lt with rfl | hpos
  · rw [roundDouble_zero, sub_zero, abs_zero]
    exact (zpow_pos (by norm_num) _).le
  · have hlog : Int.log 2 q < e := (Int.lt_zpow_iff_log_lt (by decide) hpos).1 (by exact_mod_cast hlt)
    calc
      |roundDouble q - q| ≤ ulp q / 2 := abs_roundDouble_sub_le q hq
      _ ≤ 2 ^ (e - 53) / 2 := by
          refine div_le_div_of_nonneg_right (zpow_le_zpow_right₀ (by norm_num) ?_) (by norm_num)
          rw [lastExponent, abs_of_pos hpos]
          omega
      _ = 2 ^ (e - 54) := by
          rw [div_eq_iff (by norm_num), show e - 53 = e - 54 + 1 by omega, two_zpow_add, zpow_one]

/-- The doubles from some exponent on are the multiples of the distance there. -/
theorem exists_eq_mul_zpow {q : ℚ} (hkept : roundDouble q = q) (hq : 0 ≤ q) {e : Int}
    (he : e ≤ lastExponent q) : ∃ m : Nat, q = m * 2 ^ e := by
  rcases Int.le.dest he with ⟨k, hk⟩
  refine ⟨mantissa q * 2 ^ k, ?_⟩
  calc
    q = mantissa q * ulp q := by rw [← roundDouble_of_nonneg hq, hkept]
    _ = ((mantissa q * 2 ^ k : Nat) : ℚ) * 2 ^ e := by
        rw [ulp, ← hk, two_zpow_add, zpow_natCast]
        push_cast
        ring

theorem roundDouble_natCast {n : Nat} (hn : n < 2 ^ 53) : roundDouble n = n :=
  roundDouble_of_eq hn (by decide : (-1074 : Int) ≤ 0) (by simp)

theorem roundDouble_intCast {n : Int} (hn : n.natAbs < 2 ^ 53) : roundDouble n = n := by
  have hkept := roundDouble_natCast hn
  rcases Int.natAbs_eq n with h | h
  · rw [h, Int.cast_natCast, hkept]
  · rw [h, Int.cast_neg, Int.cast_natCast, roundDouble_neg, hkept]

/-- A double is a multiple of the smallest one. -/
theorem exists_eq_intCast_mul_zpow {q : ℚ} (hkept : roundDouble q = q) :
    ∃ n : Int, q = n * 2 ^ (-1074 : Int) := by
  rcases le_total 0 q with hq | hq
  · rcases exists_eq_mul_zpow hkept hq (neg_1074_le_lastExponent q) with ⟨m, hm⟩
    exact ⟨m, by rw [Int.cast_natCast]; exact hm⟩
  · have hkept' : roundDouble (-q) = -q := by rw [roundDouble_neg, hkept]
    rcases exists_eq_mul_zpow hkept' (neg_nonneg.2 hq) (neg_1074_le_lastExponent (-q)) with ⟨m, hm⟩
    exact ⟨-m, by rw [Int.cast_neg, Int.cast_natCast, neg_mul, ← hm, neg_neg]⟩

/-- Two doubles are equal or the smallest one apart at least. -/
theorem roundDouble_sub_neg {p q : ℚ} (hp : roundDouble p = p) (hq : roundDouble q = q) (hlt : p < q) :
    roundDouble (p - q) < 0 := by
  rcases exists_eq_intCast_mul_zpow hp with ⟨m, rfl⟩
  rcases exists_eq_intCast_mul_zpow hq with ⟨n, rfl⟩
  have hpos : (0 : ℚ) < 2 ^ (-1074 : Int) := zpow_pos (by norm_num) _
  have hmn : m + 1 ≤ n := by
    have hcast : (m : ℚ) < n := lt_of_mul_lt_mul_right hlt hpos.le
    exact_mod_cast hcast
  have hkept : roundDouble (2 ^ (-1074 : Int)) = 2 ^ (-1074 : Int) :=
    roundDouble_of_eq (m := 1) (by decide) le_rfl (by rw [Nat.cast_one, one_mul])
  calc
    roundDouble (m * 2 ^ (-1074 : Int) - n * 2 ^ (-1074 : Int)) ≤ roundDouble (-2 ^ (-1074 : Int)) := by
        refine roundDouble_mono ?_
        have hle : ((m : ℚ) + 1) * 2 ^ (-1074 : Int) ≤ n * 2 ^ (-1074 : Int) :=
          mul_le_mul_of_nonneg_right (by exact_mod_cast hmn) hpos.le
        rw [add_mul, one_mul] at hle
        linarith
    _ = -2 ^ (-1074 : Int) := by rw [roundDouble_neg, hkept]
    _ < 0 := neg_neg_of_pos hpos

/-- What is more than two is so after one has been taken away. -/
theorem one_lt_roundDouble_sub_one {q : ℚ} (hkept : roundDouble q = q) (hq : 2 < q) :
    1 < roundDouble (q - 1) := by
  have hpos : (0 : ℚ) < 2 ^ (-51 : Int) := zpow_pos (by norm_num) _
  have hlog : 1 ≤ Int.log 2 q :=
    (Int.zpow_le_iff_le_log (by decide) (by linarith)).1 (by norm_num; exact hq.le)
  have he : -51 ≤ lastExponent q := by
    rw [lastExponent, abs_of_pos (by linarith)]
    omega
  rcases exists_eq_mul_zpow hkept (by linarith) he with ⟨m, hm⟩
  -- the next double after two
  have hnext : 2 ^ 52 + 1 ≤ m := by
    by_contra hle
    have hcast : (m : ℚ) ≤ 2 ^ 52 := by exact_mod_cast Nat.lt_succ_iff.1 (not_le.1 hle)
    have htwo : (2 : ℚ) ^ 52 * 2 ^ (-51 : Int) = 2 := by norm_num
    have hmul := mul_le_mul_of_nonneg_right hcast hpos.le
    rw [← hm, htwo] at hmul
    linarith
  have hge : 2 + (2 : ℚ) ^ (-51 : Int) ≤ q := by
    calc
      2 + (2 : ℚ) ^ (-51 : Int) = (2 ^ 52 + 1) * 2 ^ (-51 : Int) := by norm_num
      _ ≤ q := by
          rw [hm]
          exact mul_le_mul_of_nonneg_right (by exact_mod_cast hnext) hpos.le
  calc
    (1 : ℚ) < 1 + 2 ^ (-51 : Int) := by linarith
    _ = roundDouble (1 + 2 ^ (-51 : Int)) :=
        (roundDouble_of_eq (m := 2 ^ 51 + 1) (e := -51) (by norm_num) (by norm_num) (by norm_num)).symm
    _ ≤ roundDouble (q - 1) := roundDouble_mono (by linarith)

/-- A double is an integer unless it is small. -/
theorem floor_eq_or_natAbs_le {q : ℚ} (hkept : roundDouble q = q) :
    (⌊q⌋ : ℚ) = q ∨ ⌊q⌋.natAbs ≤ 2 ^ 52 := by
  have hside : ∀ {q : ℚ}, roundDouble q = q → 0 ≤ q → (∃ m : Nat, q = m) ∨ q < 2 ^ 52 := by
    intro q hkept hq
    rcases lt_or_ge (lastExponent q) 0 with he | he
    · -- the last place is behind the point
      right
      rcases hq.eq_or_lt with rfl | hpos
      · norm_num
      · calc
          q < 2 ^ 53 * ulp q := lt_two_pow_mul_ulp hpos
          _ ≤ 2 ^ 53 * 2 ^ (-1 : Int) :=
              mul_le_mul_of_nonneg_left (zpow_le_zpow_right₀ (by norm_num) (by omega)) (by norm_num)
          _ = 2 ^ 52 := by norm_num
    · left
      rcases exists_eq_mul_zpow hkept hq he with ⟨m, hm⟩
      exact ⟨m, by rw [hm, zpow_zero, mul_one]⟩
  rcases le_total 0 q with hq | hq
  · rcases hside hkept hq with ⟨m, rfl⟩ | hlt
    · left
      rw [Int.floor_natCast, Int.cast_natCast]
    · right
      have hfloor : ⌊q⌋ < 2 ^ 52 := Int.floor_lt.2 (by exact_mod_cast hlt)
      have hnonneg : 0 ≤ ⌊q⌋ := Int.floor_nonneg.2 hq
      omega
  · have hkept' : roundDouble (-q) = -q := by rw [roundDouble_neg, hkept]
    rcases hside hkept' (neg_nonneg.2 hq) with ⟨m, hm⟩ | hlt
    · left
      rw [show q = ((-m : Int) : ℚ) by push_cast; linarith, Int.floor_intCast]
    · right
      have hge : -2 ^ 52 ≤ ⌊q⌋ := Int.le_floor.2 (by push_cast; linarith)
      have hnonpos : ⌊q⌋ ≤ 0 := by
        have hle := Int.floor_le q
        exact_mod_cast hle.trans hq
      omega

/-- Where no other float comes after the floor of `p`, a float that is larger than `p` is larger by one
at least. -/
theorem eq_or_add_one_le {p q : ℚ} (hp : roundDouble p = p) (hq : roundDouble q = q) (hle : p ≤ q)
    (hsame : roundDouble (⌊p⌋ + 1) = ⌊p⌋) : p = q ∨ p + 1 ≤ q := by
  have hfloor : (⌊p⌋ : ℚ) = p := by
    refine le_antisymm (Int.floor_le p) ?_
    have hmono := roundDouble_mono (Int.lt_floor_add_one p).le
    rwa [hp, hsame] at hmono
  rw [hfloor] at hsame
  rcases le_total q (p + 1) with hnear | hfar
  · have hmono := roundDouble_mono hnear
    rw [hq, hsame] at hmono
    exact Or.inl (le_antisymm hle hmono)
  · exact Or.inr hfar

/-! ## With the infinities -/

namespace PyFloat

/-- The nearest float. -/
def round : PyFloat → PyFloat
  | finite q => if |roundDouble q| < 2 ^ 1024 then finite (roundDouble q) else inf (decide (q < 0))
  | x => x

theorem round_finite_of_lt {q : ℚ} (h : |roundDouble q| < 2 ^ 1024) :
    (finite q).round = finite (roundDouble q) :=
  if_pos h

theorem round_finite_of_not_lt {q : ℚ} (h : ¬ |roundDouble q| < 2 ^ 1024) :
    (finite q).round = inf (decide (q < 0)) :=
  if_neg h

theorem round_finite_of_le {q : ℚ} {n : Nat} (hq : 0 ≤ q) (hle : q ≤ n) (hn : n < 2 ^ 53) :
    (finite q).round = finite (roundDouble q) := by
  refine round_finite_of_lt ?_
  have hmono := roundDouble_mono hle
  rw [roundDouble_natCast hn] at hmono
  rw [abs_of_nonneg (roundDouble_nonneg hq)]
  calc
    roundDouble q ≤ n := hmono
    _ < 2 ^ 53 := by exact_mod_cast hn
    _ ≤ 2 ^ 1024 := pow_le_pow_right₀ (by norm_num) (by norm_num)

/-- What has been rounded is kept. -/
theorem round_round (x : PyFloat) : x.round.round = x.round := by
  cases x with
  | finite q =>
      by_cases hlt : |roundDouble q| < 2 ^ 1024
      · have hlt' : |roundDouble (roundDouble q)| < 2 ^ 1024 := by rwa [roundDouble_roundDouble]
        rw [round_finite_of_lt hlt, round_finite_of_lt hlt', roundDouble_roundDouble]
      · rw [round_finite_of_not_lt hlt]
        rfl
  | inf negative => rfl
  | nan => rfl

theorem round_natCast {n : Nat} (hn : n < 2 ^ 53) : (finite n).round = finite n := by
  rw [round_finite_of_le (Nat.cast_nonneg n) le_rfl hn, roundDouble_natCast hn]

theorem round_finite_eq_iff {q : ℚ} :
    (finite q).round = finite q ↔ roundDouble q = q ∧ |q| < 2 ^ 1024 := by
  by_cases hlt : |roundDouble q| < 2 ^ 1024
  · rw [round_finite_of_lt hlt, finite.injEq]
    constructor
    · intro hkept
      exact ⟨hkept, by rwa [hkept] at hlt⟩
    · exact And.left
  · rw [round_finite_of_not_lt hlt]
    refine iff_of_false (by simp) fun h => ?_
    rw [h.1] at hlt
    exact hlt h.2

theorem sub_zero (x : PyFloat) : x.sub (finite 0) = x := by
  cases x <;> simp [sub, add, neg]

/-- `math.floor(x)` -/
def floor : PyFloat → PyFloat
  | finite q => finite ⌊q⌋
  | x => x

/-- The floor of a double is one. -/
theorem round_floor {x : PyFloat} (hx : x.round = x) : x.floor.round = x.floor := by
  cases x with
  | finite q =>
      have hkept := round_finite_eq_iff.1 hx
      rw [floor, round_finite_eq_iff]
      rcases floor_eq_or_natAbs_le hkept.1 with heq | hle
      · rw [heq]
        exact hkept
      · refine ⟨roundDouble_intCast (by omega), ?_⟩
        rw [← Int.cast_abs, Int.abs_eq_natAbs, Int.cast_natCast]
        calc
          ((⌊q⌋.natAbs : Nat) : ℚ) ≤ 2 ^ 52 := by exact_mod_cast hle
          _ < 2 ^ 1024 := pow_lt_pow_right₀ (by norm_num) (by norm_num)
  | inf negative => rfl
  | nan => rfl

/-! ## The order -/

/-- `x <= y` -/
def le : PyFloat → PyFloat → Prop
  | finite p, finite q => p ≤ q
  | inf a, finite _ => a = true
  | finite _, inf b => b = false
  | inf a, inf b => a = true ∨ b = false
  | _, _ => False

/-- `x < y` -/
def lt : PyFloat → PyFloat → Prop
  | finite p, finite q => p < q
  | inf a, finite _ => a = true
  | finite _, inf b => b = false
  | inf a, inf b => a = true ∧ b = false
  | _, _ => False

instance : DecidableRel le
  | finite p, finite q => inferInstanceAs (Decidable (p ≤ q))
  | inf a, finite _ => inferInstanceAs (Decidable (a = true))
  | finite _, inf b => inferInstanceAs (Decidable (b = false))
  | inf a, inf b => inferInstanceAs (Decidable (a = true ∨ b = false))
  | nan, _ => inferInstanceAs (Decidable False)
  | finite _, nan => inferInstanceAs (Decidable False)
  | inf _, nan => inferInstanceAs (Decidable False)

instance : DecidableRel lt
  | finite p, finite q => inferInstanceAs (Decidable (p < q))
  | inf a, finite _ => inferInstanceAs (Decidable (a = true))
  | finite _, inf b => inferInstanceAs (Decidable (b = false))
  | inf a, inf b => inferInstanceAs (Decidable (a = true ∧ b = false))
  | nan, _ => inferInstanceAs (Decidable False)
  | finite _, nan => inferInstanceAs (Decidable False)
  | inf _, nan => inferInstanceAs (Decidable False)

section Order

variable {x y z : PyFloat}

theorem ne_nan_of_le (h : x.le y) : x ≠ nan ∧ y ≠ nan := by
  constructor
  · rintro rfl
    exact h.elim
  · rintro rfl
    cases x <;> exact h.elim

theorem le_refl_of_ne (hx : x ≠ nan) : x.le x := by
  cases x with
  | finite q => exact le_refl q
  | inf negative => cases negative <;> simp [le]
  | nan => exact absurd rfl hx

protected theorem le_of_lt (h : x.lt y) : x.le y := by
  cases x <;> cases y <;> grind [le, lt]

protected theorem le_trans (hxy : x.le y) (hyz : y.le z) : x.le z := by
  cases x <;> cases y <;> cases z <;> grind [le]

protected theorem le_antisymm (hxy : x.le y) (hyx : y.le x) : x = y := by
  cases x <;> cases y <;> grind [le]

protected theorem not_lt_of_le (h : x.le y) : ¬ y.lt x := by
  cases x <;> cases y <;> grind [le, lt]

theorem le_or_lt (hx : x ≠ nan) (hy : y ≠ nan) : x.le y ∨ y.lt x := by
  cases x <;> cases y <;> grind [le, lt]

end Order

/-- Rounding keeps the order. -/
theorem round_le_round {x y : PyFloat} (h : x.le y) : x.round.le y.round := by
  cases x with
  | finite p =>
      cases y with
      | finite q =>
          have hmono : roundDouble p ≤ roundDouble q := roundDouble_mono h
          by_cases hp : |roundDouble p| < 2 ^ 1024
          · rw [round_finite_of_lt hp]
            by_cases hq : |roundDouble q| < 2 ^ 1024
            · rw [round_finite_of_lt hq]
              exact hmono
            · -- too large to be negative
              rw [round_finite_of_not_lt hq]
              refine decide_eq_false fun hneg => hq ?_
              have hnonpos := roundDouble_mono hneg.le
              rw [roundDouble_zero] at hnonpos
              rw [abs_lt] at hp
              rw [abs_of_nonpos hnonpos]
              exact (neg_le_neg hmono).trans_lt (neg_lt.1 hp.1)
          · rw [round_finite_of_not_lt hp]
            by_cases hq : |roundDouble q| < 2 ^ 1024
            · -- too large to be positive
              rw [round_finite_of_lt hq]
              refine decide_eq_true (not_le.1 fun hnonneg => hp ?_)
              rw [abs_lt] at hq
              rw [abs_of_nonneg (roundDouble_nonneg hnonneg)]
              exact hmono.trans_lt hq.2
            · -- two infinities, of which the first is no larger by the signs
              rw [round_finite_of_not_lt hq]
              rcases lt_or_ge q 0 with hneg | hnonneg
              · exact Or.inl (decide_eq_true (lt_of_le_of_lt h hneg))
              · exact Or.inr (decide_eq_false (not_lt.2 hnonneg))
      | inf b =>
          by_cases hp : |roundDouble p| < 2 ^ 1024
          · rw [round_finite_of_lt hp]
            exact h
          · rw [round_finite_of_not_lt hp]
            exact Or.inr h
      | nan => exact h.elim
  | inf a =>
      cases y with
      | finite q =>
          by_cases hq : |roundDouble q| < 2 ^ 1024
          · rw [round_finite_of_lt hq]
            exact h
          · rw [round_finite_of_not_lt hq]
            exact Or.inl h
      | inf b => exact h
      | nan => exact h.elim
  | nan => exact h.elim

theorem round_lt_zero {q : ℚ} (h : roundDouble q < 0) : (finite q).round.lt (finite 0) := by
  by_cases hlt : |roundDouble q| < 2 ^ 1024
  · rw [round_finite_of_lt hlt]
    exact h
  · rw [round_finite_of_not_lt hlt]
    exact decide_eq_true (not_le.1 fun hq => absurd h (not_lt.2 (roundDouble_nonneg hq)))

theorem one_lt_round {q : ℚ} (h : 1 < roundDouble q) : (finite 1).lt (finite q).round := by
  by_cases hlt : |roundDouble q| < 2 ^ 1024
  · rw [round_finite_of_lt hlt]
    exact h
  · rw [round_finite_of_not_lt hlt]
    refine decide_eq_false fun hq => ?_
    have hnonpos := roundDouble_mono hq.le
    rw [roundDouble_zero] at hnonpos
    linarith

/-! ## Differences with one -/

theorem sub_one (q : ℚ) : (finite q).sub (finite 1) = finite (q - 1) := by
  rw [sub_eq_add_neg]
  rfl

/-- A float is one at least if it stays so without one. -/
theorem zero_le_round_sub_one_iff {x : PyFloat} (hx : x.round = x) :
    (finite 0).le (x.sub (finite 1)).round ↔ (finite 1).le x := by
  cases x with
  | finite q =>
      have hone : roundDouble 1 = 1 := by
        have hkept := roundDouble_natCast (n := 1) (by decide)
        rwa [Nat.cast_one] at hkept
      have hzero : (finite 0).round = finite 0 := by
        have hkept := round_natCast (n := 0) (by decide)
        rwa [Nat.cast_zero] at hkept
      rw [sub_one]
      constructor
      · intro h
        by_contra hlt
        have hneg := roundDouble_sub_neg (round_finite_eq_iff.1 hx).1 hone (not_le.1 hlt)
        exact PyFloat.not_lt_of_le h (round_lt_zero hneg)
      · intro h
        have hle : (finite 0).le (finite (q - 1)) := sub_nonneg.2 h
        rw [← hzero]
        exact round_le_round hle
  | inf negative => exact Iff.rfl
  | nan => exact Iff.rfl

/-- A float is two at most if one is left at most without one. -/
theorem round_sub_one_le_one_iff {x : PyFloat} (hx : x.round = x) :
    (x.sub (finite 1)).round.le (finite 1) ↔ x.le (finite 2) := by
  cases x with
  | finite q =>
      have hone : (finite 1).round = finite 1 := by
        have hkept := round_natCast (n := 1) (by decide)
        rwa [Nat.cast_one] at hkept
      rw [sub_one]
      constructor
      · intro h
        by_contra hlt
        have hmore := one_lt_roundDouble_sub_one (round_finite_eq_iff.1 hx).1 (not_le.1 hlt)
        exact PyFloat.not_lt_of_le h (one_lt_round hmore)
      · intro h
        have hq : q ≤ 2 := h
        have hle : (finite (q - 1)).le (finite 1) := by
          show q - 1 ≤ 1
          linarith
        rw [← hone]
        exact round_le_round hle
  | inf negative => exact Iff.rfl
  | nan => exact Iff.rfl

/-- Where no other float comes after a floor, what is larger is larger by one at least. -/
theorem one_le_round_sub {x y : PyFloat} (hx : x.round = x) (hy : y.round = y) (hle : x.le y)
    (hsame : (x.floor.add (finite 1)).round = x.floor) :
    (y.sub x).round = finite 0 ∨ (finite 1).le (y.sub x).round ∨ (y.sub x).round = nan := by
  cases x with
  | finite p =>
      cases y with
      | finite q =>
          have hkept : roundDouble (⌊p⌋ + 1) = ⌊p⌋ := by
            change (finite (⌊p⌋ + 1)).round = finite ⌊p⌋ at hsame
            by_cases hlt : |roundDouble (⌊p⌋ + 1)| < 2 ^ 1024
            · rw [round_finite_of_lt hlt, finite.injEq] at hsame
              exact hsame
            · rw [round_finite_of_not_lt hlt] at hsame
              exact absurd hsame (by simp)
          have hsub : (finite q).sub (finite p) = finite (q - p) := by
            rw [sub_eq_add_neg]
            rfl
          rw [hsub]
          rcases eq_or_add_one_le (round_finite_eq_iff.1 hx).1 (round_finite_eq_iff.1 hy).1 hle hkept with
            rfl | hfar
          · -- two equal floats
            left
            have hzero := round_natCast (n := 0) (by decide)
            rwa [sub_self, ← Nat.cast_zero (R := ℚ)]
          · -- the exact difference is one at least, and one is a float
            right
            left
            have hone := round_natCast (n := 1) (by decide)
            have hexact : (finite ((1 : Nat) : ℚ)).le (finite (q - p)) := by
              show ((1 : Nat) : ℚ) ≤ q - p
              push_cast
              linarith
            have hround := round_le_round hexact
            rwa [hone, Nat.cast_one] at hround
      | inf b =>
          cases hle
          exact Or.inr (Or.inl rfl)
      | nan => exact hle.elim
  | inf a =>
      cases y with
      | finite q =>
          cases hle
          exact Or.inr (Or.inl rfl)
      | inf b =>
          cases a with
          | true =>
              cases b with
              | true => exact Or.inr (Or.inr rfl)
              | false => exact Or.inr (Or.inl rfl)
          | false =>
              cases b with
              | true => exact absurd hle (by decide)
              | false => exact Or.inr (Or.inr rfl)
      | nan => exact hle.elim
  | nan => exact hle.elim

end PyFloat

end Python
end ResourceAccounting
