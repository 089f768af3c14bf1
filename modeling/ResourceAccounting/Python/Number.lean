import Mathlib.Data.Char
import Mathlib.Data.Nat.Digits.Defs
import Mathlib.Data.Rat.Floor
import Mathlib.Tactic.FieldSimp
import Mathlib.Tactic.Ring
import ResourceAccounting.Python.Text

/-!
# Number — printing and parsing the numbers of a Python 2 program

The values of `float` are exact rationals with the two infinities and `nan`; where a program's
results turn on the doubles behind them, they are rounded (`Python.Rounding`).  The module gives:

- `fixedDigits k n`, `percentF k` — the text `%.kf` writes, with the last digit rounded half to
  even;
- `PyFloat.str` — `str` of a float (twelve significant digits);
- `float?`, `int?` — the conversions from text, `none` where Python raises `ValueError`.

The main fact is `float?_percentF`: `float` reads back what `%.kf` wrote.
-/

namespace ResourceAccounting
namespace Python

/-! ## Digits -/

/-- `n` in decimal, filled with zeros on the left up to width `w`. -/
def zeroPad (w n : Nat) : Text :=
  List.leftpad w '0' (Nat.toDigits 10 n)

/-- `n / 10 ^ k` with `k` decimals. -/
def fixedDigits (k n : Nat) : Text :=
  Nat.toDigits 10 (n / 10 ^ k) ++ '.' :: zeroPad k (n % 10 ^ k)

theorem isDigit_of_mem_toDigits {n : Nat} {c : Char} (hc : c ∈ Nat.toDigits 10 n) :
    c.isDigit = true :=
  Nat.isDigit_of_mem_toDigits (by decide) (by decide) hc

theorem isDigit_of_mem_zeroPad {w n : Nat} {c : Char} (hc : c ∈ zeroPad w n) :
    c.isDigit = true := by
  rw [zeroPad, List.leftpad, List.mem_append] at hc
  rcases hc with hc | hc
  · rw [List.eq_of_mem_replicate hc]
    decide
  · exact isDigit_of_mem_toDigits hc

theorem isSpace_of_isDigit {c : Char} (hc : c.isDigit = true) : isSpace c = false := by
  by_contra h
  rw [Bool.not_eq_false] at h
  simp only [isSpace, Bool.or_eq_true, beq_iff_eq] at h
  rcases h with ((((h | h) | h) | h) | h) | h <;> (subst h; exact absurd hc (by decide))

theorem isWord_toDigits (n : Nat) : IsWord (Nat.toDigits 10 n) :=
  fun _ hc => isSpace_of_isDigit (isDigit_of_mem_toDigits hc)

theorem isWord_zeroPad (w n : Nat) : IsWord (zeroPad w n) :=
  fun _ hc => isSpace_of_isDigit (isDigit_of_mem_zeroPad hc)

theorem length_zeroPad {w n : Nat} (hw : 0 < w) (hn : n < 10 ^ w) : (zeroPad w n).length = w := by
  have hle : (Nat.toDigits 10 n).length ≤ w := (Nat.length_toDigits_le_iff (by decide) hw).2 hn
  rw [zeroPad, List.length_leftpad, Nat.max_eq_left hle]

theorem ofDigitChars_zeroPad (w n : Nat) : Nat.ofDigitChars 10 (zeroPad w n) 0 = n := by
  rw [zeroPad, List.leftpad, Nat.ofDigitChars_append, Nat.ofDigitChars_replicate_zero,
    Nat.mul_zero, Nat.ofDigitChars_ten_toDigits]

theorem IsWord.newline_not_mem {w : Text} (hw : IsWord w) : '\n' ∉ w := by
  intro h
  exact absurd (hw _ h) (by decide)

theorem isWord_cons {c : Char} {w : Text} (hc : isSpace c = false) (hw : IsWord w) :
    IsWord (c :: w) := by
  intro d hd
  rcases List.mem_cons.1 hd with rfl | hd
  · exact hc
  · exact hw d hd

theorem isWord_append {v w : Text} (hv : IsWord v) (hw : IsWord w) : IsWord (v ++ w) := by
  intro d hd
  rcases List.mem_append.1 hd with hd | hd
  · exact hv d hd
  · exact hw d hd

theorem isWord_fixedDigits (k n : Nat) : IsWord (fixedDigits k n) :=
  isWord_append (isWord_toDigits _) (isWord_cons (by decide) (isWord_zeroPad _ _))

theorem fixedDigits_ne_nil (k n : Nat) : fixedDigits k n ≠ [] := by
  simp [fixedDigits]

/-! ## Floats -/

/-- The values of a `float`, read exactly. -/
inductive PyFloat
  | finite (q : ℚ)
  | inf (negative : Bool)
  | nan
  deriving DecidableEq, Repr

namespace PyFloat

/-- `x + y` -/
def add : PyFloat → PyFloat → PyFloat
  | finite p, finite q => finite (p + q)
  | nan, _ => nan
  | _, nan => nan
  | inf a, inf b => if a = b then inf a else nan
  | inf a, finite _ => inf a
  | finite _, inf b => inf b

/-- `-x` -/
def neg : PyFloat → PyFloat
  | finite q => finite (-q)
  | inf negative => inf !negative
  | nan => nan

/-- `x - y` -/
def sub (x y : PyFloat) : PyFloat :=
  x.add y.neg

/-- `x * y` -/
def mul : PyFloat → PyFloat → PyFloat
  | finite p, finite q => finite (p * q)
  | nan, _ => nan
  | _, nan => nan
  | inf a, inf b => inf (a != b)
  | inf a, finite q => if q = 0 then nan else inf (a != decide (q < 0))
  | finite p, inf b => if p = 0 then nan else inf (decide (p < 0) != b)

/-- `x / n` for a positive integer `n`. -/
def divNat : PyFloat → Nat → PyFloat
  | finite q, n => finite (q / n)
  | x, _ => x

end PyFloat

/-- The natural number closest to a non-negative `q`, the even one of two. -/
def roundHalfEven (q : ℚ) : Nat :=
  let whole := q.num.toNat / q.den
  let rest := q.num.toNat % q.den
  if 2 * rest < q.den then
    whole
  else if q.den < 2 * rest then
    whole + 1
  -- exactly in the middle
  else if whole % 2 = 0 then
    whole
  else
    whole + 1

@[simp]
theorem roundHalfEven_natCast (n : Nat) : roundHalfEven (n : ℚ) = n := by
  simp [roundHalfEven, Nat.mod_one]

/-- `"%.kf" % q` -/
def percentF (k : Nat) (q : ℚ) : Text :=
  (if q < 0 then ['-'] else []) ++ fixedDigits k (roundHalfEven (|q| * 10 ^ k))

/-- The value that `percentF k q` stands for. -/
def roundTo (k : Nat) (q : ℚ) : ℚ :=
  if q < 0 then
    -(roundHalfEven (|q| * 10 ^ k) / 10 ^ k)
  else
    roundHalfEven (|q| * 10 ^ k) / 10 ^ k

theorem isWord_percentF (k : Nat) (q : ℚ) : IsWord (percentF k q) := by
  refine isWord_append ?_ (isWord_fixedDigits _ _)
  split
  · decide
  · decide

theorem percentF_ne_nil (k : Nat) (q : ℚ) : percentF k q ≠ [] := by
  simp [percentF, fixedDigits_ne_nil]

/-- The decimal exponent of a positive rational: `10 ^ e ≤ q < 10 ^ (e + 1)`. -/
def exponent10 (q : ℚ) : Int :=
  if 1 ≤ q then
    (Nat.toDigits 10 (q.num.toNat / q.den)).length - 1
  else
    -(Nat.toDigits 10 ((q.den - 1) / q.num.toNat)).length

/-- The twelve significant digits of a positive rational, as a number, with the exponent of the
first one. -/
def significant (q : ℚ) : Nat × Int :=
  let e := exponent10 q
  let m := roundHalfEven (q * 10 ^ (11 - e))
  -- rounding up may need one more digit
  if m = 10 ^ 12 then (10 ^ 11, e + 1) else (m, e)

/-- Drop the trailing zeros. -/
def trimZeros (s : Text) : Text :=
  s.rdropWhile (· == '0')

/-- `"%.12g"` of a positive rational, with `.0` after a text that looks like an integer.  The
place that the `.0` needs moves the change to an exponent from `1e+12` down to `1e+11`. -/
def strPositive (q : ℚ) : Text :=
  let digits := Nat.toDigits 10 (significant q).1
  let e := (significant q).2
  if 0 ≤ e ∧ e < 11 then
    let frac := trimZeros (digits.drop (e.toNat + 1))
    digits.take (e.toNat + 1) ++ '.' :: (if frac = [] then ['0'] else frac)
  else if -4 ≤ e ∧ e < 0 then
    '0' :: '.' :: (List.replicate (e.natAbs - 1) '0' ++ trimZeros digits)
  else
    let frac := trimZeros (digits.drop 1)
    digits.take 1 ++ (if frac = [] then [] else '.' :: frac) ++
      'e' :: (if e < 0 then '-' else '+') :: zeroPad 2 e.natAbs

namespace PyFloat

/-- `str(x)` -/
def str : PyFloat → Text
  | finite q =>
      if q = 0 then
        "0.0".toList
      else
        (if q < 0 then ['-'] else []) ++ strPositive |q|
  | inf negative => if negative then "-inf".toList else "inf".toList
  | nan => "nan".toList

/-- `"%.kf" % x` -/
def fmt (k : Nat) : PyFloat → Text
  | finite q => percentF k q
  | inf negative => if negative then "-inf".toList else "inf".toList
  | nan => "nan".toList

end PyFloat

theorem IsWord.sublist {v w : Text} (hw : IsWord w) (h : List.Sublist v w) : IsWord v :=
  fun c hc => hw c (h.subset hc)

theorem trimZeros_sublist (s : Text) : List.Sublist (trimZeros s) s :=
  (List.rdropWhile_prefix _ s).sublist

theorem isWord_strPositive (q : ℚ) : IsWord (strPositive q) := by
  have hdigits : IsWord (Nat.toDigits 10 (significant q).1) := isWord_toDigits _
  have htake : ∀ n, IsWord ((Nat.toDigits 10 (significant q).1).take n) :=
    fun n => hdigits.sublist (List.take_sublist n _)
  have hdrop : ∀ n, IsWord (trimZeros ((Nat.toDigits 10 (significant q).1).drop n)) :=
    fun n => hdigits.sublist ((trimZeros_sublist _).trans (List.drop_sublist n _))
  simp only [strPositive]
  -- fixed notation, small numbers, scientific notation
  split
  · refine isWord_append (htake _) (isWord_cons (by decide) ?_)
    split
    · decide
    · exact hdrop _
  · split
    · refine isWord_cons (by decide) (isWord_cons (by decide) (isWord_append ?_ ?_))
      · intro c hc
        rw [List.eq_of_mem_replicate hc]
        decide
      · exact hdigits.sublist (trimZeros_sublist _)
    · refine isWord_append (isWord_append (htake _) ?_) (isWord_cons (by decide) ?_)
      · split
        · decide
        · exact isWord_cons (by decide) (hdrop _)
      · refine isWord_cons ?_ (isWord_zeroPad _ _)
        split <;> decide

theorem PyFloat.isWord_str (x : PyFloat) : IsWord x.str := by
  cases x with
  | finite q =>
      simp only [PyFloat.str]
      split
      · decide
      · refine isWord_append ?_ (isWord_strPositive _)
        split <;> decide
  | inf negative => cases negative <;> decide
  | nan => decide

/-! ## Conversions from text -/

/-- The sign in front of a number and what follows it. -/
def sign : Text → Bool × Text
  | '-' :: s => (true, s)
  | '+' :: s => (false, s)
  | s => (false, s)

/-- A non-empty text of digits. -/
def digits? (s : Text) : Option Nat :=
  if s ≠ [] ∧ s.all Char.isDigit then some (Nat.ofDigitChars 10 s 0) else none

/-- The exponent part of a float literal, possibly missing. -/
def exponent? : Text → Option Int
  | [] => some 0
  | c :: s =>
      if c = 'e' ∨ c = 'E' then
        (digits? (sign s).2).map (fun n => if (sign s).1 then -(n : Int) else n)
      else
        none

/-- The digits after the dot of a float literal and what follows them. -/
def fraction : Text → Text × Text
  | '.' :: s => (s.takeWhile Char.isDigit, s.dropWhile Char.isDigit)
  | s => ([], s)

/-- A float literal without sign. -/
def unsigned? (s : Text) : Option ℚ :=
  let whole := s.takeWhile Char.isDigit
  let frac := (fraction (s.dropWhile Char.isDigit)).1
  if whole = [] ∧ frac = [] then
    none
  else
    (exponent? (fraction (s.dropWhile Char.isDigit)).2).map
      (fun e : Int => (Nat.ofDigitChars 10 (whole ++ frac) 0 : ℚ) * 10 ^ (e - frac.length))

/-- `float(s)` -/
def float? (s : Text) : Option PyFloat :=
  let negative := (sign (strip s)).1
  let body := (sign (strip s)).2
  let lower := body.map Char.toLower
  if lower = "inf".toList ∨ lower = "infinity".toList then
    some (.inf negative)
  else if lower = "nan".toList then
    some .nan
  else
    (unsigned? body).map (fun q => .finite (if negative then -q else q))

/-- `int(s)` -/
def int? (s : Text) : Option Int :=
  (digits? (sign (strip s)).2).map (fun n => if (sign (strip s)).1 then -(n : Int) else n)

/-! ## Reading back what was printed -/

theorem digits?_toDigits (n : Nat) : digits? (Nat.toDigits 10 n) = some n := by
  have hall : (Nat.toDigits 10 n).all Char.isDigit = true :=
    List.all_eq_true.2 fun c hc => isDigit_of_mem_toDigits hc
  simp [digits?, hall, Nat.toDigits_ne_nil, Nat.ofDigitChars_ten_toDigits]

theorem sign_of_isDigit_head {c : Char} (hc : c.isDigit = true) (s : Text) :
    sign (c :: s) = (false, c :: s) := by
  unfold sign
  split
  · rename_i h
    cases h
    exact absurd hc (by decide)
  · rename_i h
    cases h
    exact absurd hc (by decide)
  · rfl

/-- `int` reads back a natural number. -/
theorem int?_toDigits (n : Nat) : int? (Nat.toDigits 10 n) = some (n : Int) := by
  rcases List.exists_cons_of_ne_nil (Nat.toDigits_ne_nil (n := n) (b := 10)) with ⟨c, s, hcs⟩
  have hc : c.isDigit = true :=
    isDigit_of_mem_toDigits (n := n) (by rw [hcs]; exact List.mem_cons_self)
  have hsign : sign (strip (Nat.toDigits 10 n)) = (false, Nat.toDigits 10 n) := by
    rw [strip_word (isWord_toDigits n), hcs, sign_of_isDigit_head hc]
  simp [int?, hsign, digits?_toDigits]

theorem takeWhile_isDigit_append_dot {d : Text} (hd : ∀ c ∈ d, c.isDigit = true) (s : Text) :
    (d ++ '.' :: s).takeWhile Char.isDigit = d := by
  rw [List.takeWhile_append_of_pos hd, List.takeWhile_cons_of_neg (by decide), List.append_nil]

theorem dropWhile_isDigit_append_dot {d : Text} (hd : ∀ c ∈ d, c.isDigit = true) (s : Text) :
    (d ++ '.' :: s).dropWhile Char.isDigit = '.' :: s := by
  rw [List.dropWhile_append_of_pos hd, List.dropWhile_cons_of_neg (by decide)]

theorem ofDigitChars_fixedDigits {k : Nat} (hk : 0 < k) (n : Nat) :
    Nat.ofDigitChars 10 (Nat.toDigits 10 (n / 10 ^ k) ++ zeroPad k (n % 10 ^ k)) 0 = n := by
  have hlen : (zeroPad k (n % 10 ^ k)).length = k :=
    length_zeroPad hk (Nat.mod_lt _ (by positivity))
  rw [Nat.ofDigitChars_append, Nat.ofDigitChars_ten_toDigits, Nat.ofDigitChars_eq_ofDigitChars_zero,
    hlen, ofDigitChars_zeroPad]
  exact Nat.div_add_mod n (10 ^ k)

theorem unsigned?_fixedDigits {k : Nat} (hk : 0 < k) (n : Nat) :
    unsigned? (fixedDigits k n) = some ((n : ℚ) / 10 ^ k) := by
  have hwhole : ∀ c ∈ Nat.toDigits 10 (n / 10 ^ k), c.isDigit = true :=
    fun c hc => isDigit_of_mem_toDigits hc
  have hfrac : ∀ c ∈ zeroPad k (n % 10 ^ k), c.isDigit = true :=
    fun c hc => isDigit_of_mem_zeroPad hc
  have hlen : (zeroPad k (n % 10 ^ k)).length = k :=
    length_zeroPad hk (Nat.mod_lt _ (by positivity))
  have htake : (zeroPad k (n % 10 ^ k)).takeWhile Char.isDigit = zeroPad k (n % 10 ^ k) :=
    List.takeWhile_eq_self_iff.2 hfrac
  have hdrop : (zeroPad k (n % 10 ^ k)).dropWhile Char.isDigit = [] :=
    List.dropWhile_eq_nil_iff.2 hfrac
  rw [fixedDigits]
  simp only [unsigned?, takeWhile_isDigit_append_dot hwhole, dropWhile_isDigit_append_dot hwhole,
    fraction, htake, hdrop, Nat.toDigits_ne_nil, false_and, if_false, exponent?, Option.map_some,
    ofDigitChars_fixedDigits hk, hlen]
  rw [zero_sub, zpow_neg, zpow_natCast, div_eq_mul_inv]

theorem exists_digit_cons_fixedDigits (k n : Nat) :
    ∃ c s, fixedDigits k n = c :: s ∧ c.isDigit = true := by
  rcases List.exists_cons_of_ne_nil (Nat.toDigits_ne_nil (n := n / 10 ^ k) (b := 10)) with
    ⟨c, s, hcs⟩
  refine ⟨c, s ++ '.' :: zeroPad k (n % 10 ^ k), by rw [fixedDigits, hcs]; rfl, ?_⟩
  exact isDigit_of_mem_toDigits (n := n / 10 ^ k) (by rw [hcs]; exact List.mem_cons_self)

/-- A text that starts with a digit is none of the names of the special values. -/
theorem map_toLower_ne_of_isDigit_head {c d : Char} (hc : c.isDigit = true)
    (hd : d.isDigit = false) (s t : Text) : (c :: s).map Char.toLower ≠ d :: t := by
  intro h
  -- `toLower` leaves a digit as it is
  have hlower : c.toLower = c := by
    simp only [Char.isDigit, Bool.and_eq_true, decide_eq_true_eq] at hc
    refine dif_neg fun hupper => ?_
    have hle : 'A'.val ≤ '9'.val := UInt32.le_trans hupper.1 hc.2
    exact absurd hle (by decide)
  rw [List.map_cons, hlower] at h
  rw [(List.cons.inj h).1, hd] at hc
  exact Bool.false_ne_true hc

/-- `float` reads back what `%.kf` wrote. -/
theorem float?_percentF {k : Nat} (hk : 0 < k) (q : ℚ) :
    float? (percentF k q) = some (.finite (roundTo k q)) := by
  rcases exists_digit_cons_fixedDigits k (roundHalfEven (|q| * 10 ^ k)) with ⟨c, s, hcs, hc⟩
  have hsign : sign (strip (percentF k q)) =
      (decide (q < 0), fixedDigits k (roundHalfEven (|q| * 10 ^ k))) := by
    rw [strip_word (isWord_percentF k q), percentF, hcs]
    by_cases hq : q < 0
    · simp [hq, sign]
    · simp [hq, sign_of_isDigit_head hc]
  -- what follows the sign starts with a digit, so it is neither `inf` nor `nan`
  have hinf := map_toLower_ne_of_isDigit_head hc (d := 'i') (by decide) s
  have hnan := map_toLower_ne_of_isDigit_head hc (d := 'n') (by decide) s
  rw [← hcs] at hinf hnan
  have hunsigned := unsigned?_fixedDigits hk (roundHalfEven (|q| * 10 ^ k))
  simp only [float?, hsign, hunsigned, roundTo]
  rw [if_neg, if_neg]
  · by_cases hq : q < 0 <;> simp [hq]
  · exact hnan _
  · rintro (h | h)
    · exact hinf _ h
    · exact hinf _ h

theorem fixedDigits_eq_percentF (k n : Nat) : fixedDigits k n = percentF k ((n : ℚ) / 10 ^ k) := by
  have hscale : |(n : ℚ) / 10 ^ k| * 10 ^ k = (n : ℚ) := by
    rw [abs_of_nonneg (by positivity), div_mul_cancel₀ _ (by positivity)]
  have hnot : ¬ (n : ℚ) / 10 ^ k < 0 := not_lt.2 (by positivity)
  simp [percentF, hscale, hnot]

/-- `float` reads a number in fixed notation. -/
theorem float?_fixedDigits {k : Nat} (hk : 0 < k) (n : Nat) :
    float? (fixedDigits k n) = some (.finite ((n : ℚ) / 10 ^ k)) := by
  have hscale : |(n : ℚ) / 10 ^ k| * 10 ^ k = (n : ℚ) := by
    rw [abs_of_nonneg (by positivity), div_mul_cancel₀ _ (by positivity)]
  have hnot : ¬ (n : ℚ) / 10 ^ k < 0 := not_lt.2 (by positivity)
  simp [fixedDigits_eq_percentF, float?_percentF hk, roundTo, hscale, hnot]

theorem fixedDigits_injective {k : Nat} (hk : 0 < k) {m n : Nat}
    (h : fixedDigits k m = fixedDigits k n) : m = n := by
  have hread : (m : ℚ) / 10 ^ k = (n : ℚ) / 10 ^ k := by
    simpa [unsigned?_fixedDigits hk] using congrArg unsigned? h
  have hpow : (10 : ℚ) ^ k ≠ 0 := by positivity
  exact_mod_cast (div_left_inj' hpow).1 hread

/-- `float` of a text of digits. -/
theorem float?_digits {s : Text} (hne : s ≠ []) (hs : ∀ c ∈ s, c.isDigit = true) :
    float? s = some (.finite (Nat.ofDigitChars 10 s 0 : ℚ)) := by
  rcases List.exists_cons_of_ne_nil hne with ⟨c, t, hct⟩
  have hc : c.isDigit = true := hs c (by simp [hct])
  have hword : IsWord s := fun d hd => isSpace_of_isDigit (hs d hd)
  have hsign : sign (strip s) = (false, s) := by
    rw [strip_word hword, hct, sign_of_isDigit_head hc]
  have hinf := map_toLower_ne_of_isDigit_head hc (d := 'i') (by decide) t
  have hnan := map_toLower_ne_of_isDigit_head hc (d := 'n') (by decide) t
  rw [← hct] at hinf hnan
  have htake : s.takeWhile Char.isDigit = s := List.takeWhile_eq_self_iff.2 hs
  have hdrop : s.dropWhile Char.isDigit = [] := List.dropWhile_eq_nil_iff.2 hs
  have hunsigned : unsigned? s = some (Nat.ofDigitChars 10 s 0 : ℚ) := by
    simp [unsigned?, htake, hdrop, fraction, hne, exponent?]
  simp only [float?, hsign, hunsigned]
  rw [if_neg, if_neg]
  · simp
  · exact hnan _
  · rintro (h | h)
    · exact hinf _ h
    · exact hinf _ h

/-! ## Order of the printed texts -/

theorem toNat_of_isDigit {c : Char} (hc : c.isDigit = true) : 48 ≤ c.toNat ∧ c.toNat ≤ 57 := by
  simp only [Char.isDigit, Bool.and_eq_true, decide_eq_true_eq] at hc
  exact ⟨hc.1, hc.2⟩

theorem ofDigitChars_lt {s : Text} (hs : ∀ c ∈ s, c.isDigit = true) :
    Nat.ofDigitChars 10 s 0 < 10 ^ s.length := by
  induction s with
  | nil => simp
  | cons c s ih =>
      have hc := toNat_of_isDigit (hs c List.mem_cons_self)
      have ih := ih fun d hd => hs d (List.mem_cons_of_mem _ hd)
      have hzero : '0'.toNat = 48 := rfl
      rw [Nat.ofDigitChars_cons, Nat.ofDigitChars_eq_ofDigitChars_zero, List.length_cons, pow_succ,
        hzero]
      have hdigit : 10 ^ s.length * (10 * 0 + (c.toNat - 48)) ≤ 10 ^ s.length * 9 :=
        Nat.mul_le_mul_left _ (by omega)
      omega

/-- Digit texts of one length are ordered as their values are, whatever follows them. -/
theorem append_lt_append_of_ofDigitChars_lt {s t : Text} (hs : ∀ c ∈ s, c.isDigit = true)
    (ht : ∀ c ∈ t, c.isDigit = true) (hlen : s.length = t.length)
    (h : Nat.ofDigitChars 10 s 0 < Nat.ofDigitChars 10 t 0) (u v : Text) : s ++ u < t ++ v := by
  induction s generalizing t with
  | nil =>
      cases t with
      | nil => exact absurd h (lt_irrefl _)
      | cons d t => simp at hlen
  | cons c s ih =>
      cases t with
      | nil => simp at hlen
      | cons d t =>
          have hlen' : s.length = t.length := by simpa using hlen
          have hs' : ∀ x ∈ s, x.isDigit = true := fun x hx => hs x (List.mem_cons_of_mem _ hx)
          have ht' : ∀ x ∈ t, x.isDigit = true := fun x hx => ht x (List.mem_cons_of_mem _ hx)
          have hc := toNat_of_isDigit (hs c List.mem_cons_self)
          have hd := toNat_of_isDigit (ht d List.mem_cons_self)
          have hzero : '0'.toNat = 48 := rfl
          rw [Nat.ofDigitChars_cons, Nat.ofDigitChars_eq_ofDigitChars_zero (l := s),
            Nat.ofDigitChars_cons, Nat.ofDigitChars_eq_ofDigitChars_zero (l := t), hlen', hzero] at h
          apply List.cons_lt_cons_iff.2
          rcases lt_trichotomy c.toNat d.toNat with hlt | heq | hgt
          · exact Or.inl hlt
          · have hcd : c = d := Char.toNat_inj.1 heq
            subst hcd
            exact Or.inr ⟨rfl, ih hs' ht' hlen' (by omega)⟩
          · -- a greater first digit outweighs whatever follows
            exfalso
            have hbound := ofDigitChars_lt ht'
            have hdigit : 10 ^ t.length * (10 * 0 + (d.toNat - 48)) + 10 ^ t.length ≤
                10 ^ t.length * (10 * 0 + (c.toNat - 48)) := by
              rw [← Nat.mul_succ]
              exact Nat.mul_le_mul_left _ (by omega)
            omega

/-- Numbers with equally many digits before the point are ordered as their texts are. -/
theorem fixedDigits_lt_fixedDigits {k a b : Nat} (hk : 0 < k) (hab : a < b)
    (hlen : (Nat.toDigits 10 (a / 10 ^ k)).length = (Nat.toDigits 10 (b / 10 ^ k)).length) :
    fixedDigits k a < fixedDigits k b := by
  have hpow : 0 < 10 ^ k := by positivity
  have hdigits : ∀ n, ∀ c ∈ Nat.toDigits 10 n, c.isDigit = true :=
    fun n c hc => isDigit_of_mem_toDigits hc
  have hpad : ∀ n, ∀ c ∈ zeroPad k n, c.isDigit = true := fun n c hc => isDigit_of_mem_zeroPad hc
  rcases Nat.lt_or_eq_of_le (Nat.div_le_div_right (c := 10 ^ k) hab.le) with hlt | heq
  · -- the whole parts differ
    exact append_lt_append_of_ofDigitChars_lt (hdigits _) (hdigits _) hlen (by simpa using hlt) _ _
  · -- the whole parts are the same, so the decimals differ
    have hmod : a % 10 ^ k < b % 10 ^ k := by
      have ha := Nat.div_add_mod a (10 ^ k)
      have hb := Nat.div_add_mod b (10 ^ k)
      rw [heq] at ha
      omega
    have hfrac : zeroPad k (a % 10 ^ k) < zeroPad k (b % 10 ^ k) := by
      simpa using append_lt_append_of_ofDigitChars_lt (hpad _) (hpad _)
        ((length_zeroPad hk (Nat.mod_lt _ hpow)).trans (length_zeroPad hk (Nat.mod_lt _ hpow)).symm)
        (by simpa [ofDigitChars_zeroPad] using hmod) [] []
    rw [fixedDigits, fixedDigits, heq]
    apply List.append_left_lt
    exact List.cons_lt_cons_iff.2 (Or.inr ⟨rfl, hfrac⟩)

/-! ## Examples -/

example : float? " 12.50\n".toList = some (.finite (25 / 2)) := by decide +kernel
example : float? "-1e-3".toList = some (.finite (-1 / 1000)) := by decide +kernel
example : float? "1.5.0".toList = none := by decide +kernel
example : (PyFloat.finite (1234567891 / 1000)).str = "1234567.891".toList := by decide +kernel

end Python
end ResourceAccounting
