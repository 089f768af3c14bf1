import Mathlib.Tactic.IntervalCases
import ResourceAccounting.Gpsd.Devices
import ResourceAccounting.Gpsd.Fix
import ResourceAccounting.Python.Number

/-!
# Calendar — times as dates

gpsd writes the time of a fix as a date, and a client reads the date back.  Both count in seconds, here
exact ones, from 1970 on.  A `time_t` of `wordBits` bits holds every date whose year has four digits.

- `mkgmtime`, `iso8601ToUnix`, `unixToIso8601` — the functions of gpsutils.c;
- `gmtime`, `strptime`, `strtod` — the functions of the library that they call;
- `mkgmtime_gmtime` — the formula is right about the calendar;
- `iso8601ToUnix_unixToIso8601` — the time that comes back;
- `exactFloats` — the numbers of gpsd, exactly;
- `time_jsonTpvRead_jsonTpvDump` — the time that a client has of a fix.
-/

namespace ResourceAccounting
namespace Gpsd

open Python C Json

/-- `struct tm`, what is used of it. -/
structure Tm where
  /-- Years since 1900. -/
  tm_year : Int
  /-- From 0 on. -/
  tm_mon : Int
  /-- From 1 on. -/
  tm_mday : Int
  tm_hour : Int
  tm_min : Int
  tm_sec : Int
  deriving DecidableEq, Repr

/-! ## mkgmtime -/

def cumdays : List Int :=
  [0, 31, 59, 90, 120, 151, 181, 212, 243, 273, 304, 334]

/-- `mkgmtime`; `cumdays` is not read for a negative month. -/
def mkgmtime (t : Tm) : Int :=
  let year := 1900 + t.tm_year + t.tm_mon.tdiv 12
  let result := (year - 1970) * 365 + cumdays.getD (t.tm_mon.tmod 12).toNat 0
  let result := result + (year - 1968).tdiv 4
  let result := result - (year - 1900).tdiv 100
  let result := result + (year - 1600).tdiv 400
  let result :=
    if year.tmod 4 = 0 ∧ (year.tmod 100 ≠ 0 ∨ year.tmod 400 = 0) ∧ t.tm_mon.tmod 12 < 2 then
      result - 1
    else
      result
  let result := result + (t.tm_mday - 1)
  ((result * 24 + t.tm_hour) * 60 + t.tm_min) * 60 + t.tm_sec

/-! ## gmtime -/

def isLeap (year : Nat) : Bool :=
  year % 4 = 0 && (year % 100 ≠ 0 || year % 400 = 0)

def yearDays (year : Nat) : Nat :=
  if isLeap year then 366 else 365

def monthDays (year mon : Nat) : Nat :=
  if mon = 1 then (if isLeap year then 29 else 28) else [31, 28, 31, 30, 31, 30, 31, 31, 30, 31, 30, 31].getD mon 0

/-- The year of a day that is `days` days behind the first day of `year`, and the day in that year. -/
def yearOf : Nat → Nat → Nat → Nat × Nat
  | fuel + 1, year, days =>
      if days < yearDays year then (year, days) else yearOf fuel (year + 1) (days - yearDays year)
  | 0, year, days => (year, days)

/-- The month of a day that is `days` days behind the first day of the month `mon`, and the day in that
month. -/
def monthOf (year : Nat) : Nat → Nat → Nat → Nat × Nat
  | fuel + 1, mon, days =>
      if days < monthDays year mon then (mon, days)
      else monthOf year fuel (mon + 1) (days - monthDays year mon)
  | 0, mon, days => (mon, days)

/-- `gmtime_r`, from 1970 on. -/
def gmtime (time : Nat) : Tm :=
  let day := yearOf (time / 86400) 1970 (time / 86400)
  let date := monthOf day.1 11 0 day.2
  { tm_year := (day.1 : Int) - 1900
    tm_mon := date.1
    tm_mday := date.2 + 1
    tm_hour := time % 86400 / 3600
    tm_min := time % 3600 / 60
    tm_sec := time % 60 }

/-! ## The days before a date -/

/-- The days from 1970 to the first day of a year. -/
def daysBefore (year : Nat) : Int :=
  ((year : Int) - 1970) * 365 + ((year : Int) - 1969) / 4 - ((year : Int) - 1901) / 100 +
    ((year : Int) - 1601) / 400

theorem daysBefore_succ (year : Nat) :
    daysBefore (year + 1) = daysBefore year + yearDays year := by
  simp only [daysBefore, yearDays, isLeap, Bool.and_eq_true, Bool.or_eq_true, decide_eq_true_eq]
  push_cast
  split <;> omega

theorem yearDays_pos (year : Nat) : 365 ≤ yearDays year ∧ yearDays year ≤ 366 := by
  unfold yearDays
  split <;> decide

/-- The loop over the years passes no day over, and ends within a year. -/
theorem yearOf_spec (fuel : Nat) {year : Nat} (hyear : 1970 ≤ year) (days : Nat) :
    1970 ≤ (yearOf fuel year days).1 ∧
      daysBefore (yearOf fuel year days).1 + (yearOf fuel year days).2 = daysBefore year + days ∧
      (days ≤ fuel * 365 → (yearOf fuel year days).2 < yearDays (yearOf fuel year days).1) := by
  induction fuel generalizing year days with
  | zero =>
      refine ⟨hyear, rfl, fun hdays => ?_⟩
      have hpos := (yearDays_pos year).1
      simp only [yearOf]
      omega
  | succ fuel ih =>
      rw [yearOf]
      split
      · rename_i hlt
        exact ⟨hyear, rfl, fun _ => hlt⟩
      · have hpos := (yearDays_pos year).1
        have hrest := ih (Nat.le_succ_of_le hyear) (days - yearDays year)
        refine ⟨hrest.1, ?_, fun hdays => hrest.2.2 (by omega)⟩
        rw [hrest.2.1, daysBefore_succ]
        omega

/-- The days of a year before the first day of a month. -/
def monthBefore (year mon : Nat) : Int :=
  cumdays.getD mon 0 + if isLeap year ∧ 2 ≤ mon then 1 else 0

theorem monthBefore_succ {year mon : Nat} (hmon : mon < 11) :
    monthBefore year (mon + 1) = monthBefore year mon + monthDays year mon := by
  unfold monthBefore monthDays
  cases isLeap year <;> interval_cases mon <;> decide

/-- The loop over the months as well. -/
theorem monthOf_spec (year fuel mon days : Nat) (hfuel : mon + fuel = 11)
    (hdays : monthBefore year mon + days < yearDays year) :
    (monthOf year fuel mon days).1 ≤ 11 ∧
      monthBefore year (monthOf year fuel mon days).1 + (monthOf year fuel mon days).2 =
        monthBefore year mon + days ∧
      (monthOf year fuel mon days).2 < monthDays year (monthOf year fuel mon days).1 := by
  induction fuel generalizing mon days with
  | zero =>
      -- in December all days that are left are days of December
      cases (show mon = 11 by omega)
      refine ⟨le_rfl, rfl, ?_⟩
      have hmonth : monthBefore year 11 + monthDays year 11 = yearDays year := by
        unfold monthBefore monthDays yearDays
        cases isLeap year <;> decide
      simp only [monthOf]
      omega
  | succ fuel ih =>
      rw [monthOf]
      split
      · rename_i hlt
        exact ⟨by omega, rfl, hlt⟩
      · have hstep : monthBefore year (mon + 1) = monthBefore year mon + monthDays year mon :=
          monthBefore_succ (by omega)
        have hrest := ih (mon + 1) (days - monthDays year mon) (by omega) (by omega)
        refine ⟨hrest.1, ?_, hrest.2.2⟩
        rw [hrest.2.1, hstep]
        omega

/-! ## mkgmtime counts the days -/

/-- The fields are those of a date from 1970 on. -/
structure Tm.IsDate (t : Tm) (year mon day : Nat) : Prop where
  tm_year : t.tm_year = (year : Int) - 1900
  tm_mon : t.tm_mon = mon
  tm_mday : t.tm_mday = (day : Int) + 1
  epoch : 1970 ≤ year
  month : mon ≤ 11

/-- The leap day of the year is taken back in the first two months. -/
theorem mkgmtime_days {year : Nat} (hyear : 1970 ≤ year) (mon : Nat) :
    ((year : Int) - 1970) * 365 + cumdays.getD mon 0 + ((year : Int) - 1968).tdiv 4 -
        ((year : Int) - 1900).tdiv 100 + ((year : Int) - 1600).tdiv 400 -
        (if isLeap year = true ∧ mon < 2 then 1 else 0) =
      daysBefore year + monthBefore year mon := by
  rw [Int.tdiv_eq_ediv_of_nonneg (by omega), Int.tdiv_eq_ediv_of_nonneg (by omega),
    Int.tdiv_eq_ediv_of_nonneg (by omega), daysBefore, monthBefore]
  simp only [isLeap, Bool.and_eq_true, Bool.or_eq_true, decide_eq_true_eq]
  split <;> split <;> omega

theorem mkgmtime_of_isDate {t : Tm} {year mon day : Nat} (h : t.IsDate year mon day) :
    mkgmtime t = (((daysBefore year + monthBefore year mon + day) * 24 + t.tm_hour) * 60 + t.tm_min) *
      60 + t.tm_sec := by
  have hepoch := h.epoch
  have hmonth := h.month
  -- the month is less than 12, so it moves no year
  have hyear : 1900 + t.tm_year + t.tm_mon.tdiv 12 = year := by
    have hdiv : t.tm_mon.tdiv 12 = 0 := by
      rw [h.tm_mon]
      exact Int.tdiv_eq_zero_of_lt (by omega) (by omega)
    rw [hdiv, h.tm_year]
    omega
  have hmon : t.tm_mon.tmod 12 = mon := by
    rw [h.tm_mon]
    exact Int.tmod_eq_of_lt (by omega) (by omega)
  have hleap : ((year : Int).tmod 4 = 0 ∧ ((year : Int).tmod 100 ≠ 0 ∨ (year : Int).tmod 400 = 0) ∧
      (mon : Int) < 2) ↔ isLeap year = true ∧ mon < 2 := by
    rw [Int.tmod_eq_emod_of_nonneg (by omega), Int.tmod_eq_emod_of_nonneg (by omega),
      Int.tmod_eq_emod_of_nonneg (by omega)]
    simp only [isLeap, Bool.and_eq_true, Bool.or_eq_true, decide_eq_true_eq]
    omega
  have hdays := mkgmtime_days hepoch mon
  rw [mkgmtime, hyear, hmon, h.tm_mday]
  simp only [Int.toNat_natCast, hleap]
  rw [← hdays]
  split <;> ring

theorem monthBefore_zero (year : Nat) : monthBefore year 0 = 0 := by
  rw [monthBefore, if_neg (by omega)]
  rfl

theorem isDate_gmtime (time : Nat) :
    ∃ year mon day, (gmtime time).IsDate year mon day ∧ day < monthDays year mon ∧
      daysBefore year + monthBefore year mon + day = (time : Int) / 86400 := by
  have hyear := yearOf_spec (time / 86400) (le_refl 1970) (time / 86400)
  have hlt := hyear.2.2 (Nat.le_mul_of_pos_right _ (by decide))
  have hmonth := monthOf_spec (yearOf (time / 86400) 1970 (time / 86400)).1 11 0
    (yearOf (time / 86400) 1970 (time / 86400)).2 rfl (by rw [monthBefore_zero]; omega)
  refine ⟨_, _, _, ⟨rfl, rfl, rfl, hyear.1, hmonth.1⟩, hmonth.2.2, ?_⟩
  have hepoch : daysBefore 1970 = 0 := rfl
  have hdays := hyear.2.1
  have hrest := hmonth.2.1
  rw [monthBefore_zero] at hrest
  rw [hepoch] at hdays
  push_cast at hdays
  omega

/-- `mkgmtime` gives back every time from 1970 on. -/
theorem mkgmtime_gmtime (time : Nat) : mkgmtime (gmtime time) = time := by
  rcases isDate_gmtime time with ⟨year, mon, day, hdate, -, hdays⟩
  have hhour : (gmtime time).tm_hour = (time : Int) % 86400 / 3600 := rfl
  have hmin : (gmtime time).tm_min = (time : Int) % 3600 / 60 := rfl
  have hsec : (gmtime time).tm_sec = (time : Int) % 60 := rfl
  rw [mkgmtime_of_isDate hdate, hdays, hhour, hmin, hsec]
  omega

/-! ## Dates as texts -/

/-- `strftime` with `%Y-%m-%dT%H:%M:%S`. -/
def strftime (t : Tm) : Text :=
  decimal (1900 + t.tm_year) ++ '-' :: (zeroFilled 2 (t.tm_mon + 1) ++ '-' :: (zeroFilled 2 t.tm_mday ++
    'T' :: (zeroFilled 2 t.tm_hour ++ ':' :: (zeroFilled 2 t.tm_min ++ ':' :: zeroFilled 2 t.tm_sec))))

/-- The digits behind the first one, as long as the number stays within `hi`. -/
def moreDigits (hi : Nat) : Nat → Nat → Text → Nat × Text
  | n + 1, val, c :: text =>
      if val * 10 ≤ hi ∧ c.isDigit = true then
        moreDigits hi n (10 * val + (c.toNat - '0'.toNat)) text
      else
        (val, c :: text)
  | _, val, text => (val, text)

/-- A number of at most `n` digits from `lo` to `hi`, as `strptime` reads it. -/
def getNumber (lo hi n : Nat) (text : Text) : Option (Nat × Text) :=
  match text.dropWhile fun c => c = ' ' with
  | [] => none
  | c :: text =>
      if c.isDigit then
        let number := moreDigits hi (n - 1) (c.toNat - '0'.toNat) text
        if lo ≤ number.1 ∧ number.1 ≤ hi then some number else none
      else
        none

/-- A character of the format. -/
def literal (c : Char) : Text → Option Text
  | [] => none
  | d :: text => if d = c then some text else none

/-- `strptime` with `%Y-%m-%dT%H:%M:%S`: the fields, and the text behind the date. -/
def strptime (text : Text) : Option (Tm × Text) := do
  let (year, text) ← getNumber 0 9999 4 text
  let text ← literal '-' text
  let (mon, text) ← getNumber 1 12 2 text
  let text ← literal '-' text
  let (mday, text) ← getNumber 1 31 2 text
  let text ← literal 'T' text
  let (hour, text) ← getNumber 0 23 2 text
  let text ← literal ':' text
  let (min, text) ← getNumber 0 59 2 text
  let text ← literal ':' text
  let (sec, text) ← getNumber 0 61 2 text
  some (⟨(year : Int) - 1900, (mon : Int) - 1, mday, hour, min, sec⟩, text)

/-- The exponent behind the digits of a number. -/
def exponent : Text → Int
  | [] => 0
  | c :: text =>
      if c = 'e' ∨ c = 'E' then
        match text with
        | '-' :: digits => -(Nat.ofDigitChars 10 (digits.takeWhile Char.isDigit) 0 : Int)
        | '+' :: digits => Nat.ofDigitChars 10 (digits.takeWhile Char.isDigit) 0
        | digits => Nat.ofDigitChars 10 (digits.takeWhile Char.isDigit) 0
      else
        0

/-- `strtod` of a text with a point in front. -/
def strtod (text : Text) : ℚ :=
  let digits := text.takeWhile Char.isDigit
  (Nat.ofDigitChars 10 digits 0 : ℚ) / 10 ^ digits.length *
    10 ^ exponent (text.dropWhile Char.isDigit)

/-- `iso8601_to_unix`; none if `strptime` fails, and `tm` is not set. -/
def iso8601ToUnix (isotime : Text) : Option ℚ :=
  (strptime isotime).map fun date =>
    match date with
    | (tm, '.' :: text) => mkgmtime tm + strtod text
    | (tm, _) => mkgmtime tm

/-- `unix_to_iso8601`, from 1970 on. -/
def unixToIso8601 (fixtime : ℚ) (len : Nat) : Text :=
  let timestr := strftime (gmtime ⌊fixtime⌋.toNat)
  let fractstr := percentF 3 (fixtime - ⌊fixtime⌋)
  snprintf len (timestr ++ fractstr.dropWhile (fun c => decide (c ≠ '.')) ++ ['Z'])

/-! ## The date is read back -/

theorem moreDigits_append {hi : Nat} {ds : Text} (hds : ∀ c ∈ ds, c.isDigit = true) {c : Char}
    (hc : c.isDigit = false) {n val : Nat} (hlength : ds.length ≤ n)
    (hval : Nat.ofDigitChars 10 ds val ≤ hi) (text : Text) :
    moreDigits hi n val (ds ++ c :: text) = (Nat.ofDigitChars 10 ds val, c :: text) := by
  induction ds generalizing n val with
  | nil =>
      cases n with
      | zero => rfl
      | succ n =>
          rw [List.nil_append, moreDigits, if_neg fun h => by rw [hc] at h; cases h.2]
          rfl
  | cons d ds ih =>
      cases n with
      | zero => cases hlength
      | succ n =>
          rw [Nat.ofDigitChars_cons] at hval ⊢
          -- the digits that follow make the number no smaller
          have hle : val * 10 ≤ hi := by
            rw [Nat.ofDigitChars_eq_ofDigitChars_zero] at hval
            have hpow : 1 ≤ 10 ^ ds.length := Nat.one_le_pow _ _ (by decide)
            have hmul := Nat.le_mul_of_pos_left (10 * val + (d.toNat - '0'.toNat)) hpow
            omega
          rw [List.cons_append, moreDigits, if_pos ⟨hle, hds d List.mem_cons_self⟩]
          exact ih (fun c hc => hds c (List.mem_cons_of_mem d hc)) (Nat.le_of_succ_le_succ hlength) hval

/-- A number that is printed is read. -/
theorem getNumber_append {lo hi n v : Nat} {ds : Text} (hne : ds ≠ [])
    (hds : ∀ c ∈ ds, c.isDigit = true) (hlength : ds.length ≤ n) (hv : Nat.ofDigitChars 10 ds 0 = v)
    (hlo : lo ≤ v) (hhi : v ≤ hi) {c : Char} (hc : c.isDigit = false) (text : Text) :
    getNumber lo hi n (ds ++ c :: text) = some (v, c :: text) := by
  cases ds with
  | nil => exact absurd rfl hne
  | cons d ds =>
      have hdigit : d.isDigit = true := hds d List.mem_cons_self
      -- `strptime` skips blanks only
      have hspace : ¬ (d = ' ') := by
        rintro rfl
        cases hdigit
      rw [Nat.ofDigitChars_cons, Nat.mul_zero, Nat.zero_add] at hv
      have hmore : moreDigits hi (n - 1) (d.toNat - '0'.toNat) (ds ++ c :: text) = (v, c :: text) := by
        rw [moreDigits_append (fun c hc => hds c (List.mem_cons_of_mem d hc)) hc
          (Nat.le_sub_one_of_lt hlength) (hv.trans_le hhi), hv]
      rw [getNumber, List.cons_append, List.dropWhile_cons_of_neg (by simpa using hspace)]
      simp only [hdigit, if_true, hmore, if_pos (And.intro hlo hhi)]

theorem zeroFilled_natCast (w n : Nat) : zeroFilled w (n : Int) = zeroPad w n := by
  rw [zeroFilled, if_neg (by omega), Int.natAbs_natCast]

theorem getNumber_zeroFilled {lo hi v : Nat} (hlo : lo ≤ v) (hhi : v ≤ hi) (hv : v < 100) {c : Char}
    (hc : c.isDigit = false) (text : Text) :
    getNumber lo hi 2 (zeroFilled 2 (v : Int) ++ c :: text) = some (v, c :: text) := by
  have hlength : (zeroPad 2 v).length = 2 := length_zeroPad (by decide) hv
  rw [zeroFilled_natCast]
  refine getNumber_append (fun hnil => ?_) (fun c hc => isDigit_of_mem_zeroPad hc) hlength.le
    (ofDigitChars_zeroPad 2 v) hlo hhi hc text
  rw [hnil] at hlength
  cases hlength

theorem getNumber_decimal {year : Nat} (hyear : year ≤ 9999) {c : Char} (hc : c.isDigit = false)
    (text : Text) :
    getNumber 0 9999 4 (decimal (year : Int) ++ c :: text) = some (year, c :: text) := by
  have hlength : (Nat.toDigits 10 year).length ≤ 4 :=
    (Nat.length_toDigits_le_iff (by decide) (by decide)).2 (Nat.lt_succ_of_le hyear)
  rw [decimal_natCast]
  exact getNumber_append Nat.toDigits_ne_nil (fun c hc => isDigit_of_mem_toDigits hc) hlength
    Nat.ofDigitChars_ten_toDigits (Nat.zero_le _) hyear hc text

theorem strptime_strftime {year mon mday hour min sec : Nat} (hyear : year ≤ 9999) (hmon : mon ≤ 11)
    (hmday : mday + 1 ≤ 31) (hhour : hour ≤ 23) (hmin : min ≤ 59) (hsec : sec ≤ 59) (text : Text) :
    strptime (strftime ⟨(year : Int) - 1900, mon, (mday : Int) + 1, hour, min, sec⟩ ++ '.' :: text) =
      some (⟨(year : Int) - 1900, mon, (mday : Int) + 1, hour, min, sec⟩, '.' :: text) := by
  have hfields : (1900 : Int) + ((year : Int) - 1900) = (year : Int) ∧
      (mon : Int) + 1 = ((mon + 1 : Nat) : Int) ∧ (mday : Int) + 1 = ((mday + 1 : Nat) : Int) := by
    omega
  rw [strftime, hfields.1, hfields.2.1, hfields.2.2, strptime]
  simp only [List.append_assoc, List.cons_append]
  -- field after field: a number, and the character behind it
  rw [getNumber_decimal hyear rfl]
  simp only [Option.bind_eq_bind, Option.bind_some, literal, if_true]
  rw [getNumber_zeroFilled (Nat.le_add_left 1 mon) (by omega) (by omega) rfl]
  simp only [Option.bind_some, if_true]
  rw [getNumber_zeroFilled (Nat.le_add_left 1 mday) (by omega) (by omega) rfl]
  simp only [Option.bind_some, if_true]
  rw [getNumber_zeroFilled (Nat.zero_le hour) (by omega) (by omega) rfl]
  simp only [Option.bind_some, if_true]
  rw [getNumber_zeroFilled (Nat.zero_le min) (by omega) (by omega) rfl]
  simp only [Option.bind_some, if_true]
  rw [getNumber_zeroFilled (Nat.zero_le sec) (by omega) (by omega) rfl]
  simp only [Option.bind_some]
  congr 3
  omega

/-! ## The time that comes back -/

/-- Below a thousand, only what is half a unit from it is rounded up to it. -/
theorem roundHalfEven_lt_iff {x : ℚ} (hpos : 0 ≤ x) (hlt : x < 1000) :
    (roundHalfEven x < 1000 ↔ x < 1999 / 2) ∧ roundHalfEven x ≤ 1000 := by
  have hden : 0 < x.den := x.den_pos
  have hx : x = (x.num.toNat : ℚ) / x.den := by
    have hnum : ((x.num.toNat : Int) : ℚ) = x.num := by
      rw [Int.toNat_of_nonneg (Rat.num_nonneg.2 hpos)]
    calc
      x = (x.num : ℚ) / x.den := (Rat.num_div_den x).symm
      _ = (x.num.toNat : ℚ) / x.den := by rw [← hnum]; rfl
  have hdenq : (0 : ℚ) < x.den := by exact_mod_cast hden
  have hbound : x.num.toNat < 1000 * x.den := by
    rw [hx, div_lt_iff₀ hdenq] at hlt
    exact_mod_cast hlt
  have hhalf : x < 1999 / 2 ↔ 2 * x.num.toNat < 1999 * x.den := by
    have hdiv : (x.num.toNat : ℚ) / x.den < 1999 / 2 ↔
        (2 : ℚ) * x.num.toNat < 1999 * x.den := by
      rw [div_lt_div_iff₀ hdenq (by norm_num), mul_comm (x.num.toNat : ℚ) 2]
    rw [← hx] at hdiv
    rw [hdiv]
    exact_mod_cast Iff.rfl
  -- from here on in whole numbers, the numerator against the denominator
  have hdivmod : x.den * (x.num.toNat / x.den) + x.num.toNat % x.den = x.num.toNat :=
    Nat.div_add_mod _ _
  have hrest : x.num.toNat % x.den < x.den := Nat.mod_lt _ hden
  have hwhole : x.num.toNat / x.den < 1000 := (Nat.div_lt_iff_lt_mul hden).2 hbound
  rw [hhalf]
  unfold roundHalfEven
  simp only
  by_cases hlast : x.num.toNat / x.den = 999
  · rw [hlast] at hdivmod ⊢
    split
    · omega
    · split
      · omega
      · rw [if_neg (by decide)]
        omega
  · have hmul : x.den * (x.num.toNat / x.den) ≤ x.den * 998 :=
      Nat.mul_le_mul_left _ (by omega)
    split
    · omega
    · split
      · omega
      · split <;> omega

/-- What is behind the point of the fraction that is printed. -/
theorem dropWhile_percentF {q : ℚ} (hpos : 0 ≤ q) :
    (percentF 3 q).dropWhile (fun c => decide (c ≠ '.')) =
      '.' :: zeroPad 3 (roundHalfEven (q * 1000) % 1000) := by
  have hfront : ∀ c ∈ Nat.toDigits 10 (roundHalfEven (q * 1000) / 1000), decide (c ≠ '.') = true := by
    intro c hc
    have hdigit := isDigit_of_mem_toDigits hc
    refine decide_eq_true ?_
    rintro rfl
    cases hdigit
  have hthousand : (10 : ℚ) ^ 3 = 1000 := by norm_num
  rw [percentF, if_neg (not_lt.2 hpos), abs_of_nonneg hpos, hthousand, List.nil_append, fixedDigits]
  exact List.dropWhile_append_of_pos hfront

theorem strtod_zeroPad {n : Nat} (hn : n < 1000) :
    strtod (zeroPad 3 n ++ ['Z']) = (n : ℚ) / 1000 := by
  have hdigits : ∀ c ∈ zeroPad 3 n, c.isDigit = true := fun c hc => isDigit_of_mem_zeroPad hc
  have htake : (zeroPad 3 n ++ ['Z']).takeWhile Char.isDigit = zeroPad 3 n := by
    rw [List.takeWhile_append_of_pos hdigits]
    exact List.append_nil _
  have hdrop : (zeroPad 3 n ++ ['Z']).dropWhile Char.isDigit = ['Z'] := by
    rw [List.dropWhile_append_of_pos hdigits]
    rfl
  have hexponent : exponent ['Z'] = 0 := rfl
  rw [strtod, htake, hdrop, hexponent, ofDigitChars_zeroPad, length_zeroPad (by decide) hn]
  norm_num

theorem monthDays_le (year mon : Nat) : monthDays year mon ≤ 31 := by
  have hlist : ∀ mon, [31, 28, 31, 30, 31, 30, 31, 31, 30, 31, 30, 31].getD mon 0 ≤ 31 := by
    intro mon
    by_cases hmon : mon < 12
    · interval_cases mon <;> decide
    · rw [List.getD_eq_getElem?_getD, List.getElem?_eq_none (Nat.not_lt.1 hmon)]
      decide
  unfold monthDays
  split
  · split <;> decide
  · exact hlist mon

/-- The dates before the year 10000 have four digits for the year. -/
theorem year_le {time year mon day : Nat} (htime : time < 253402300800) (hmon : mon ≤ 11)
    (hdays : daysBefore year + monthBefore year mon + day = (time : Int) / 86400) : year ≤ 9999 := by
  have hmonth : 0 ≤ monthBefore year mon := by
    unfold monthBefore
    interval_cases mon <;> split <;> decide
  by_contra hyear
  simp only [daysBefore] at hdays
  omega

theorem length_strftime {year mon mday hour min sec : Nat} (hyear : year ≤ 9999) (hmon : mon ≤ 11)
    (hmday : mday + 1 ≤ 31) (hhour : hour ≤ 23) (hmin : min ≤ 59) (hsec : sec ≤ 59) :
    (strftime ⟨(year : Int) - 1900, mon, (mday : Int) + 1, hour, min, sec⟩).length ≤ 19 := by
  have hfields : (1900 : Int) + ((year : Int) - 1900) = (year : Int) ∧
      (mon : Int) + 1 = ((mon + 1 : Nat) : Int) ∧ (mday : Int) + 1 = ((mday + 1 : Nat) : Int) := by
    omega
  have htwo : ∀ n : Nat, n < 100 → (zeroFilled 2 (n : Int)).length = 2 := by
    intro n hn
    rw [zeroFilled_natCast]
    exact length_zeroPad (by decide) hn
  have hfour : (decimal (year : Int)).length ≤ 4 := by
    rw [decimal_natCast]
    exact (Nat.length_toDigits_le_iff (by decide) (by decide)).2 (Nat.lt_succ_of_le hyear)
  rw [strftime, hfields.1, hfields.2.1, hfields.2.2]
  simp only [List.length_append, List.length_cons]
  rw [htwo _ (by omega), htwo _ (by omega), htwo _ (by omega), htwo _ (by omega), htwo _ (by omega)]
  omega

/-- The date of a time before the year 10000 is read back, whatever stands behind its point. -/
theorem strptime_gmtime {time : Nat} (htime : time < 253402300800) :
    (strftime (gmtime time)).length ≤ 19 ∧
      ∀ text, strptime (strftime (gmtime time) ++ '.' :: text) = some (gmtime time, '.' :: text) := by
  rcases isDate_gmtime time with ⟨year, mon, day, hdate, hday, hdays⟩
  have hyear : year ≤ 9999 := year_le htime hdate.month hdays
  have hmday : day + 1 ≤ 31 := hday.trans_le (monthDays_le year mon)
  have hgmtime : gmtime time = ⟨(year : Int) - 1900, mon, (day : Int) + 1, (time % 86400 / 3600 : Nat),
      (time % 3600 / 60 : Nat), (time % 60 : Nat)⟩ := by
    rw [← hdate.tm_year, ← hdate.tm_mon, ← hdate.tm_mday]
    push_cast
    rfl
  rw [hgmtime]
  exact ⟨length_strftime hyear hdate.month hmday (by omega) (by omega) (by omega),
    strptime_strftime hyear hdate.month hmday (by omega) (by omega) (by omega)⟩

/-- A time before the year 10000 comes back in milliseconds, unless its fraction is so near to the next
second that it is printed as a whole one: what stands in front of the point is left out, and the time
that comes back lacks that second. -/
theorem iso8601ToUnix_unixToIso8601 {fixtime : ℚ} (hpos : 0 ≤ fixtime)
    (hyear : fixtime < 253402300800) {len : Nat} (hlen : 24 < len) :
    iso8601ToUnix (unixToIso8601 fixtime len) =
      some (⌊fixtime⌋ +
        if fixtime - ⌊fixtime⌋ < 9995 / 10000 then roundTo 3 (fixtime - ⌊fixtime⌋) else 0) := by
  have hfract : 0 ≤ fixtime - ⌊fixtime⌋ := Int.fract_nonneg fixtime
  have hone : fixtime - ⌊fixtime⌋ < 1 := Int.fract_lt_one fixtime
  have hfloor : ((⌊fixtime⌋.toNat : Nat) : Int) = ⌊fixtime⌋ :=
    Int.toNat_of_nonneg (Int.floor_nonneg.2 hpos)
  have htime : ⌊fixtime⌋.toNat < 253402300800 := by
    have hlt : ⌊fixtime⌋ < 253402300800 := Int.floor_lt.2 (by exact_mod_cast hyear)
    omega
  rcases strptime_gmtime htime with ⟨hlength, hread⟩
  have hmod : roundHalfEven ((fixtime - ⌊fixtime⌋) * 1000) % 1000 < 1000 := Nat.mod_lt _ (by decide)
  -- 19 characters, the point, three digits and the Z
  have htext : unixToIso8601 fixtime len = strftime (gmtime ⌊fixtime⌋.toNat) ++
      '.' :: (zeroPad 3 (roundHalfEven ((fixtime - ⌊fixtime⌋) * 1000) % 1000) ++ ['Z']) := by
    rw [unixToIso8601, dropWhile_percentF hfract, List.append_assoc, List.cons_append]
    refine snprintf_of_length_lt ?_
    rw [List.length_append, List.length_cons, List.length_append, length_zeroPad (by decide) hmod,
      List.length_singleton]
    omega
  have hround := roundHalfEven_lt_iff (x := (fixtime - ⌊fixtime⌋) * 1000) (by linarith) (by linarith)
  have hvalue : ((roundHalfEven ((fixtime - ⌊fixtime⌋) * 1000) % 1000 : Nat) : ℚ) / 1000 =
      if fixtime - ⌊fixtime⌋ < 9995 / 10000 then roundTo 3 (fixtime - ⌊fixtime⌋) else 0 := by
    by_cases hnear : fixtime - ⌊fixtime⌋ < 9995 / 10000
    · have hthousand : (10 : ℚ) ^ 3 = 1000 := by norm_num
      rw [if_pos hnear, Nat.mod_eq_of_lt (hround.1.2 (by linarith)), roundTo, if_neg (not_lt.2 hfract),
        abs_of_nonneg hfract, hthousand]
    · have hfull : ¬ roundHalfEven ((fixtime - ⌊fixtime⌋) * 1000) < 1000 := by
        rw [hround.1]
        linarith
      -- printed as 1.000, of which the 1 is left out
      have hnumber : roundHalfEven ((fixtime - ⌊fixtime⌋) * 1000) = 1000 :=
        Nat.le_antisymm hround.2 (Nat.not_lt.1 hfull)
      rw [if_neg hnear, hnumber]
      norm_num
  rw [iso8601ToUnix, htext, hread, Option.map_some]
  simp only
  rw [strtod_zeroPad hmod, mkgmtime_gmtime, hfloor, hvalue]

/-! ## The time of a fix -/

/-- Exact numbers; none is no number. -/
def exactFloats : Floats (Option ℚ) where
  nan := none
  zero := some 0
  isnan x := x.isNone
  fixed k x :=
    match x with
    | none => "nan".toList
    | some q => percentF k q
  unix_to_iso8601 x :=
    match x with
    | none => []
    | some fixtime => unixToIso8601 fixtime (JSON_DATE_MAX + 1)

theorem mem_percentF {k : Nat} {q : ℚ} {c : Char} (hc : c ∈ percentF k q) :
    c.isDigit = true ∨ c ∈ "-.".toList := by
  rw [percentF, fixedDigits] at hc
  rcases List.mem_append.1 hc with hc | hc
  · split at hc
    · rw [List.mem_singleton.1 hc]
      exact .inr (by decide)
    · cases hc
  · rcases List.mem_append.1 hc with hc | hc
    · exact .inl (isDigit_of_mem_toDigits hc)
    · rcases List.mem_cons.1 hc with rfl | hc
      · exact .inr (by decide)
      · exact .inl (isDigit_of_mem_zeroPad hc)

/-- Digits, and what stands between them. -/
def IsDateChar (c : Char) : Prop :=
  c.isDigit = true ∨ c ∈ "-T:.Z".toList

theorem isDateChar_strftime (t : Tm) : ∀ c ∈ strftime t, IsDateChar c := by
  have hminus : IsDateChar '-' := .inr (by decide)
  have hcolon : IsDateChar ':' := .inr (by decide)
  have hyear : ∀ n : Int, ∀ c ∈ decimal n, IsDateChar c := by
    intro n c hc
    rcases mem_decimal hc with rfl | hdigit
    · exact hminus
    · exact .inl hdigit
  have htwo : ∀ n : Int, ∀ c ∈ zeroFilled 2 n, IsDateChar c := by
    intro n c hc
    rcases mem_zeroFilled hc with rfl | hdigit
    · exact hminus
    · exact .inl hdigit
  simp only [strftime, List.forall_mem_append, List.forall_mem_cons]
  exact ⟨hyear _, hminus, htwo _, hminus, htwo _, .inr (by decide), htwo _, hcolon, htwo _, hcolon,
    htwo _⟩

theorem isDateChar_unixToIso8601 (fixtime : ℚ) (len : Nat) :
    ∀ c ∈ unixToIso8601 fixtime len, IsDateChar c := by
  have hpoint : "-.".toList ⊆ "-T:.Z".toList := by decide
  have hfract : ∀ c ∈ (percentF 3 (fixtime - ⌊fixtime⌋)).dropWhile (fun c => decide (c ≠ '.')),
      IsDateChar c := fun c hc =>
    (mem_percentF ((List.dropWhile_suffix _).subset hc)).imp id fun hmem => hpoint hmem
  have hwhole : ∀ c ∈ strftime (gmtime ⌊fixtime⌋.toNat) ++
      (percentF 3 (fixtime - ⌊fixtime⌋)).dropWhile (fun c => decide (c ≠ '.')) ++ ['Z'],
      IsDateChar c := by
    simp only [List.forall_mem_append, List.forall_mem_singleton]
    exact ⟨⟨isDateChar_strftime _, hfract⟩, .inr (by decide)⟩
  exact fun c hc => hwhole c (List.mem_of_mem_take hc)

theorem exactFloats_printing : exactFloats.Printing where
  fixed_ne_nil k x := by
    cases x with
    | none => exact List.cons_ne_nil _ _
    | some q => exact percentF_ne_nil k q
  fixed_number k x hx c hc := by
    cases x with
    | none => cases hx
    | some q =>
        rcases mem_percentF hc with hdigit | hmem
        · exact .inl hdigit
        · refine .inr ((?_ : "-.".toList ⊆ "-.inf".toList) hmem)
          decide
  date x hx := by
    cases x with
    | none => cases hx
    | some fixtime =>
        -- neither quotes nor backslashes, nor what ends a text
        have hnot : ∀ c, c.isDigit = false → c ∉ "-T:.Z".toList →
            c ∉ unixToIso8601 fixtime (JSON_DATE_MAX + 1) := by
          intro c hdigit hmem hc
          rcases isDateChar_unixToIso8601 _ _ c hc with h | h
          · rw [hdigit] at h
            cases h
          · exact hmem h
        exact ⟨hnot _ rfl (by decide), hnot _ rfl (by decide), hnot _ rfl (by decide),
          hnot _ rfl (by decide)⟩
  length_date x := by
    cases x with
    | none => exact Nat.zero_le _
    | some fixtime => exact Nat.le_of_lt_succ (length_snprintf_lt (by decide) _)
  isnan_nan := rfl
  isnan_zero := rfl

/-- The time of the fix of a device, as a client has it: in milliseconds, if gpsd's clock is not within
half a millisecond of the next second, and nearly a second too early if it is. -/
theorem time_jsonTpvRead_jsonTpvDump {host : Host (Option ℚ)}
    (hhost : host.iso8601_to_unix = iso8601ToUnix) {d : GpsData (Option ℚ)} (hd : d.Plain exactFloats)
    {fixtime : ℚ} (htime : d.fix.time = some fixtime) (hpos : 0 ≤ fixtime)
    (hyear : fixtime < 253402300800) {replylen : Nat} (hmax : replylen < 2 ^ 63)
    (hroom : (tpvText exactFloats d).length + 3 < replylen) (c : GpsData (Option ℚ)) :
    ∃ reply c', jsonTpvDump exactFloats d replylen = some reply ∧
      jsonTpvRead host exactFloats.nan reply c = (.done [], c') ∧
      c'.fix.time = some (⌊fixtime⌋ +
        if fixtime - ⌊fixtime⌋ < 9995 / 10000 then roundTo 3 (fixtime - ⌊fixtime⌋) else 0) := by
  refine ⟨_, _, jsonTpvDump_of_lt exactFloats hmax hroom,
    jsonTpvRead_tpvText exactFloats_printing hd c ['\r', '\n'], ?_⟩
  have hnumber : exactFloats.isnan d.fix.time = false := by
    rw [htime]
    rfl
  have hdate : exactFloats.unix_to_iso8601 d.fix.time = unixToIso8601 fixtime (JSON_DATE_MAX + 1) := by
    rw [htime]
    rfl
  simp only [Fix.received, hnumber, hdate, hhost]
  exact iso8601ToUnix_unixToIso8601 hpos hyear (by decide)

/-- A device that has the time, and no fix yet; it is near to the next second. -/
def exactData : GpsData (Option ℚ) :=
  { gpsOpen exactFloats with
    fix := { gpsClearFix exactFloats with
      time := some (1290960000 + 9996 / 10000)
      mode := MODE_NO_FIX } }

theorem time_jsonTpvRead_jsonTpvDump_near :
    ∃ reply c', jsonTpvDump exactFloats exactData 4096 = some reply ∧
      jsonTpvRead (⟨fun _ => none, iso8601ToUnix, '?'⟩ : Host (Option ℚ)) exactFloats.nan reply
        (gpsOpen exactFloats) = (.done [], c') ∧
      c'.fix.time = some 1290960000 := by
  have hhost : (⟨fun _ => none, iso8601ToUnix, '?'⟩ : Host (Option ℚ)).iso8601_to_unix = iso8601ToUnix :=
    rfl
  have hplain : exactData.Plain exactFloats :=
    ⟨by decide, by decide, by decide, by decide, by decide, by decide, by decide, by decide +kernel⟩
  have hroom : (tpvText exactFloats exactData).length + 3 < 4096 := by decide +kernel
  have hfloor : ⌊(1290960000 + 9996 / 10000 : ℚ)⌋ = 1290960000 := by
    rw [Int.floor_eq_iff]
    norm_num
  have hvalue : (((1290960000 : Int) : ℚ) +
      if (1290960000 + 9996 / 10000 : ℚ) - ((1290960000 : Int) : ℚ) < 9995 / 10000 then
        roundTo 3 ((1290960000 + 9996 / 10000 : ℚ) - ((1290960000 : Int) : ℚ)) else 0) = 1290960000 := by
    rw [if_neg (by norm_num)]
    norm_num
  rcases time_jsonTpvRead_jsonTpvDump hhost hplain rfl (by norm_num) (by norm_num) (by decide) hroom
    (gpsOpen exactFloats) with ⟨reply, c', hdump, hread, htime⟩
  rw [hfloor, hvalue] at htime
  exact ⟨reply, c', hdump, hread, htime⟩

end Gpsd
end ResourceAccounting
