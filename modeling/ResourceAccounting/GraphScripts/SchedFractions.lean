import ResourceAccounting.GraphScripts.SchedAvg
import ResourceAccounting.Schedules.Exec

/-!
# SchedFractions — are the values of schedAvg.py fractions of a second?

What schedAvg.py writes is meant to be the part of each second that cgps has had, and the part of
the used time that gpsd has had.  A carry of cgps breaks this in two ways: it goes one slot on only, so
that an interval of several seconds makes a slot longer than a second, and it sets the used time of
the next slot to the length of the interval less one, which is negative for a short interval.

The numbers are the floats that Python computes with, with rounding, `inf` and `nan`.

- `Fractions` — what should hold of the tables after every line;
- `Fits` — the lines that keep it;
- `areFractions_iff` — the values are fractions exactly in the runs whose lines fit.
-/

namespace ResourceAccounting
namespace GraphScripts

open Python Schedules

namespace SchedState

/-! ## The demand -/

/-- The tables hold fractions of a second, and gpsd has not had more than has been used. -/
structure Fractions (s : SchedState Double Double) : Prop where
  cgps_nonneg : ∀ slot, 0 ≤ s.cgpsTimes.value slot
  cgps_le_one : ∀ slot, s.cgpsTimes.value slot ≤ 1
  gpsd_nonneg : ∀ slot, 0 ≤ s.gpsdTimes.value slot
  gpsd_le_total : ∀ slot, s.gpsdTimes.value slot ≤ s.totalTimes.value slot
  total_le_one : ∀ slot, s.totalTimes.value slot ≤ 1

/-- `time - prevtime` -/
def interval (s : SchedState Double Double) (line : SchedLine Double) : Double :=
  line.time - s.time

/-- The time of cgps in the slot once the line has been added. -/
def filled (s : SchedState Double Double) (line : SchedLine Double) : Double :=
  s.cgpsTimes.value s.time.floor + s.interval line

/-- The interval is a number, and a line of cgps brings the time in its slot to a second at most; or to
two at most, and its interval is no shorter than one.  Where the number after the slot is the slot
itself, there is no next slot into which too much could be carried. -/
def Fits (s : SchedState Double Double) (line : SchedLine Double) : Prop :=
  s.time.floor ≠ 0 → (s.interval line).IsNumber ∧ (line.isCgps = true →
    s.filled line ≤ 1 ∨ s.time.floor + 1 = s.time.floor ∨
      (1 ≤ s.interval line ∧ s.filled line ≤ 2))

instance (s : SchedState Double Double) (line : SchedLine Double) : Decidable (s.Fits line) :=
  inferInstanceAs (Decidable (_ → _))

/-- `avg`, the value that is written for cgps. -/
def avg (s : SchedState Double Double) (key : Double) : Double :=
  s.cgpsTimes.value key

/-- `avg2`, the ratio that is written for gpsd. -/
def avg2 (s : SchedState Double Double) (key : Double) : Double :=
  match s.gpsdTimes.lookup key with
  | none => 0
  -- 0 after a `ZeroDivisionError`
  | some gpsdTime => (gpsdTime.div? (s.totalTimes.value key)).getD 0

end SchedState

open SchedState

/-- The tables hold fractions after every line, and fractions are written. -/
def AreFractions (lines : List (SchedLine Double)) : Prop :=
  (∀ front, front <+: lines → (front.foldl step init).Fractions) ∧
    ∀ key ∈ (lines.foldl step init).totalTimes,
      (0 ≤ (lines.foldl step init).avg key ∧ (lines.foldl step init).avg key ≤ 1) ∧
        0 ≤ (lines.foldl step init).avg2 key ∧ (lines.foldl step init).avg2 key ≤ 1

namespace SchedState

variable {s : SchedState Double Double} {line : SchedLine Double}

theorem Fractions.avg2_mem (h : s.Fractions) (key : Double) : 0 ≤ s.avg2 key ∧ s.avg2 key ≤ 1 := by
  unfold avg2
  cases hlookup : s.gpsdTimes.lookup key with
  | none => exact ⟨Double.zero_le_zero, Double.zero_le_one⟩
  | some gpsdTime =>
      have hvalue : s.gpsdTimes.value key = gpsdTime := by
        rw [Dict.value, hlookup, Option.getD_some]
      have hnonneg := h.gpsd_nonneg key
      have hle := h.gpsd_le_total key
      rw [hvalue] at hnonneg hle
      exact Double.div?_mem hnonneg hle (h.total_le_one key)

/-! ## One second at most -/

variable {v w : Double}

theorem cap_nonneg (h : 0 ≤ v) : 0 ≤ cap v := by
  unfold cap
  split
  · exact Double.zero_le_one
  · exact h

theorem cap_eq_one (h : 1 ≤ v) : cap v = 1 := by
  unfold cap
  split
  · rfl
  · next hlt =>
      have hnumbers := Double.isNumber_of_le h
      exact Double.le_antisymm ((Double.le_or_lt hnumbers.2 hnumbers.1).resolve_right hlt) h

theorem cap_mono (h : v ≤ w) : cap v ≤ cap w := by
  have hone := (Double.isNumber_of_le Double.zero_le_one).2
  rcases Double.le_or_lt hone (Double.isNumber_of_le h).2 with hle | hlt
  · rw [cap_eq_one hle]
    unfold cap
    split
    · exact Double.le_refl_of_isNumber hone
    · next hnot => exact (Double.le_or_lt (Double.isNumber_of_le h).1 hone).resolve_right hnot
  · have hcap : cap w = w := if_neg (Double.not_lt_of_le (Double.le_of_lt hlt))
    have hcap' : cap v = v :=
      if_neg (Double.not_lt_of_le (Double.le_trans h (Double.le_of_lt hlt)))
    rwa [hcap, hcap']

theorem cap_le_one (hv : v.IsNumber) : cap v ≤ 1 := by
  have hone := (Double.isNumber_of_le Double.zero_le_one).2
  unfold cap
  split
  · exact Double.le_refl_of_isNumber hone
  · next hnot => exact (Double.le_or_lt hv hone).resolve_right hnot

/-! ## The tables after a line -/

/-- A carry happens. -/
def Carries (s : SchedState Double Double) (line : SchedLine Double) : Prop :=
  s.Charges line ∧ 1 < s.filled line

theorem value_cgpsTimes_step_of_carries (hcarry : s.Carries line) (k : Double) :
    (s.step line).cgpsTimes.value k =
      if k = s.time.floor then 1 else if k = s.time.floor + 1 then s.filled line - 1
      else s.cgpsTimes.value k := by
  have hlt : 1 < s.cgpsTimes.value s.time.floor + (line.time - s.time) := hcarry.2
  have hstep : (s.step line).cgpsTimes =
      (s.seeCgps s.time.floor (line.time - s.time)).cgpsTimes := cgpsTimes_step hcarry.1
  rw [hstep, value_cgpsTimes_seeCgps]
  simp only [hlt, and_true, cap, if_true, filled, interval]

theorem value_cgpsTimes_step_of_not (hcarry : ¬ s.Carries line) (k : Double) :
    (s.step line).cgpsTimes.value k =
      if s.Charges line ∧ k = s.time.floor then s.filled line else s.cgpsTimes.value k := by
  by_cases hcharges : s.Charges line
  · have hle : ¬ 1 < s.cgpsTimes.value s.time.floor + (line.time - s.time) :=
      fun hlt => hcarry ⟨hcharges, hlt⟩
    have hstep : (s.step line).cgpsTimes =
        (s.seeCgps s.time.floor (line.time - s.time)).cgpsTimes := cgpsTimes_step hcharges
    rw [hstep, value_cgpsTimes_seeCgps]
    simp only [hle, and_false, if_false, cap, hcharges, true_and, filled, interval]
  · rw [cgpsTimes_step_of_not hcharges, if_neg (fun h => hcharges h.1)]

theorem gpsdTimes_step (hslot : s.time.floor ≠ 0) (k : Double) :
    (s.step line).gpsdTimes.value k =
      if line.isGpsd = true ∧ k = s.time.floor then
        cap (s.gpsdTimes.value s.time.floor + s.interval line)
      else s.gpsdTimes.value k := by
  have hcgps : ∀ s' : SchedState Double Double, (if line.isCgps = true then
      s'.seeCgps (s.time.floor) (line.time - s.time) else s').gpsdTimes = s'.gpsdTimes := by
    intro s'
    split
    · exact gpsdTimes_seeCgps _ _ _
    · rfl
  simp only [step, floor_double, hslot, if_false, gpsdTimes_seeTotal]
  cases line.isGpsd with
  | true => simp only [if_true, true_and, seeGpsd, hcgps, value_clamp_increase, interval]
  | false => simp only [Bool.false_eq_true, false_and, if_false, hcgps]

/-- Without a carry only the slot itself changes. -/
theorem totalTimes_step_of_not (hslot : s.time.floor ≠ 0) (hcarry : ¬ s.Carries line) (k : Double) :
    (s.step line).totalTimes.value k =
      if k = s.time.floor then cap (s.totalTimes.value s.time.floor + s.interval line)
      else s.totalTimes.value k := by
  have hcgps : ∀ k, (if line.isCgps = true then
      { s with time := line.time }.seeCgps (s.time.floor) (line.time - s.time)
      else { s with time := line.time }).totalTimes.value k = s.totalTimes.value k := by
    intro k
    split
    · next hname =>
        have hfilled : ¬ 1 < s.cgpsTimes.value (s.time.floor) + (line.time - s.time) :=
          fun hlt => hcarry ⟨⟨hslot, hname⟩, hlt⟩
        rw [value_totalTimes_seeCgps, if_neg hfilled]
    · rfl
  simp only [step, floor_double, hslot, if_false, seeTotal, value_clamp_increase]
  cases line.isGpsd with
  | true => simp only [if_true, totalTimes_seeGpsd, hcgps, interval]
  | false => simp only [Bool.false_eq_true, if_false, hcgps, interval]

/-- A carry fills the slot and sets the next one, which can be the same; then the interval is added. -/
theorem totalTimes_step_of_carries (hcarry : s.Carries line) (k : Double) :
    (s.step line).totalTimes.value k =
      if k = s.time.floor then
        cap ((if s.time.floor = s.time.floor + 1 then s.interval line - 1 else 1) + s.interval line)
      else if k = s.time.floor + 1 then s.interval line - 1
      else s.totalTimes.value k := by
  have hcgps : ∀ k, ({ s with time := line.time }.seeCgps (s.time.floor)
      (line.time - s.time)).totalTimes.value k =
        if k = s.time.floor + 1 then s.interval line - 1
        else if k = s.time.floor then 1 else s.totalTimes.value k :=
    fun k => (value_totalTimes_seeCgps _ _ _ k).trans (if_pos hcarry.2)
  -- gpsd has no part in it
  have hgpsd : ∀ s' : SchedState Double Double, (if line.isGpsd = true then
      s'.seeGpsd (s.time.floor) (line.time - s.time) else s').totalTimes =
        s'.totalTimes := by
    intro s'
    split <;> rfl
  have hslot : s.time.floor ≠ 0 := hcarry.1.1
  simp only [step, floor_double, hslot, hcarry.1.2, if_false, if_true, seeTotal, value_clamp_increase]
  rw [hgpsd, hcgps, hcgps]
  by_cases hk : k = s.time.floor
  · rw [if_pos hk, if_pos hk, if_pos rfl, interval]
  · rw [if_neg hk, if_neg hk, if_neg hk]

/-! ## The lines that keep the values fractions -/

/-- gpsd has no time in a slot that has not begun. -/
def Fresh (s : SchedState Double Double) : Prop :=
  ∀ k, s.time.floor < k → s.gpsdTimes.value k = 0

theorem fresh_step (h : s.Fresh) (hle : s.time ≤ line.time) : (s.step line).Fresh := by
  intro k hk
  rw [time_step] at hk
  have hfloor : s.time.floor < k := Double.lt_of_le_of_lt (Double.floor_mono hle) hk
  by_cases hslot : s.time.floor = 0
  · rw [step_of_floor_eq_zero hslot]
    exact h k hfloor
  · have hne : k ≠ s.time.floor := (Double.ne_of_lt hfloor).symm
    rw [gpsdTimes_step hslot, if_neg (fun hname => hne hname.2)]
    exact h k hfloor

/-- The table of gpsd stays between 0 and 1. -/
theorem gpsdTimes_step_nonneg (hslot : s.time.floor ≠ 0) (hf : s.Fractions)
    (hinterval : 0 ≤ s.interval line) (k : Double) : 0 ≤ (s.step line).gpsdTimes.value k := by
  rw [gpsdTimes_step hslot]
  split
  · exact cap_nonneg (Double.add_nonneg (hf.gpsd_nonneg _) hinterval)
  · exact hf.gpsd_nonneg k

theorem gpsdTimes_step_le_one (hslot : s.time.floor ≠ 0) (hf : s.Fractions)
    (hinterval : 0 ≤ s.interval line) (k : Double) : (s.step line).gpsdTimes.value k ≤ 1 := by
  rw [gpsdTimes_step hslot]
  split
  · have hsum := Double.add_nonneg (hf.gpsd_nonneg s.time.floor) hinterval
    exact cap_le_one (Double.isNumber_of_le hsum).2
  · exact Double.le_trans (hf.gpsd_le_total k) (hf.total_le_one k)

/-- In a slot after which no other number comes, a carry has an interval of a second at least. -/
theorem one_le_interval_of_carries (hf : s.Fractions) (hle : s.time ≤ line.time)
    (hcarry : s.Carries line) (hnumber : (s.interval line).IsNumber)
    (hsame : s.time.floor + 1 = s.time.floor) : 1 ≤ s.interval line := by
  rcases Double.one_le_sub_of_floor_add_one hle hsame hnumber with hzero | hone
  · -- an interval of length 0 does not fill the slot
    have hfilled : s.filled line = s.cgpsTimes.value s.time.floor := by
      rw [filled, interval, hzero, add_zero]
    have hover : 1 < s.filled line := hcarry.2
    rw [hfilled] at hover
    exact absurd hover (Double.not_lt_of_le (hf.cgps_le_one _))
  · exact hone

theorem fractions_step_of_carries (h : s.Fresh) (hf : s.Fractions) (hle : s.time ≤ line.time)
    (hcarry : s.Carries line) (hnumber : (s.interval line).IsNumber)
    (hfits : s.time.floor + 1 = s.time.floor ∨ (1 ≤ s.interval line ∧ s.filled line ≤ 2)) :
    (s.step line).Fractions := by
  have hslot := hcarry.1.1
  have hcgps := value_cgpsTimes_step_of_carries hcarry
  have htotal := totalTimes_step_of_carries hcarry
  have hinterval : 0 ≤ s.interval line := Double.sub_nonneg hle hnumber
  have hlong : 1 ≤ s.interval line := by
    rcases hfits with hsame | hfits
    · exact one_le_interval_of_carries hf hle hcarry hnumber hsame
    · exact hfits.1
  have hrest : 0 ≤ s.interval line - 1 := Double.sub_one_nonneg_iff.2 hlong
  -- the slot is full
  have hfull : cap ((if s.time.floor = s.time.floor + 1 then s.interval line - 1 else 1) +
      s.interval line) = 1 := by
    refine cap_eq_one (Double.le_trans hlong (Double.le_add_of_nonneg ?_ hinterval))
    split
    · exact hrest
    · exact Double.zero_le_one
  have hone := Double.le_refl_of_isNumber (Double.isNumber_of_le Double.zero_le_one).2
  -- and what is in the next one, if it is another one, is a fraction
  have hnext : ∀ k, k ≠ s.time.floor → k = s.time.floor + 1 →
      s.filled line - 1 ≤ 1 ∧ s.interval line - 1 ≤ 1 := by
    intro k hk hknext
    rcases hfits with hsame | ⟨-, hfilled⟩
    · exact absurd (hknext.trans hsame) hk
    · have hlength := Double.le_trans (Double.le_add_of_nonneg (hf.cgps_nonneg _) hinterval) hfilled
      exact ⟨Double.sub_one_le_one_iff.2 hfilled, Double.sub_one_le_one_iff.2 hlength⟩
  refine ⟨fun k => ?_, fun k => ?_, gpsdTimes_step_nonneg hslot hf hinterval, fun k => ?_,
    fun k => ?_⟩
  · rw [hcgps]
    split_ifs
    · exact Double.zero_le_one
    · exact Double.sub_one_nonneg_iff.2 (Double.le_of_lt hcarry.2)
    · exact hf.cgps_nonneg k
  · rw [hcgps]
    split_ifs with hk hknext
    · exact hone
    · exact (hnext k hk hknext).1
    · exact hf.cgps_le_one k
  · rw [htotal, hfull]
    split_ifs with hk hknext
    · exact gpsdTimes_step_le_one hslot hf hinterval k
    · -- the next slot holds nothing of gpsd
      have hlt : s.time.floor < k := by
        have hnumbers := (Double.isNumber_of_le hle).1
        rw [hknext] at hk ⊢
        exact (Double.floor_add_one hnumbers).resolve_left hk
      rw [gpsdTimes_step hslot, if_neg (fun hname => hk hname.2), h k hlt]
      exact hrest
    · rw [gpsdTimes_step hslot, if_neg (fun hname => hk hname.2)]
      exact hf.gpsd_le_total k
  · rw [htotal, hfull]
    split_ifs with hk hknext
    · exact hone
    · exact (hnext k hk hknext).2
    · exact hf.total_le_one k

theorem fractions_step_of_not_carries (hslot : s.time.floor ≠ 0) (hf : s.Fractions)
    (hle : s.time ≤ line.time) (hcarry : ¬ s.Carries line) (hnumber : (s.interval line).IsNumber) :
    (s.step line).Fractions := by
  have hcgps := value_cgpsTimes_step_of_not hcarry
  have htotal := totalTimes_step_of_not hslot hcarry
  have hinterval : 0 ≤ s.interval line := Double.sub_nonneg hle hnumber
  have hfilled : 0 ≤ s.filled line := Double.add_nonneg (hf.cgps_nonneg _) hinterval
  have hsum : s.totalTimes.value s.time.floor ≤ 1 := hf.total_le_one _
  have hgpsd : 0 ≤ s.gpsdTimes.value s.time.floor := hf.gpsd_nonneg _
  have hused := Double.le_trans hgpsd (hf.gpsd_le_total _)
  have hone := (Double.isNumber_of_le Double.zero_le_one).2
  refine ⟨fun k => ?_, fun k => ?_, gpsdTimes_step_nonneg hslot hf hinterval, fun k => ?_,
    fun k => ?_⟩
  · rw [hcgps]
    split_ifs
    · exact hfilled
    · exact hf.cgps_nonneg k
  · -- a slot of more than a second would be carried
    rw [hcgps]
    split_ifs with hcharges
    · refine (Double.le_or_lt (Double.isNumber_of_le hfilled).2 hone).resolve_right fun hlt => ?_
      exact hcarry ⟨hcharges.1, hlt⟩
    · exact hf.cgps_le_one k
  · rw [htotal]
    split_ifs with hk
    · rw [gpsdTimes_step hslot]
      split_ifs
      · -- both tables get the same
        exact cap_mono (Double.add_le_add_right (hf.gpsd_le_total _) hgpsd hinterval)
      · -- only the total grows
        have hgrows : s.totalTimes.value s.time.floor ≤
            s.totalTimes.value s.time.floor + s.interval line := by
          rw [Double.add_comm]
          exact Double.le_add_of_nonneg hinterval hused
        have hcap := cap_mono hgrows
        rw [show cap (s.totalTimes.value s.time.floor) = s.totalTimes.value s.time.floor from
          if_neg (Double.not_lt_of_le hsum)] at hcap
        rw [hk]
        exact Double.le_trans (hf.gpsd_le_total _) hcap
    · rw [gpsdTimes_step hslot, if_neg (fun hname => hk hname.2)]
      exact hf.gpsd_le_total k
  · rw [htotal]
    split_ifs
    · exact cap_le_one (Double.isNumber_of_le (Double.add_nonneg hused hinterval)).2
    · exact hf.total_le_one k

/-- A line that fits keeps the values fractions. -/
theorem fractions_step (h : s.Fresh) (hf : s.Fractions) (hle : s.time ≤ line.time)
    (hfits : s.Fits line) : (s.step line).Fractions := by
  by_cases hslot : s.time.floor = 0
  · rw [step_of_floor_eq_zero hslot]
    exact ⟨hf.cgps_nonneg, hf.cgps_le_one, hf.gpsd_nonneg, hf.gpsd_le_total, hf.total_le_one⟩
  · rcases hfits hslot with ⟨hnumber, hcgps⟩
    by_cases hcarry : s.Carries line
    · rcases hcgps hcarry.1.2 with hfilled | hcarried
      · exact absurd hcarry.2 (Double.not_lt_of_le hfilled)
      · exact fractions_step_of_carries h hf hle hcarry hnumber hcarried
    · exact fractions_step_of_not_carries hslot hf hle hcarry hnumber

/-- A line that does not fit leaves a value that is no fraction. -/
theorem fits_of_fractions_step (hf : s.Fractions) (hle : s.time ≤ line.time)
    (hstep : (s.step line).Fractions) : s.Fits line := by
  intro hslot
  have hnumber : (s.interval line).IsNumber := by
    by_contra hnan
    -- the sum of the slot is no number either, and nothing is carried
    have hfilled : ¬ (s.filled line).IsNumber := Double.add_not_isNumber hnan
    have hcarry : ¬ s.Carries line :=
      fun hcarry => hfilled (Double.isNumber_of_le (Double.le_of_lt hcarry.2)).2
    have htotal := hstep.total_le_one s.time.floor
    have hsum : ¬ (s.totalTimes.value s.time.floor + s.interval line).IsNumber :=
      Double.add_not_isNumber hnan
    rw [totalTimes_step_of_not hslot hcarry, if_pos rfl, cap, if_neg] at htotal
    · exact hsum (Double.isNumber_of_le htotal).1
    · exact fun hlt => hsum (Double.isNumber_of_le (Double.le_of_lt hlt)).2
  refine ⟨hnumber, fun hname => ?_⟩
  have hinterval : 0 ≤ s.interval line := Double.sub_nonneg hle hnumber
  have hfilled : 0 ≤ s.filled line := Double.add_nonneg (hf.cgps_nonneg _) hinterval
  have hone := (Double.isNumber_of_le Double.zero_le_one).2
  rcases Double.le_or_lt (Double.isNumber_of_le hfilled).2 hone with hroom | hover
  · exact Or.inl hroom
  · by_cases hsame : s.time.floor + 1 = s.time.floor
    · exact Or.inr (Or.inl hsame)
    · have hcarry : s.Carries line := ⟨⟨hslot, hname⟩, hover⟩
      have hcgps := hstep.cgps_le_one (s.time.floor + 1)
      have htotal := Double.le_trans (hstep.gpsd_nonneg (s.time.floor + 1))
        (hstep.gpsd_le_total (s.time.floor + 1))
      rw [value_cgpsTimes_step_of_carries hcarry, if_neg hsame, if_pos rfl] at hcgps
      rw [totalTimes_step_of_carries hcarry, if_neg hsame, if_pos rfl] at htotal
      exact Or.inr (Or.inr ⟨Double.sub_one_nonneg_iff.1 htotal, Double.sub_one_le_one_iff.1 hcgps⟩)

/-- From a state on whose values are fractions, they stay so exactly as long as the lines fit. -/
theorem fractions_foldl_iff (lines : List (SchedLine Double)) {s : SchedState Double Double} (h : s.Fresh)
    (hf : s.Fractions) (hmono : (s.time :: lines.map SchedLine.time).IsChain (· ≤ ·)) :
    (∀ front, front <+: lines → (front.foldl step s).Fractions) ↔
      Respects (fun s line => some (s.step line)) Fits s lines := by
  induction lines generalizing s with
  | nil =>
      rw [forall_front_nil]
      exact ⟨fun _ => trivial, fun _ => hf⟩
  | cons line lines ih =>
      rw [List.map_cons, List.isChain_cons_cons] at hmono
      have hrest := fun hf' => ih (fresh_step h hmono.1) hf' (by rw [time_step]; exact hmono.2)
      rw [respects_cons rfl, forall_front_cons]
      constructor
      · rintro ⟨-, hall⟩
        have hone : (s.step line).Fractions := hall [] List.nil_prefix
        exact ⟨fits_of_fractions_step hf hmono.1 hone, (hrest hone).1 hall⟩
      · rintro ⟨hfits, hlines⟩
        exact ⟨hf, (hrest (fractions_step h hf hmono.1 hfits)).2 hlines⟩

theorem fractions_of_empty (hcgps : s.cgpsTimes = ∅) (hgpsd : s.gpsdTimes = ∅)
    (htotal : s.totalTimes = ∅) : s.Fractions := by
  constructor <;> intro k <;>
    simp [hcgps, hgpsd, htotal, Double.zero_le_zero, Double.zero_le_one]

theorem floor_zero : (0 : Double).floor = 0 := by
  decide +kernel

end SchedState

/-- The values are fractions after every line, and so are those that are written, if and only if every
interval is a number and no line of cgps takes its slot above a second, save for a line that has lasted
for a second at least and takes the slot to two seconds at most, or has no other slot after its own. -/
theorem areFractions_iff {log : Text}
    (hmono : ((schedLines (F := Double) log).map SchedLine.time).IsChain (· ≤ ·)) :
    AreFractions (schedLines log) ↔
      Respects (fun s line => some (s.step line)) Fits init (schedLines log) := by
  have hempty : init.Fractions := fractions_of_empty rfl rfl rfl
  have hstates : (∀ front, front <+: schedLines log → (front.foldl step init).Fractions) ↔
      Respects (fun s line => some (s.step line)) Fits init (schedLines log) := by
    generalize schedLines (F := Double) log = lines at hmono ⊢
    cases lines with
    | nil =>
        rw [forall_front_nil]
        exact ⟨fun _ => trivial, fun _ => hempty⟩
    | cons line lines =>
        -- the first line sets the clock and nothing else
        have hfirst : init.step line = { init with time := line.time } :=
          step_of_floor_eq_zero floor_zero
        have hfits : init.Fits line := fun hslot => absurd floor_zero hslot
        have hfresh : (init.step line).Fresh := by
          rw [hfirst]
          exact fun k _ => Dict.value_empty k
        have hone : (init.step line).Fractions := by
          rw [hfirst]
          exact fractions_of_empty rfl rfl rfl
        rw [respects_cons rfl, forall_front_cons,
          ← fractions_foldl_iff lines hfresh hone (by rw [time_step]; exact hmono)]
        exact and_congr_left fun _ => iff_of_true hempty hfits
  constructor
  · intro h
    exact hstates.1 h.1
  · intro hfits
    have hall := hstates.2 hfits
    have hlast := hall (schedLines log) List.prefix_rfl
    exact ⟨hall, fun key _ => ⟨⟨hlast.cgps_nonneg key, hlast.cgps_le_one key⟩, hlast.avg2_mem key⟩⟩

/-- A quarter of a second, a second and a quarter. -/
theorem areFractions_iff_long : AreFractions (schedLines
    "sh-9 [000] d 1.25:\ncgps-7 [000] d 1.5:\ncgps-7 [000] d 2.75:\ngpsd-8 [000] d 3.0:\n".toList) :=
  (@areFractions_iff
    "sh-9 [000] d 1.25:\ncgps-7 [000] d 1.5:\ncgps-7 [000] d 2.75:\ngpsd-8 [000] d 3.0:\n".toList
    (by decide +kernel)).2 (by decide +kernel)

/-- The intervals of cgps make up a second exactly, but the sum of the floats is larger. -/
example : ¬ Respects (fun s line => some (s.step line)) Fits init (schedLines
    "sh-9 [000] d 1.0:\ncgps-7 [000] d 1.3:\nsh-9 [000] d 1.4:\ncgps-7 [000] d 2.1:\n".toList) := by
  decide +kernel

/-- Half a second and three quarters: a quarter is carried, and the used time of slot 2 is -1/4. -/
theorem exists_not_areFractions :
    ¬ ∀ log : Text, ((schedLines (F := Double) log).map SchedLine.time).IsChain (· ≤ ·) →
      AreFractions (schedLines log) := by
  intro h
  have hfractions := (h "sh-9 [000] d 1.0:\ncgps-7 [000] d 1.5:\ncgps-7 [000] d 2.25:\n".toList
    (by decide +kernel)).1 _ List.prefix_rfl
  have hnext := Double.le_trans (hfractions.gpsd_nonneg 2) (hfractions.gpsd_le_total 2)
  revert hnext
  decide +kernel

end GraphScripts
end ResourceAccounting
