import ResourceAccounting.GraphScripts.Model
import ResourceAccounting.Intervals.Sampling

/-!
# EnergyBound — how far the modelled energy is from the integral of the power

The energy loop of model.py samples the power every half second, at the start of each step:

- `finalEnergy` — the value of `energy` after the loop;
- `finalEnergy_eq` — it counts the steps and those of them whose first point a slot holds;
- `coveredLength` — the length of the part of the run that the slots cover;
- `abs_finalEnergy_sub_le` — the energy is off by at most 25000 for each end of a slot, and by 85000
  for the last step, which reaches beyond the end of the run.
-/

namespace ResourceAccounting
namespace GraphScripts

open Intervals

/-! ## The energy after the loop -/

/-- The energy after the last of the rows; `energy` is its value before them. -/
def energyAfter (energy : ℚ) (rows : List ModelRow) : ℚ :=
  (rows.getLast?.map ModelRow.energy).getD energy

@[simp]
theorem energyAfter_cons (energy : ℚ) (row : ModelRow) (rows : List ModelRow) :
    energyAfter energy (row :: rows) = energyAfter row.energy rows := by
  rw [energyAfter, energyAfter, List.getLast?_cons]
  cases rows.getLast? <;> rfl

/-- The value of `energy` when the script ends. -/
def finalEnergy (slots : List Slot) (timepoint finishingtime : ℚ) : ℚ :=
  energyAfter 0 (energyModel slots timepoint finishingtime)

theorem modelValue_cast (slots : List Slot) (timepoint : ℚ) :
    (modelValue slots timepoint : ℚ) =
      120000 + 50000 * ((if timepoint ∈ cover slots then 1 else 0 : ℕ) : ℚ) := by
  rw [modelValue_eq]
  by_cases hin : timepoint ∈ cover slots
  · norm_num [hin]
  · norm_num [hin]

/-- The energy of `n` turns, if the end of the run cuts none of them off. -/
theorem energyAfter_energyRows (slots : List Slot) (finishingtime : ℚ) (n : Nat) :
    ∀ timepoint energy : ℚ, timepoint + n * timeStep < finishingtime + timeStep →
      energyAfter energy (energyRows (modelValue slots) finishingtime n timepoint energy) =
        energy + (120000 * n + 50000 * samples slots timeStep n timepoint) * timeStep := by
  induction n with
  | zero =>
      intro timepoint energy _
      simp [energyRows, energyAfter, samples]
  | succ n ih =>
      intro timepoint energy hstop
      push_cast at hstop
      have hturns : 0 ≤ (n : ℚ) * timeStep := by
        have : (0 : ℚ) ≤ timeStep := by norm_num [timeStep]
        positivity
      have hlt : timepoint < finishingtime := by linarith
      have hrest := ih (timepoint + timeStep) (energy + modelValue slots timepoint * timeStep)
        (by linarith)
      rw [energyRows, if_pos hlt, energyAfter_cons, hrest, modelValue_cast, samples]
      push_cast
      ring

/-- The loop stops at the first point of time that is not below `finishingtime`. -/
theorem turns_spec {timepoint finishingtime : ℚ} (h : timepoint < finishingtime) :
    finishingtime ≤ timepoint + turns timepoint finishingtime * timeStep ∧
      timepoint + turns timepoint finishingtime * timeStep < finishingtime + timeStep := by
  have hstep : (0 : ℚ) < timeStep := by norm_num [timeStep]
  have hnonneg : 0 ≤ (finishingtime - timepoint) / timeStep :=
    div_nonneg (sub_nonneg.2 h.le) hstep.le
  have hlow : (finishingtime - timepoint) / timeStep ≤ turns timepoint finishingtime :=
    Nat.le_ceil _
  have hhigh : (turns timepoint finishingtime : ℚ) < (finishingtime - timepoint) / timeStep + 1 :=
    Nat.ceil_lt_add_one hnonneg
  rw [div_le_iff₀ hstep] at hlow
  rw [← sub_lt_iff_lt_add, lt_div_iff₀ hstep] at hhigh
  constructor <;> linarith

theorem finalEnergy_eq (slots : List Slot) {timepoint finishingtime : ℚ}
    (h : timepoint < finishingtime) :
    finalEnergy slots timepoint finishingtime =
      (120000 * turns timepoint finishingtime +
        50000 * samples slots timeStep (turns timepoint finishingtime) timepoint) * timeStep := by
  calc
    finalEnergy slots timepoint finishingtime =
        0 + (120000 * turns timepoint finishingtime +
          50000 * samples slots timeStep (turns timepoint finishingtime) timepoint) * timeStep :=
      energyAfter_energyRows slots finishingtime _ timepoint 0 (turns_spec h).2
    _ = _ := zero_add _

/-! ## The slots on the real line -/

/-- The slot between the same ends, as real numbers. -/
def realSlot (slot : Slot) : OpenInterval ℝ where
  lo := slot.lo
  hi := slot.hi
  lo_lt_hi := by exact_mod_cast slot.lo_lt_hi

theorem mem_cover_realSlot (slots : List Slot) (t : ℝ) :
    t ∈ cover (slots.map realSlot) ↔ ∃ slot ∈ slots, (slot.lo : ℝ) < t ∧ t < slot.hi := by
  simp [mem_cover, OpenInterval.points, realSlot]

theorem cast_mem_cover_realSlot (slots : List Slot) (t : ℚ) :
    (t : ℝ) ∈ cover (slots.map realSlot) ↔ t ∈ cover slots := by
  rw [mem_cover_realSlot]
  simp [mem_cover, OpenInterval.points]

theorem samples_realSlot (slots : List Slot) (δ : ℚ) (n : ℕ) :
    ∀ a : ℚ, samples (slots.map realSlot) (δ : ℝ) n (a : ℝ) = samples slots δ n a := by
  induction n with
  | zero =>
      intro a
      rfl
  | succ n ih =>
      intro a
      have hrest := ih (a + δ)
      push_cast at hrest
      simp only [samples, cast_mem_cover_realSlot, hrest]

open MeasureTheory in
/-- The length of the part of the run from `t₀` to `tf` that the slots cover. -/
noncomputable def coveredLength (slots : List Slot) (t₀ tf : ℚ) : ℝ :=
  volume.real {t : ℝ | (t₀ ≤ t ∧ t ≤ tf) ∧ ∃ slot ∈ slots, (slot.lo : ℝ) < t ∧ t < slot.hi}

theorem coveredLength_eq (slots : List Slot) (t₀ tf : ℚ) :
    coveredLength slots t₀ tf = lengthIn (slots.map realSlot) t₀ tf := by
  rw [← lengthIn_eq_closed, coveredLength]
  congr 1
  ext t
  simp [mem_cover_realSlot, and_comm]

/-! ## The bound -/

/-- The steps together reach less than one step beyond the run, so what they see of the slots is
off by at most half a second for each end and half a second for the last step. -/
theorem abs_samples_sub_coveredLength_le (slots : List Slot) {t₀ tf : ℚ} (h : t₀ < tf) :
    |(timeStep : ℝ) * samples slots timeStep (turns t₀ tf) t₀ - coveredLength slots t₀ tf| ≤
      timeStep * (2 * slots.length + 1) := by
  have hstep : (0 : ℝ) ≤ (timeStep : ℚ) := by norm_num [timeStep]
  have hsampled := abs_samples_sub_lengthIn_le (slots.map realSlot) hstep (turns t₀ tf) t₀
  rw [samples_realSlot] at hsampled
  -- every end is an end in one of the steps at most
  have hends : (endsIn (slots.map realSlot) (t₀ : ℝ) (t₀ + turns t₀ tf * (timeStep : ℚ)) : ℝ) ≤
      2 * slots.length := by
    have := endsIn_le (slots.map realSlot) (t₀ : ℝ) (t₀ + turns t₀ tf * (timeStep : ℚ))
    rw [List.length_map] at this
    exact_mod_cast this
  have hcharged := mul_le_mul_of_nonneg_left hends hstep
  -- what the last step sees beyond the end of the run
  have hreach : ((tf : ℚ) : ℝ) ≤ t₀ + turns t₀ tf * (timeStep : ℚ) := by
    exact_mod_cast (turns_spec h).1
  have hbeyond : (t₀ : ℝ) + turns t₀ tf * (timeStep : ℚ) < tf + (timeStep : ℚ) := by
    exact_mod_cast (turns_spec h).2
  have hrun : (t₀ : ℝ) ≤ tf := by exact_mod_cast h.le
  have hsplit := lengthIn_add (slots.map realSlot) hrun hreach
  have hover := lengthIn_le (slots.map realSlot) hreach
  have hpos := lengthIn_nonneg (slots.map realSlot) (tf : ℝ) (t₀ + turns t₀ tf * (timeStep : ℚ))
  rw [coveredLength_eq]
  rw [abs_le] at hsampled ⊢
  constructor <;> linarith [hsampled.1, hsampled.2]

/-- The modelled energy against `120000 * (tf - t₀) + 50000 * L`, where the slots cover a part of
length `L` of the run and each slot has two ends. -/
theorem abs_finalEnergy_sub_le (slots : List Slot) {t₀ tf : ℚ} (h : t₀ < tf) :
    |(finalEnergy slots t₀ tf : ℝ) -
        (120000 * ((tf : ℝ) - t₀) + 50000 * coveredLength slots t₀ tf)| ≤
      25000 * (2 * slots.length) + 85000 := by
  have hslots := abs_samples_sub_coveredLength_le slots h
  have hlow : ((tf : ℚ) : ℝ) ≤ t₀ + turns t₀ tf * (timeStep : ℚ) := by
    exact_mod_cast (turns_spec h).1
  have hhigh : (t₀ : ℝ) + turns t₀ tf * (timeStep : ℚ) < tf + (timeStep : ℚ) := by
    exact_mod_cast (turns_spec h).2
  rw [finalEnergy_eq slots h]
  push_cast
  have hstep : ((timeStep : ℚ) : ℝ) = 1 / 2 := by norm_num [timeStep]
  rw [hstep] at hslots hlow hhigh ⊢
  rw [abs_le] at hslots ⊢
  constructor <;> linarith [hslots.1, hslots.2]

/-- Two slots that overlap, one of which ends inside a step. -/
theorem abs_finalEnergy_sub_le_overlap :
    |(finalEnergy [⟨1, 3, by decide⟩, ⟨2, 13 / 4, by norm_num⟩] 0 4 : ℝ) -
        (120000 * ((4 : ℚ) - (0 : ℚ) : ℝ) + 50000 *
          coveredLength [⟨1, 3, by decide⟩, ⟨2, 13 / 4, by norm_num⟩] 0 4)| ≤
      25000 * (2 * ([⟨1, 3, by decide⟩, ⟨2, 13 / 4, by norm_num⟩] : List Slot).length) + 85000 :=
  abs_finalEnergy_sub_le [⟨1, 3, by decide⟩, ⟨2, 13 / 4, by norm_num⟩] (by decide)

end GraphScripts
end ResourceAccounting
