import Mathlib.Algebra.Order.Floor.Ring
import ResourceAccounting.GraphScripts.Model
import ResourceAccounting.Python.Dict
import ResourceAccounting.Python.Double

/-!
# SchedAvg — schedAvg.py distributes the CPU time over seconds

schedAvg.py charges the time from one line of the scheduler log to the next to the slot, a second,
in which the former lies.  A slot holds one second at most: what cgps has beyond that is carried
into the next slot, by an assignment; what gpsd has beyond it is cut off.

- `ScriptFloat` — the numbers of the script: rationals for exact arithmetic, `Double` for the numbers
  that Python computes with;
- `schedLine?` — name and time of a line, `none` for an `IndexError` or a `ValueError`, at which the
  loop stops;
- `seeCgps`, `seeGpsd`, `seeTotal` — the three tables;
- `total_cgpsTimes` — in exact arithmetic no time of cgps is lost or counted twice.
-/

namespace ResourceAccounting
namespace GraphScripts

open Python

/-! ## The script -/

/-- What the script takes from `float(s)`, and `math.floor`. -/
class ScriptFloat (F : Type) (K : outParam Type) where
  ofFloat? : PyFloat → Option F
  floor : F → K

/-- Exact arithmetic is without `inf` and `nan`. -/
instance : ScriptFloat ℚ Int where
  ofFloat? := finite?
  floor := Int.floor

/-- `math.floor` gives a float. -/
instance : ScriptFloat Double Double where
  ofFloat? x := some (Double.ofPy x)
  floor := Double.floor

@[simp]
theorem floor_rat (q : ℚ) : ScriptFloat.floor q = ⌊q⌋ :=
  rfl

@[simp]
theorem floor_double (x : Double) : ScriptFloat.floor x = x.floor :=
  rfl

section Script

variable {F K : Type} [ScriptFloat F K]

/-- `name` and `time` of a line. -/
structure SchedLine (F : Type) where
  name : Text
  time : F
  deriving DecidableEq, Repr

/-- `line[0]` and `float(line[3][:-1])` -/
def schedLine? (line : Text) : Option (SchedLine F) := do
  let words := split (strip line)
  let name ← words[0]?
  let time ← ScriptFloat.ofFloat? (← float? (← words[3]?).dropLast)
  some ⟨name, time⟩

/-- `name.startswith("cgps")` -/
def SchedLine.isCgps (line : SchedLine F) : Bool :=
  "cgps".toList.isPrefixOf line.name

/-- `name.startswith("gpsd")` -/
def SchedLine.isGpsd (line : SchedLine F) : Bool :=
  "gpsd".toList.isPrefixOf line.name

/-- The variables of the script: the time of the last line and the tables of the slots. -/
structure SchedState (F K : Type) where
  time : F
  cgpsTimes : Dict K F
  gpsdTimes : Dict K F
  totalTimes : Dict K F

variable [Zero F] [One F] [Add F] [Sub F] [LT F] [DecidableLT F] [Zero K] [One K] [Add K]
  [DecidableEq K]

namespace SchedState

def init : SchedState F K :=
  { time := 0, cgpsTimes := ∅, gpsdTimes := ∅, totalTimes := ∅ }

variable (s : SchedState F K) (slot : K) (d : F)

/-- The cgps branch, for an interval of length `d`. -/
def seeCgps : SchedState F K :=
  let cgpsTimes := s.cgpsTimes.increase slot d
  if 1 < cgpsTimes.value slot then
    { s with
      cgpsTimes := (cgpsTimes.assign (slot + 1) (cgpsTimes.value slot - 1)).assign slot 1
      totalTimes := (s.totalTimes.assign slot 1).assign (slot + 1) (d - 1) }
  else
    { s with cgpsTimes := cgpsTimes }

/-- `if times[slot] > 1: times[slot]=1` -/
def clamp (times : Dict K F) : Dict K F :=
  if 1 < times.value slot then times.assign slot 1 else times

/-- The gpsd branch. -/
def seeGpsd : SchedState F K :=
  { s with gpsdTimes := clamp slot (s.gpsdTimes.increase slot d) }

/-- What is done for every line. -/
def seeTotal : SchedState F K :=
  { s with totalTimes := clamp slot (s.totalTimes.increase slot d) }

/-- The body of the loop, after the line has been read. -/
def step (line : SchedLine F) : SchedState F K :=
  let prevtime := s.time
  let slot := ScriptFloat.floor prevtime
  let s := { s with time := line.time }
  if slot = 0 then
    s
  else
    let s := if line.isCgps then s.seeCgps slot (line.time - prevtime) else s
    let s := if line.isGpsd then s.seeGpsd slot (line.time - prevtime) else s
    s.seeTotal slot (line.time - prevtime)

end SchedState

/-- The lines of the log that the loop sees. -/
def schedLines (log : Text) : List (SchedLine F) :=
  untilFailure schedLine? (fileLines log)

/-- The state after the loop. -/
def schedAvg (log : Text) : SchedState F K :=
  (schedLines log).foldl SchedState.step SchedState.init

end Script

/-! ## What a step does to the tables -/

namespace SchedState

section Tables

variable {F K : Type} [AddZeroClass F] [One F] [LT F] [DecidableLT F] [DecidableEq K]

variable (s : SchedState F K) (slot : K) (d : F)

@[simp]
theorem time_seeGpsd : (s.seeGpsd slot d).time = s.time :=
  rfl

@[simp]
theorem time_seeTotal : (s.seeTotal slot d).time = s.time :=
  rfl

@[simp]
theorem cgpsTimes_seeGpsd : (s.seeGpsd slot d).cgpsTimes = s.cgpsTimes :=
  rfl

@[simp]
theorem totalTimes_seeGpsd : (s.seeGpsd slot d).totalTimes = s.totalTimes :=
  rfl

@[simp]
theorem cgpsTimes_seeTotal : (s.seeTotal slot d).cgpsTimes = s.cgpsTimes :=
  rfl

@[simp]
theorem gpsdTimes_seeTotal : (s.seeTotal slot d).gpsdTimes = s.gpsdTimes :=
  rfl

/-- One second at most. -/
def cap (v : F) : F :=
  if 1 < v then 1 else v

/-- A clamped table holds one second at most in the slot. -/
theorem value_clamp (times : Dict K F) (k : K) :
    (clamp slot times).value k = if k = slot then cap (times.value slot) else times.value k := by
  unfold clamp cap
  split
  · rw [Dict.value_assign]
  · split
    · next hk => rw [hk]
    · rfl

/-- Adding to a slot of a clamped table. -/
theorem value_clamp_increase (times : Dict K F) (k : K) :
    (clamp slot (times.increase slot d)).value k =
      if k = slot then cap (times.value slot + d) else times.value k := by
  rw [value_clamp, Dict.value_increase_self, Dict.value_increase]
  split
  · rfl
  · rw [add_zero]

variable [Sub F] [One K] [Add K]

@[simp]
theorem time_seeCgps : (s.seeCgps slot d).time = s.time := by
  unfold seeCgps
  dsimp only
  split <;> rfl

@[simp]
theorem gpsdTimes_seeCgps : (s.seeCgps slot d).gpsdTimes = s.gpsdTimes := by
  unfold seeCgps
  dsimp only
  split <;> rfl

/-- The carry goes into the next slot; what that held is forgotten. -/
theorem value_cgpsTimes_seeCgps (k : K) :
    (s.seeCgps slot d).cgpsTimes.value k =
      if k = slot then cap (s.cgpsTimes.value slot + d)
      else if k = slot + 1 ∧ 1 < s.cgpsTimes.value slot + d then s.cgpsTimes.value slot + d - 1
      else s.cgpsTimes.value k := by
  by_cases hlt : 1 < s.cgpsTimes.value slot + d
  · simp only [seeCgps, Dict.value_increase_self, hlt, if_true, and_true, Dict.value_assign, cap]
    split
    · rfl
    · next hk =>
        rw [Dict.value_increase, if_neg hk, add_zero]
  · simp only [seeCgps, Dict.value_increase_self, hlt, if_false, and_false, cap]
    split
    · next hk => rw [hk, Dict.value_increase_self]
    · next hk => rw [Dict.value_increase, if_neg hk, add_zero]

theorem value_totalTimes_seeCgps (k : K) :
    (s.seeCgps slot d).totalTimes.value k =
      if 1 < s.cgpsTimes.value slot + d then
        if k = slot + 1 then d - 1 else if k = slot then 1 else s.totalTimes.value k
      else s.totalTimes.value k := by
  by_cases hlt : 1 < s.cgpsTimes.value slot + d
  · simp only [seeCgps, Dict.value_increase_self, hlt, if_true, Dict.value_assign]
  · simp only [seeCgps, Dict.value_increase_self, hlt, if_false]

variable [ScriptFloat F K] [Zero K]

/-- The line belongs to cgps and its interval starts in a slot that is kept. -/
def Charges (line : SchedLine F) : Prop :=
  ScriptFloat.floor s.time ≠ 0 ∧ line.isCgps = true

instance (line : SchedLine F) : Decidable (s.Charges line) :=
  inferInstanceAs (Decidable (_ ∧ _))

variable {s} {line : SchedLine F}

@[simp]
theorem time_step (s : SchedState F K) (line : SchedLine F) : (s.step line).time = line.time := by
  unfold step
  dsimp only
  split
  · rfl
  · rw [time_seeTotal]
    split <;> split <;> simp

theorem step_of_floor_eq_zero (h : ScriptFloat.floor s.time = 0) :
    s.step line = { s with time := line.time } := by
  simp only [step, h, if_true]

theorem cgpsTimes_step (h : s.Charges line) :
    (s.step line).cgpsTimes =
      (s.seeCgps (ScriptFloat.floor s.time) (line.time - s.time)).cgpsTimes := by
  simp only [step, h.1, h.2, if_false, if_true, cgpsTimes_seeTotal]
  split
  · simp only [cgpsTimes_seeGpsd, seeCgps]
    split <;> rfl
  · simp only [seeCgps]
    split <;> rfl

theorem cgpsTimes_step_of_not (h : ¬ s.Charges line) : (s.step line).cgpsTimes = s.cgpsTimes := by
  by_cases hslot : ScriptFloat.floor s.time = 0
  · rw [step_of_floor_eq_zero hslot]
  · have hname : ¬ line.isCgps = true := fun hname => h ⟨hslot, hname⟩
    simp only [step, hslot, if_false, hname, cgpsTimes_seeTotal]
    split <;> rfl

end Tables

/-! ## No time is lost -/

theorem cap_le (q : ℚ) : cap q ≤ q := by
  unfold cap
  split
  · next hlt => exact hlt.le
  · exact le_rfl

variable {s : SchedState ℚ Int} {line : SchedLine ℚ}

theorem cgpsTimes_step_rat (h : s.Charges line) :
    (s.step line).cgpsTimes = (s.seeCgps ⌊s.time⌋ (line.time - s.time)).cgpsTimes :=
  cgpsTimes_step h

/-- No slot holds more of cgps than the time since it began. -/
structure Timely (s : SchedState ℚ Int) : Prop where
  beyond : ∀ k, ⌊s.time⌋ < k → s.cgpsTimes.value k = 0
  current : s.cgpsTimes.value ⌊s.time⌋ ≤ s.time - ⌊s.time⌋

theorem timely_of_empty (h : s.cgpsTimes = ∅) : s.Timely where
  beyond := by
    intro k _
    rw [h, Dict.value_empty]
  current := by
    rw [h, Dict.value_empty]
    exact Int.fract_nonneg s.time

theorem timely_step (h : s.Timely) (hle : s.time ≤ line.time) : (s.step line).Timely := by
  have hfloor : ⌊s.time⌋ ≤ ⌊line.time⌋ := Int.floor_le_floor hle
  have hcurrent := h.current
  by_cases hcharges : s.Charges line
  · have hvalue := value_cgpsTimes_seeCgps s ⌊s.time⌋ (line.time - s.time)
    refine ⟨fun k hk => ?_, ?_⟩
    · rw [time_step] at hk
      rw [cgpsTimes_step_rat hcharges, hvalue, if_neg (by omega), if_neg, h.beyond k (by omega)]
      -- a carry shows that the next slot has begun
      rintro ⟨rfl, hcarry⟩
      have hbegun : ((⌊s.time⌋ + 1 : ℤ) : ℚ) ≤ line.time := by
        push_cast
        linarith
      exact absurd (Int.le_floor.2 hbegun) (not_le.2 hk)
    · rw [time_step, cgpsTimes_step_rat hcharges, hvalue]
      split
      · next hsame =>
          have hcap := cap_le (s.cgpsTimes.value ⌊s.time⌋ + (line.time - s.time))
          rw [hsame]
          linarith
      · next hother =>
          split
          · next hcarry =>
              rw [hcarry.1]
              push_cast
              linarith
          · rw [h.beyond _ (lt_of_le_of_ne hfloor (Ne.symm hother))]
            exact Int.fract_nonneg line.time
  · refine ⟨fun k hk => ?_, ?_⟩
    · rw [time_step] at hk
      rw [cgpsTimes_step_of_not hcharges]
      exact h.beyond k (by omega)
    · rw [time_step, cgpsTimes_step_of_not hcharges]
      rcases hfloor.eq_or_lt with heq | hlt
      · rw [← heq]
        linarith
      · rw [h.beyond _ hlt]
        exact Int.fract_nonneg line.time

/-- Nothing is in the slot into which a carry is written. -/
theorem Timely.value_next (h : s.Timely) : s.cgpsTimes.value (⌊s.time⌋ + 1) = 0 :=
  h.beyond _ (lt_add_one _)

theorem total_step (h : s.Timely) :
    (s.step line).cgpsTimes.total =
      s.cgpsTimes.total + if s.Charges line then line.time - s.time else 0 := by
  by_cases hcharges : s.Charges line
  · rw [cgpsTimes_step_rat hcharges, if_pos hcharges]
    simp only [seeCgps, Dict.value_increase_self]
    split
    · -- what the slot loses is what the next slot gets
      have hnext :
          (s.cgpsTimes.increase ⌊s.time⌋ (line.time - s.time)).value (⌊s.time⌋ + 1) = 0 := by
        rw [Dict.value_increase, h.value_next, if_neg (by omega), add_zero]
      have hcarry := Dict.total_assign_add
        (s.cgpsTimes.increase ⌊s.time⌋ (line.time - s.time)) (⌊s.time⌋ + 1)
        (s.cgpsTimes.value ⌊s.time⌋ + (line.time - s.time) - 1)
      have hcap := Dict.total_assign_add
        ((s.cgpsTimes.increase ⌊s.time⌋ (line.time - s.time)).assign (⌊s.time⌋ + 1)
          (s.cgpsTimes.value ⌊s.time⌋ + (line.time - s.time) - 1)) ⌊s.time⌋ 1
      rw [Dict.value_assign_of_ne _ _ (by omega), Dict.value_increase_self] at hcap
      rw [hnext, Dict.total_increase] at hcarry
      linarith
    · exact Dict.total_increase _ _ _
  · rw [cgpsTimes_step_of_not hcharges, if_neg hcharges, add_zero]

end SchedState

open SchedState

/-- A line with the time of the line before it. -/
def intervals : ℚ → List (SchedLine ℚ) → List (ℚ × SchedLine ℚ)
  | _, [] => []
  | prevtime, line :: lines => (prevtime, line) :: intervals line.time lines

/-- The time of cgps that the lines show, from the second 1 on. -/
def cgpsTime (prevtime : ℚ) (lines : List (SchedLine ℚ)) : ℚ :=
  (((intervals prevtime lines).filter (fun p => p.2.isCgps && decide (1 ≤ p.1))).map
    (fun p => p.2.time - p.1)).sum

theorem cgpsTime_cons (prevtime : ℚ) (line : SchedLine ℚ) (lines : List (SchedLine ℚ)) :
    cgpsTime prevtime (line :: lines) =
      (if line.isCgps = true ∧ 1 ≤ prevtime then line.time - prevtime else 0) +
        cgpsTime line.time lines := by
  by_cases h : line.isCgps = true ∧ 1 ≤ prevtime
  · simp [cgpsTime, intervals, h.1, h.2]
  · have hnot : (line.isCgps && decide (1 ≤ prevtime)) = false := by
      rw [Bool.eq_false_iff]
      simpa using h
    simp [cgpsTime, intervals, h, hnot]

theorem charges_iff {s : SchedState ℚ Int} {line : SchedLine ℚ} (h : 0 ≤ s.time) :
    s.Charges line ↔ line.isCgps = true ∧ 1 ≤ s.time := by
  have hfloor : 0 ≤ ⌊s.time⌋ := Int.floor_nonneg.2 h
  have hone : 1 ≤ ⌊s.time⌋ ↔ 1 ≤ s.time := by
    rw [Int.le_floor, Int.cast_one]
  have hcharges : s.Charges line ↔ ⌊s.time⌋ ≠ 0 ∧ line.isCgps = true := Iff.rfl
  rw [hcharges, and_comm, ← hone]
  refine and_congr_right fun _ => ⟨fun hne => by omega, fun hle => by omega⟩

/-- What the loop adds to the table of cgps, from any state on. -/
theorem total_foldl_step (lines : List (SchedLine ℚ)) {s : SchedState ℚ Int} (h : s.Timely) (h0 : 0 ≤ s.time)
    (hmono : (s.time :: lines.map SchedLine.time).IsChain (· ≤ ·)) :
    (lines.foldl step s).cgpsTimes.total = s.cgpsTimes.total + cgpsTime s.time lines := by
  induction lines generalizing s with
  | nil => simp [cgpsTime, intervals]
  | cons line lines ih =>
      rw [List.map_cons, List.isChain_cons_cons] at hmono
      have hrest := ih (timely_step h hmono.1) (by rw [time_step]; exact h0.trans hmono.1)
        (by rw [time_step]; exact hmono.2)
      rw [List.foldl_cons, hrest, total_step h, time_step, cgpsTime_cons, add_assoc]
      congr 2
      exact if_congr (charges_iff h0) rfl rfl

theorem timely_foldl_step (lines : List (SchedLine ℚ)) {s : SchedState ℚ Int} (h : s.Timely)
    (hmono : (s.time :: lines.map SchedLine.time).IsChain (· ≤ ·)) :
    (lines.foldl step s).Timely := by
  induction lines generalizing s with
  | nil => exact h
  | cons line lines ih =>
      rw [List.map_cons, List.isChain_cons_cons] at hmono
      exact ih (timely_step h hmono.1) (by rw [time_step]; exact hmono.2)

/-- The table of cgps holds the time of cgps, and every carry is written to a slot without any.  The
timestamps do not decrease, from the 0.0 on with which the script starts. -/
theorem total_cgpsTimes {log : Text} {lines : List (SchedLine ℚ)}
    (hparse : (fileLines log).mapM schedLine? = some lines)
    (hmono : (0 :: lines.map SchedLine.time).IsChain (· ≤ ·)) :
    (schedAvg (F := ℚ) log).cgpsTimes.total = cgpsTime 0 lines ∧
      ∀ front line rest, lines = front ++ line :: rest →
        (front.foldl step init).cgpsTimes.value (⌊(front.foldl step init).time⌋ + 1) = 0 := by
  have hlines : schedLines log = lines := untilFailure_of_mapM hparse
  constructor
  · have htotal := total_foldl_step lines (s := init) (timely_of_empty rfl) le_rfl hmono
    rw [schedAvg, hlines, htotal]
    simp [init]
  · intro front line rest hsplit
    have hfront : (0 :: front.map SchedLine.time).IsChain (· ≤ ·) := by
      refine hmono.prefix ⟨(line :: rest).map SchedLine.time, ?_⟩
      rw [hsplit, List.map_append, List.cons_append]
    exact (timely_foldl_step front (s := init) (timely_of_empty rfl) hfront).value_next

/-- cgps has a second and a half in slot 1, and half a second is carried into slot 2. -/
theorem total_cgpsTimes_carry :
    (schedAvg (F := ℚ) "cgps-7 [000] d 1.25:\ncgps-7 [000] d 1.5:\ncgps-7 [000] d 2.75:\n".toList).cgpsTimes.total
      = 3 / 2 := by
  have htotal := (@total_cgpsTimes
    "cgps-7 [000] d 1.25:\ncgps-7 [000] d 1.5:\ncgps-7 [000] d 2.75:\n".toList
    [⟨"cgps-7".toList, 5 / 4⟩, ⟨"cgps-7".toList, 3 / 2⟩, ⟨"cgps-7".toList, 11 / 4⟩]
    (by decide +kernel) (by simp; norm_num)).1
  rw [htotal]
  decide +kernel

/-- Before the second 0 the script counts as well: the two seconds from -5 on are in the table. -/
theorem exists_total_cgpsTimes_ne :
    ¬ ∀ (log : Text) (lines : List (SchedLine ℚ)), (fileLines log).mapM schedLine? = some lines →
      (lines.map SchedLine.time).IsChain (· ≤ ·) →
        (schedAvg (F := ℚ) log).cgpsTimes.total = cgpsTime 0 lines := by
  intro h
  have htotal := h "sh-9 [000] d -5.0:\ncgps-7 [000] d -3.0:\n".toList
    [⟨"sh-9".toList, -5⟩, ⟨"cgps-7".toList, -3⟩] (by decide +kernel) (by decide +kernel)
  revert htotal
  decide +kernel

end GraphScripts
end ResourceAccounting
