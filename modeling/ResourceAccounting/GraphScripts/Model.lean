import Mathlib.Algebra.Order.Floor.Semiring
import ResourceAccounting.Intervals.Open
import ResourceAccounting.Python.Number

/-!
# Model — model.py derives the energy model from the cgps logs

model.py reads the start and the end of a session from every cgps log, merges the sessions into a
list of slots and models the power as one value inside the slots and another one outside:

- `sessionTimes` — the last start (record 0) and the last end (record 2 or 3) of a log, with 0 for
  "not seen";
- `mergeSession` — the slot merge loop for one session;
- `energyLoop` — the rows of `powerModel.txt` and `energy_model.txt`.

`none` stands for an `IndexError` or a `ValueError`, which ends the script before it writes
anything, and for the times `inf` and `nan`, which no cgps log contains.
-/

namespace ResourceAccounting
namespace GraphScripts

open Python Intervals

/-! ## The cgps logs -/

/-- The value of a float, if it is a number. -/
def finite? : PyFloat → Option ℚ
  | .finite q => some q
  | _ => none

/-- `float(line[0])` and `int(line[1])` of a line of the log. -/
def logRecord (line : Text) : Option (ℚ × Int) := do
  let words := split (strip line)
  let dtime ← finite? (← float? (← words[0]?))
  let n ← int? (← words[1]?)
  some (dtime, n)

/-- `startTime` and `endTime` -/
structure SessionTimes where
  startTime : ℚ
  endTime : ℚ
  deriving DecidableEq, Repr

/-- The body of `for line in fin`, after the line has been read. -/
def SessionTimes.see (times : SessionTimes) (entry : ℚ × Int) : SessionTimes :=
  if entry.2 = 0 then
    { times with startTime := entry.1 }
  else if entry.2 = 2 ∨ entry.2 = 3 then
    { times with endTime := entry.1 }
  else
    times

/-- The start and the end of a log; the header line is skipped. -/
def sessionTimes (log : Text) : Option SessionTimes :=
  ((fileLines log).tail.mapM logRecord).map
    (fun entries => entries.foldl SessionTimes.see { startTime := 0, endTime := 0 })

/-- `(slotsStart[i], slotsEnd[i])` -/
abbrev Slot := OpenInterval ℚ

/-- The session of a log; none if the log is left out (`continue`). -/
def SessionTimes.session (times : SessionTimes) : Option Slot :=
  if h : times.startTime = 0 ∨ times.endTime = 0 ∨ times.endTime ≤ times.startTime then
    none
  else
    some ⟨times.startTime, times.endTime, lt_of_not_ge fun hle => h (Or.inr (Or.inr hle))⟩

/-- The sessions of the logs, in the order in which `os.walk` yields the files. -/
def readSessions (logs : List Text) : Option (List Slot) :=
  (logs.mapM sessionTimes).map (List.filterMap SessionTimes.session)

/-! ## The slots -/

/-- `startTime<slotsEnd[i] and endTime>slotsStart[i]` -/
def Touches (session slot : Slot) : Prop :=
  session.lo < slot.hi ∧ slot.lo < session.hi

instance (session slot : Slot) : Decidable (Touches session slot) :=
  inferInstanceAs (Decidable (_ ∧ _))

/-- Move the start or the end of a slot, or both, out to those of the session. -/
def extend (session slot : Slot) : Slot where
  lo := if session.lo < slot.lo then session.lo else slot.lo
  hi := if slot.hi < session.hi then session.hi else slot.hi
  lo_lt_hi := by
    have hsession := session.lo_lt_hi
    have hslot := slot.lo_lt_hi
    split <;> split <;> linarith

/-- The merge loop for one session: `merged` is set by any slot that the session touches. -/
def mergeSession (slots : List Slot) (session : Slot) : List Slot :=
  let merged := slots.any (fun slot => decide (Touches session slot))
  let slots := slots.map (fun slot => if Touches session slot then extend session slot else slot)
  if merged then slots else slots ++ [session]

/-- The slots after all sessions. -/
def mergeSessions (sessions : List Slot) : List Slot :=
  sessions.foldl mergeSession []

/-! ## The energy model -/

def timeStep : ℚ := 1 / 2

/-- The power at a point of time, in uW. -/
def modelValue (slots : List Slot) (timepoint : ℚ) : Nat :=
  slots.foldl
    (fun value slot => if slot.lo < timepoint ∧ timepoint < slot.hi then 170000 else value) 120000

/-- `timepoint`, `value` and `energy` of one turn of the energy loop. -/
structure ModelRow where
  timepoint : ℚ
  value : Nat
  energy : ℚ
  deriving DecidableEq, Repr

/-- The rows of the energy loop, for a power at each point of time; at most `n` turns. -/
def energyRows (power : ℚ → Nat) (finishingtime : ℚ) : Nat → ℚ → ℚ → List ModelRow
  | 0, _, _ => []
  | n + 1, timepoint, energy =>
      if timepoint < finishingtime then
        let value := power timepoint
        let energy := energy + value * timeStep
        ⟨timepoint, value, energy⟩ ::
          energyRows power finishingtime n (timepoint + timeStep) energy
      else
        []

/-- The number of turns of the energy loop. -/
def turns (timepoint finishingtime : ℚ) : Nat :=
  ⌈(finishingtime - timepoint) / timeStep⌉₊

/-- `while (timepoint<finishingtime)` -/
def energyModel (slots : List Slot) (timepoint finishingtime : ℚ) : List ModelRow :=
  energyRows (modelValue slots) finishingtime (turns timepoint finishingtime) timepoint 0

/-- The first word of line `i` of `cgpsFixDelayData.txt`, as a number. -/
def timeReference (timeref : Text) (i : Nat) : Option ℚ := do
  finite? (← float? (← (split (strip ((fileLines timeref)[i]?.getD [])))[0]?))

/-- The files that model.py writes. -/
structure ModelFiles where
  powerModel : Text
  energyModel : Text
  deriving DecidableEq, Repr

def writeModel (rows : List ModelRow) : ModelFiles where
  powerModel := rows.flatMap
    (fun row => (PyFloat.finite row.timepoint).str ++ '\t' :: Nat.toDigits 10 row.value ++ ['\n'])
  energyModel := rows.flatMap
    (fun row => (PyFloat.finite row.timepoint).str ++ '\t' :: (PyFloat.finite row.energy).str ++
      ['\n'])

/-- The script, on the contents of the log files in the order in which `os.walk` yields them. -/
def model (logs : List Text) (timeref : Text) : Option ModelFiles := do
  let sessions ← readSessions logs
  let timepoint ← timeReference timeref 0
  let finishingtime ← timeReference timeref 1
  some (writeModel (energyModel (mergeSessions sessions) timepoint finishingtime))

/-! ## The slots cover the sessions -/

theorem touches_iff_meets (session slot : Slot) : Touches session slot ↔ slot.Meets session :=
  Iff.rfl

theorem extend_eq_hull (session slot : Slot) : extend session slot = slot.hull session := by
  apply OpenInterval.ext
  · show (if session.lo < slot.lo then session.lo else slot.lo) = min slot.lo session.lo
    rcases lt_or_ge session.lo slot.lo with hlt | hge
    · rw [if_pos hlt, min_eq_right hlt.le]
    · rw [if_neg (not_lt.2 hge), min_eq_left hge]
  · show (if slot.hi < session.hi then session.hi else slot.hi) = max slot.hi session.hi
    rcases lt_or_ge slot.hi session.hi with hlt | hge
    · rw [if_pos hlt, max_eq_right hlt.le]
    · rw [if_neg (not_lt.2 hge), max_eq_left hge]

/-- The merge loop lets the slots absorb the session. -/
theorem mergeSession_eq_absorb : mergeSession = absorb := by
  funext slots session
  by_cases hex : ∃ slot ∈ slots, slot.Meets session
  · simp [mergeSession, absorb, growAll, hex, touches_iff_meets, extend_eq_hull]
  · -- the session is appended and no slot changes
    have hmerged : slots.any (fun slot => decide (Touches session slot)) = false := by
      simpa [touches_iff_meets] using hex
    have hnone : ∀ slot ∈ slots, ¬ Touches session slot :=
      fun slot hslot htouches => hex ⟨slot, hslot, htouches⟩
    have hsame : slots.map (fun slot => if Touches session slot then extend session slot else slot)
        = slots := by
      calc
        _ = slots.map id := List.map_congr_left fun slot hslot => if_neg (hnone slot hslot)
        _ = slots := List.map_id slots
    simp [mergeSession, absorb, hmerged, hex, hsame]

theorem cover_mergeSessions (sessions : List Slot) :
    cover (mergeSessions sessions) = cover sessions := by
  rw [mergeSessions, mergeSession_eq_absorb, cover_foldl_absorb, cover_nil, Set.empty_union]

/-- The power depends on the covered set only. -/
theorem modelValue_eq (slots : List Slot) (timepoint : ℚ) :
    modelValue slots timepoint = if timepoint ∈ cover slots then 170000 else 120000 := by
  -- the loop goes on after a hit, which changes the value no more
  have hfold : ∀ value : Nat, slots.foldl
      (fun value slot => if slot.lo < timepoint ∧ timepoint < slot.hi then 170000 else value) value =
      if timepoint ∈ cover slots then 170000 else value := by
    induction slots with
    | nil => simp
    | cons slot slots ih =>
        intro value
        rw [List.foldl_cons, ih]
        by_cases hin : timepoint ∈ slot.points
        · have hslot : slot.lo < timepoint ∧ timepoint < slot.hi := hin
          simp [hslot, hin]
        · have hslot : ¬ (slot.lo < timepoint ∧ timepoint < slot.hi) := hin
          simp [hslot, hin]
  exact hfold 120000

theorem energyModel_congr {slots slots' : List Slot} (h : cover slots = cover slots')
    (timepoint finishingtime : ℚ) :
    energyModel slots timepoint finishingtime = energyModel slots' timepoint finishingtime := by
  have hvalue : modelValue slots = modelValue slots' := by
    funext t
    simp [modelValue_eq, h]
  simp [energyModel, hvalue]

/-- More turns than `turns` change nothing: the bound does not cut the loop short. -/
theorem energyRows_of_turns_le (power : ℚ → Nat) (finishingtime : ℚ) :
    ∀ (n : Nat) (timepoint energy : ℚ), turns timepoint finishingtime ≤ n →
      energyRows power finishingtime n timepoint energy =
        energyRows power finishingtime (turns timepoint finishingtime) timepoint energy := by
  intro n
  induction n with
  | zero =>
      intro timepoint energy hn
      rw [Nat.le_zero.1 hn]
  | succ n ih =>
      intro timepoint energy hn
      by_cases hlt : timepoint < finishingtime
      · -- one turn brings the bound down by one
        have hpos : 0 < (finishingtime - timepoint) / timeStep :=
          div_pos (sub_pos.2 hlt) (by norm_num [timeStep])
        have hturns : turns timepoint finishingtime =
            turns (timepoint + timeStep) finishingtime + 1 := by
          have hstep : (finishingtime - (timepoint + timeStep)) / timeStep =
              (finishingtime - timepoint) / timeStep - 1 := by
            rw [← sub_sub, sub_div, div_self (by norm_num [timeStep])]
          have hceil := Nat.ceil_pos.2 hpos
          rw [turns, turns, hstep, Nat.ceil_sub_one]
          omega
        rw [hturns]
        have hrest := ih (timepoint + timeStep) (energy + power timepoint * timeStep) (by omega)
        simp only [energyRows, hlt, if_true, hrest]
      · have hneg : (finishingtime - timepoint) / timeStep ≤ 0 :=
          div_nonpos_of_nonpos_of_nonneg (sub_nonpos.2 (not_lt.1 hlt)) (by norm_num [timeStep])
        have hturns : turns timepoint finishingtime = 0 := Nat.ceil_eq_zero.2 hneg
        simp [hturns, energyRows, hlt]

theorem readSessions_congr {logs logs' : List Text} (h : ∀ log, log ∈ logs ↔ log ∈ logs') :
    (readSessions logs = none ∧ readSessions logs' = none) ∨
      ∃ sessions sessions', readSessions logs = some sessions ∧
        readSessions logs' = some sessions' ∧ ∀ s, s ∈ sessions ↔ s ∈ sessions' := by
  by_cases hall : ∀ log ∈ logs, (sessionTimes log).isSome = true
  · have hall' : ∀ log ∈ logs', (sessionTimes log).isSome = true :=
      fun log hlog => hall log ((h log).2 hlog)
    refine Or.inr ⟨_, _, by rw [readSessions, mapM_eq_ite, if_pos hall]; rfl,
      by rw [readSessions, mapM_eq_ite, if_pos hall']; rfl, fun s => ?_⟩
    simp [List.mem_filterMap, h]
  · -- a log that cannot be read ends the script in either order
    have hall' : ¬ ∀ log ∈ logs', (sessionTimes log).isSome = true :=
      fun hall' => hall fun log hlog => hall' log ((h log).1 hlog)
    refine Or.inl ⟨?_, ?_⟩
    · rw [readSessions, mapM_eq_ite, if_neg hall]
      rfl
    · rw [readSessions, mapM_eq_ite, if_neg hall']
      rfl

/-- The files depend on the set of the logs only. -/
theorem model_congr {logs logs' : List Text} (h : ∀ log, log ∈ logs ↔ log ∈ logs')
    (timeref : Text) : model logs timeref = model logs' timeref := by
  rcases readSessions_congr h with ⟨hnone, hnone'⟩ | ⟨sessions, sessions', hread, hread', hsame⟩
  · simp [model, hnone, hnone']
  · have hcover : cover (mergeSessions sessions) = cover (mergeSessions sessions') := by
      rw [cover_mergeSessions, cover_mergeSessions, cover_congr hsame]
    have henergy := energyModel_congr hcover
    simp [model, hread, hread', henergy]

/-- The slots cover the sessions and nothing else; so the files that are written depend neither on
the order of the sessions or of the logs nor on repetitions among them. -/
theorem slots_cover_sessions {sessions sessions' : List Slot}
    (hsame : ∀ s, s ∈ sessions ↔ s ∈ sessions') :
    (∀ t : ℚ, (∃ slot ∈ mergeSessions sessions, slot.lo < t ∧ t < slot.hi) ↔
      ∃ session ∈ sessions, session.lo < t ∧ t < session.hi) ∧
    (∀ timepoint finishingtime : ℚ,
      writeModel (energyModel (mergeSessions sessions) timepoint finishingtime) =
        writeModel (energyModel (mergeSessions sessions') timepoint finishingtime)) ∧
    ∀ (logs logs' : List Text) (timeref : Text), (∀ log, log ∈ logs ↔ log ∈ logs') →
      model logs timeref = model logs' timeref := by
  refine ⟨fun t => ?_, fun timepoint finishingtime => ?_, fun logs logs' timeref h => ?_⟩
  · have hmem : t ∈ cover (mergeSessions sessions) ↔ t ∈ cover sessions := by
      rw [cover_mergeSessions]
    exact hmem
  · have hcover : cover (mergeSessions sessions) = cover (mergeSessions sessions') := by
      rw [cover_mergeSessions, cover_mergeSessions, cover_congr hsame]
    rw [energyModel_congr hcover]
  · exact model_congr h timeref

/-- Three sessions and another order of them, with one listed twice. -/
theorem slots_cover_sessions_reordered :
    writeModel (energyModel (mergeSessions
      [⟨1, 3, by decide⟩, ⟨5, 8, by decide⟩, ⟨2, 6, by decide⟩]) 0 9) =
    writeModel (energyModel (mergeSessions
      [⟨2, 6, by decide⟩, ⟨5, 8, by decide⟩, ⟨1, 3, by decide⟩, ⟨2, 6, by decide⟩]) 0 9) :=
  (@slots_cover_sessions [⟨1, 3, by decide⟩, ⟨5, 8, by decide⟩, ⟨2, 6, by decide⟩]
    [⟨2, 6, by decide⟩, ⟨5, 8, by decide⟩, ⟨1, 3, by decide⟩, ⟨2, 6, by decide⟩]
    (by intro s; simp; tauto)).2.1 0 9

example : mergeSessions [⟨1, 3, by decide⟩, ⟨5, 8, by decide⟩, ⟨2, 6, by decide⟩] ≠
    mergeSessions [⟨2, 6, by decide⟩, ⟨5, 8, by decide⟩, ⟨1, 3, by decide⟩] := by decide

end GraphScripts
end ResourceAccounting
