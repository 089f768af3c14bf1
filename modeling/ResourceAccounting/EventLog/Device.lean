import Mathlib.Data.Fin.Basic
import ResourceAccounting.EventLog.Kernel

/-!
# Device — the device module that Python scripts read the event log with

`py_get_device` counts the devices, and `py_set_device_info` is to report a process entry of one of
them.  It passes the index of the device to the kernel as if it were the minor, and its two nested
loops share the variable `i`, with which the entry is picked after the inner loop has ended:

- `getDevice` — the number of minors in front of the end mark;
- `scanEntries`, `report` — the loops, and the tuple that is built after them;
- `setDeviceInfo` — a call, with the minor that the kernel is asked for;
- `reports_iff` — the calls that report an entry of the requested device.
-/

namespace ResourceAccounting
namespace EventLog

open Python

variable {w : Nat}

/-! ## The module -/

/-- The array that `LGETDEVS` fills. -/
abbrev Minors :=
  Vector UInt8 MAX_INPUT_DEVICE

/-- `py_get_device`; none if the loop runs out of the array, as there is no end mark in it. -/
def getDevice (minors : Minors) : Option Nat :=
  let ndevices := (devices minors.toList).length
  if ndevices < MAX_INPUT_DEVICE then some ndevices else none

/-- The arguments that `Py_BuildValue` gets for `"(sllllllll)"`, each an `unsigned` word that is
taken for a `long`. -/
structure DeviceInfo where
  name : Text
  opened_sec : Int
  opened_usec : Int
  generated : Int
  dropped : Int
  pid : Int
  count : Int
  avg_sec : Int
  avg_usec : Int
  deriving DecidableEq, Repr

/-- What `py_set_device_info` returns. -/
inductive Result
  /-- `NULL`: an exception in Python. -/
  | null
  | info (i : DeviceInfo)
  /-- The value of no `return`, or of what lies behind an array. -/
  | undefined
  deriving DecidableEq, Repr

/-- `i` and `pname` -/
structure Scan where
  i : Nat
  pname : Option Text
  deriving DecidableEq, Repr

/-- The inner loop over the entries. -/
def scanEntries (log : UserEventLog w) : Scan :=
  (List.range log.ncount).foldl
    (fun s _ => { i := s.i + 1, pname := if s.i = 0 then some log.name else s.pname })
    { i := 0, pname := none }

/-- The tuple, with the entry that `i` picks. -/
def buildValue (log : UserEventLog w) (s : Scan) : Result :=
  match s.pname, log.event_consumed[s.i]? with
  | some name, some entry => .info
      { name := name
        opened_sec := log.dev_opened_time.tv_sec.toInt
        opened_usec := log.dev_opened_time.tv_usec.toInt
        generated := log.event_generated.count.toInt
        dropped := log.event_dropped.count.toInt
        pid := (entry.pid.setWidth w).toInt
        count := entry.counts.count.toInt
        avg_sec := log.avg.tv_sec.toInt
        avg_usec := log.avg.tv_usec.toInt }
  | _, _ => .undefined

/-- The loops: the outer one returns in its first turn, after the inner one has moved `i`. -/
def report (log : UserEventLog w) : Result :=
  if 0 < log.ncount then buildValue log (scanEntries log) else .undefined

/-- `cargs.minor`, if the kernel is asked, and the result. -/
structure Call where
  request : Option Nat
  result : Result
  deriving DecidableEq, Repr

/-- `py_set_device_info`; `kernel` is `LGETDEVINFO`. -/
def setDeviceInfo (kernel : Nat → Option (UserEventLog w)) (minors : Minors)
    (deviceId : Fin MAX_INPUT_DEVICE) : Call :=
  if minors.get deviceId = END_MARK then
    { request := none, result := .null }
  else
    match kernel deviceId with
    | none => { request := some deviceId, result := .null }
    | some log => { request := some deviceId, result := report log }

/-! ## The demand -/

/-- The tuple has the pid and the consumed count of the entry. -/
def Result.Shows (r : Result) (entry : ConsumeEventCounts w) : Prop :=
  match r with
  | .info i => i.pid = entry.pid.toNat ∧ i.count = entry.counts.count.toNat
  | _ => False

instance (r : Result) (entry : ConsumeEventCounts w) : Decidable (r.Shows entry) := by
  unfold Result.Shows
  split <;> infer_instance

/-- The kernel is asked for the minor, and the result shows an entry in use of its log, or is an
error if there is none. -/
def Reports (call : Call) (minor : Nat) (log : UserEventLog w) : Prop :=
  call.request = some minor ∧
    if log.ncount = 0 then call.result = .null
    else ∃ i : Fin log.ncount, call.result.Shows (log.consumed i)

instance (call : Call) (minor : Nat) (log : UserEventLog w) :
    Decidable (Reports call minor log) := by
  unfold Reports
  infer_instance

/-- The entry behind those in use stands in the array and shows, as `long` words, the pid and the
count of one of them. -/
def RepeatsEntry (log : UserEventLog w) : Prop :=
  ∃ (h : log.ncount < MAX_PID) (i : Fin log.ncount),
    ((log.event_consumed.get ⟨log.ncount, h⟩).pid.setWidth w).toInt = (log.consumed i).pid.toNat ∧
    (log.event_consumed.get ⟨log.ncount, h⟩).counts.count.toInt =
      (log.consumed i).counts.count.toNat

/-! ## The entry that is picked -/

/-- The inner loop leaves the number of entries behind in `i`. -/
theorem scanEntries_eq (log : UserEventLog w) :
    scanEntries log =
      { i := log.ncount, pname := if log.ncount = 0 then none else some log.name } := by
  unfold scanEntries
  induction log.ncount with
  | zero => rfl
  | succ n ih =>
      rw [List.range_succ, List.foldl_concat, ih]
      by_cases hn : n = 0
      · simp [hn]
      · simp [hn]

/-- With no entry the function ends without a `return`. -/
theorem report_of_ncount_eq_zero {log : UserEventLog w} (h : log.ncount = 0) :
    report log = .undefined := by
  simp [report, h]

theorem report_shows_iff {log : UserEventLog w} (h : log.ncount ≠ 0) :
    (∃ i : Fin log.ncount, (report log).Shows (log.consumed i)) ↔ RepeatsEntry log := by
  rw [report, if_pos (Nat.pos_of_ne_zero h), scanEntries_eq, if_neg h, buildValue]
  by_cases hlt : log.ncount < MAX_PID
  · have hentry : log.event_consumed[log.ncount]? =
        some (log.event_consumed.get ⟨log.ncount, hlt⟩) :=
      Vector.getElem?_eq_getElem hlt
    simp only [hentry, Result.Shows, RepeatsEntry, hlt, exists_true_left]
  · -- `i` points behind the array
    simp [Result.Shows, RepeatsEntry, hlt]

theorem ne_END_MARK_of_lt {minors : Minors} {n : Nat} (hn : getDevice minors = some n)
    {k : Fin MAX_INPUT_DEVICE} (hk : k.val < n) : minors.get k ≠ END_MARK := by
  have hlength : (devices minors.toList).length = n := by
    simp only [getDevice, Option.ite_none_right_eq_some, Option.some_inj] at hn
    exact hn.2
  have hdevice : k.val < (devices minors.toList).length := by omega
  have hmem := List.mem_takeWhile_imp (List.getElem_mem hdevice)
  have hget : (devices minors.toList)[k.val] = minors.get k :=
    (List.takeWhile_prefix _).getElem hdevice
  rw [hget] at hmem
  simpa using hmem

theorem not_repeatsEntry_of_ncount_eq_zero {log : UserEventLog w} (h : log.ncount = 0) :
    ¬ RepeatsEntry log := by
  rintro ⟨-, i, -⟩
  exact absurd i.isLt (by omega)

/-- A device in front of the end mark is reported if and only if its index happens to be its minor
and the first entry that is not in use repeats one that is. -/
theorem reports_iff {kernel : Nat → Option (UserEventLog w)} {minors : Minors} {n : Nat}
    (hn : getDevice minors = some n) {k : Fin MAX_INPUT_DEVICE} (hk : k.val < n)
    {log : UserEventLog w} (hlog : kernel (minors.get k).toNat = some log) :
    Reports (setDeviceInfo kernel minors k) (minors.get k).toNat log ↔
      (minors.get k).toNat = k ∧ RepeatsEntry log := by
  rw [Reports, setDeviceInfo, if_neg (ne_END_MARK_of_lt hn hk)]
  by_cases hminor : (minors.get k).toNat = k
  · rw [hminor] at hlog
    simp only [hlog, hminor, true_and]
    by_cases hzero : log.ncount = 0
    · simp [hzero, report_of_ncount_eq_zero hzero, not_repeatsEntry_of_ncount_eq_zero hzero]
    · rw [if_neg hzero, report_shows_iff hzero]
  · -- the kernel is asked for another minor
    cases hkernel : kernel k with
    | none => simp [hminor, Ne.symm hminor]
    | some other => simp [hminor, Ne.symm hminor]

/-- A log of one process whose entry stands in every place of the array. -/
def oneReader : UserEventLog 64 :=
  { twoReaders with
    event_consumed := Vector.replicate 16 ⟨SafeCount.ofCount 5, 812⟩
    ncount := 1
    ncount_le := by decide }

/-- The device has minor 0. -/
theorem reports_iff_oneReader : Reports
    (setDeviceInfo (fun _ => some oneReader) ((Vector.replicate 64 0).set 1 END_MARK)
      ⟨0, by decide⟩) 0 oneReader :=
  (@reports_iff 64 _ ((Vector.replicate 64 0).set 1 END_MARK) 1 (by decide +kernel) ⟨0, by decide⟩
    (by decide) oneReader rfl).2
    ⟨by decide +kernel, by decide, ⟨0, by decide⟩, by decide +kernel, by decide +kernel⟩

/-- The first device has minor 3 and two processes: the kernel is asked for minor 0, and what is
shown is the third entry. -/
theorem exists_not_reports :
    ¬ ∀ (w : Nat) (kernel : Nat → Option (UserEventLog w)) (minors : Minors) (n : Nat)
      (k : Fin MAX_INPUT_DEVICE) (log : UserEventLog w), getDevice minors = some n → k.val < n →
        kernel (minors.get k).toNat = some log →
          Reports (setDeviceInfo kernel minors k) (minors.get k).toNat log := by
  intro h
  have hfirst := h 64 (fun _ => some twoReaders) ((Vector.replicate 64 3).set 1 END_MARK) 1
    ⟨0, by decide⟩ twoReaders (by decide +kernel) (by decide) rfl
  revert hfirst
  decide +kernel

end EventLog
end ResourceAccounting
