import ResourceAccounting.Python.Number
import ResourceAccounting.Schedules.Exec

/-!
# Measurement — the measuring thread of measurement.py and its writers

`measureThread.run` samples the power sensor into a buffer and hands every full buffer, and at the
end the rest, to a new `writerThread_power`.  The writers compete for `fileLock_power`; the one
that holds it appends its records to the power log.

The interleavings are the schedules of `Action`: the sampling thread, the caller of `stop()` and
every writer move independently.  Two lists record the history of a run: `measured`, the samples in
the order in which they were taken, and `acquired`, the writers in the order in which they obtained
the lock.
-/

namespace ResourceAccounting
namespace Accounting

open Python

/-! ## The power log -/

def lineBufferSize : Nat := 100

/-- The header `measureThread.run` writes, without a line end. -/
def powerHeader : Text := "#time #power(uW)".toList

abbrev Sample := ℚ × ℚ

/-- `myStr+"\n"` of `saveRecords_power` -/
def rowText (row : Sample) : Text :=
  percentF 6 row.1 ++ ' ' :: percentF 1 row.2 ++ ['\n']

/-- The rows in a flat array of times and powers. -/
def rows : List ℚ → List Sample
  | rtTime :: rtPower :: records => (rtTime, rtPower) :: rows records
  | _ => []

/-- The text `saveRecords_power` appends. -/
def saveRecordsPower (records : List ℚ) : Text :=
  (rows records).flatMap rowText

/-- The buffer that holds the given samples. -/
def flatten (samples : List Sample) : List ℚ :=
  samples.flatMap (fun s => [s.1, s.2])

@[simp]
theorem rows_flatten (samples : List Sample) : rows (flatten samples) = samples := by
  induction samples with
  | nil => rfl
  | cons s samples ih => simpa [flatten, rows] using ih

theorem flatten_append_singleton (samples : List Sample) (s : Sample) :
    flatten samples ++ [s.1, s.2] = flatten (samples ++ [s]) := by
  simp [flatten]

/-! ## Samples -/

/-- A sensor word with its bytes swapped; the device sends the high byte first, and readings above
65000 count as 0. -/
def sensorWord (word : Nat) : Nat :=
  let value := ((word &&& 0xFF00) >>> 8) ||| ((word &&& 0x00FF) <<< 8)
  if 65000 < value then 0 else value

/-- The power of a sample, from the words of the shunt and the bus register. -/
def rtPower (tmpShunt tmpBus : Nat) : ℚ :=
  let rtVoltage := (sensorWord tmpBus >>> 3) * 4
  let rtCurrent := (sensorWord tmpShunt : ℚ) / 10
  rtCurrent * rtVoltage

/-! ## The threads -/

inductive WriterStatus
  | waiting
  | writing
  | written
  | finished
  deriving DecidableEq, Repr

inductive Phase
  | sampling
  | checking
  | finished
  deriving DecidableEq, Repr

structure PowerState where
  myArray : List ℚ
  /-- `writeArray` of every started writer, in the order of the starts. -/
  writers : List (List ℚ)
  status : Nat → WriterStatus
  /-- The holder of `fileLock_power`. -/
  lock : Option Nat
  stopped : Bool
  phase : Phase
  /-- The rows of the power log. -/
  log : List Sample
  measured : List Sample
  acquired : List Nat

namespace PowerState

/-- `measureThread.run` has written the header and enters its loop. -/
def init : PowerState :=
  { myArray := []
    writers := []
    status := fun _ => .waiting
    lock := none
    stopped := false
    phase := .sampling
    log := []
    measured := []
    acquired := [] }

/-- The content of the power log. -/
def file (s : PowerState) : Text :=
  powerHeader ++ s.log.flatMap rowText

/-- The rows that writer `i` has to write. -/
def batch (s : PowerState) (i : Nat) : List Sample :=
  rows (s.writers.getD i [])

/-- `run` has returned and every writer has finished. -/
def Done (s : PowerState) : Prop :=
  s.phase = .finished ∧ ∀ i < s.writers.length, s.status i = .finished

instance (s : PowerState) : Decidable s.Done := by
  unfold Done
  infer_instance

/-- Hand the buffer to a new writer and replace it. -/
def startWriter (s : PowerState) : PowerState :=
  { s with writers := s.writers ++ [s.myArray], myArray := [] }

end PowerState

inductive Action
  | stop
  | sample (rtTime : ℚ) (tmpShunt tmpBus : Nat)
  | check
  | acquire (i : Nat)
  | save (i : Nat)
  | release (i : Nat)
  deriving Repr

/-- One move of one of the threads. -/
def powerStep (s : PowerState) : Action → Option PowerState
  | .stop => some { s with stopped := true }
  | .sample rtTime tmpShunt tmpBus =>
      if s.phase = .sampling then
        let power := rtPower tmpShunt tmpBus
        let s := { s with
          myArray := s.myArray ++ [rtTime, power]
          measured := s.measured ++ [(rtTime, power)]
          phase := .checking }
        -- two numbers for each sample
        if s.myArray.length = 2 * lineBufferSize then some s.startWriter else some s
      else
        none
  | .check =>
      if s.phase = .checking then
        if s.stopped then
          -- the rest goes to a writer of its own, even if the buffer is empty
          some { s.startWriter with phase := .finished }
        else
          some { s with phase := .sampling }
      else
        none
  | .acquire i =>
      -- the lock goes to any thread that waits for it
      if i < s.writers.length ∧ s.status i = .waiting ∧ s.lock = none then
        some { s with
          lock := some i
          status := Function.update s.status i .writing
          acquired := s.acquired ++ [i] }
      else
        none
  | .save i =>
      if s.status i = .writing then
        some { s with
          log := s.log ++ s.batch i
          status := Function.update s.status i .written }
      else
        none
  | .release i =>
      if s.status i = .written then
        some { s with
          lock := none
          status := Function.update s.status i .finished }
      else
        none

end Accounting
end ResourceAccounting
