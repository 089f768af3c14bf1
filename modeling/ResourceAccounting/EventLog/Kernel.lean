import Mathlib.Algebra.Group.Nat.Defs
import ResourceAccounting.Python.Text

/-!
# Kernel — what the event log device of the kernel answers

The structures of `user_event_log.h`, for an `unsigned long` of `w` bits:

- `SafeCount.total` — the count that the three words stand for;
- `UserEventLog` — the log of a device; `ncount` entries of `event_consumed` are in use;
- `devices` — the minors in front of the end mark.
-/

namespace ResourceAccounting
namespace EventLog

open Python

/-- `1<<6` -/
def MAX_INPUT_DEVICE : Nat := 64

/-- `1<<4` -/
def MAX_PID : Nat := 16

def END_MARK : UInt8 := 64

/-- `~((unsigned long)0)` -/
def MAX_LONG (w : Nat) : Nat := 2 ^ w - 1

/-- `safe_count` -/
@[ext]
structure SafeCount (w : Nat) where
  count : BitVec w
  overflow_count : BitVec w
  overflow_overflow_count : BitVec w
  deriving DecidableEq, Repr

/-- A count that fits into its first word. -/
def SafeCount.ofCount {w : Nat} (count : BitVec w) : SafeCount w where
  count := count
  overflow_count := 0
  overflow_overflow_count := 0

/-- `count + MAX_INT*(overflow_count + MAX_INT*overflow_overflow_count)` -/
def SafeCount.total {w : Nat} (c : SafeCount w) : Nat :=
  c.count.toNat + MAX_LONG w *
    (c.overflow_count.toNat + MAX_LONG w * c.overflow_overflow_count.toNat)

/-- `struct consume_event_counts` -/
structure ConsumeEventCounts (w : Nat) where
  counts : SafeCount w
  pid : BitVec 32
  deriving DecidableEq, Repr

/-- `struct timeval` -/
structure TimeVal (w : Nat) where
  tv_sec : BitVec w
  tv_usec : BitVec w
  deriving DecidableEq, Repr

/-- `struct user_event_log`, with the characters of `name` up to the terminator. -/
structure UserEventLog (w : Nat) where
  name : Text
  dev_opened_time : TimeVal w
  event_dropped : SafeCount w
  event_generated : SafeCount w
  event_consumed : Vector (ConsumeEventCounts w) MAX_PID
  avg : TimeVal w
  ncount : Nat
  ncount_le : ncount ≤ MAX_PID
  deriving DecidableEq, Repr

/-- `log.event_consumed[i]`, for the entries in use. -/
def UserEventLog.consumed {w : Nat} (log : UserEventLog w) (i : Fin log.ncount) :
    ConsumeEventCounts w :=
  log.event_consumed.get (i.castLE log.ncount_le)

/-- The minors that `while(minors[i]!=END_MARK)` runs through. -/
def devices (minors : List UInt8) : List UInt8 :=
  minors.takeWhile (· ≠ END_MARK)

/-- A device from which two processes have taken 5 and 7 events. -/
def twoReaders : UserEventLog 64 where
  name := "ttyMSM0".toList
  dev_opened_time := ⟨41, 250000⟩
  event_dropped := SafeCount.ofCount 0
  event_generated := SafeCount.ofCount 12
  event_consumed :=
    ((Vector.replicate 16 ⟨SafeCount.ofCount 0, 0⟩).set 0 ⟨SafeCount.ofCount 5, 812⟩).set 1
      ⟨SafeCount.ofCount 7, 955⟩
  avg := ⟨0, 1200⟩
  ncount := 2
  ncount_le := by decide

end EventLog
end ResourceAccounting
