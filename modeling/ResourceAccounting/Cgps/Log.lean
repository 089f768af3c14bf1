import ResourceAccounting.GraphScripts.Model

/-!
# Log — the log of a cgps process and what model.py reads from it

Every log has one header line and one line for each record: the time in seconds, with six
decimals, and a number for the kind of the record.

- `Record.text`, `logText` — what the `fprintf` calls of `main` write;
- `timesOf` — the start and the end that model.py's reader takes from the records;
- `sessionTimes_logText` — the reader sees exactly these records.
-/

namespace ResourceAccounting
namespace Cgps

open Python GraphScripts

/-! ## Records -/

/-- `#time #0-start/1-response/2-fix/3-quit` -/
def header : Text := "#time #0-start/1-response/2-fix/3-quit\n".toList

inductive Mark
  | start
  | response
  | fix
  | quit
  deriving DecidableEq, Repr

def Mark.number : Mark → Nat
  | .start => 0
  | .response => 1
  | .fix => 2
  | .quit => 3

structure Record where
  /-- What `clock_gettime(CLOCK_MONOTONIC, &timeofday)` gave, in nanoseconds. -/
  clock : Nat
  mark : Mark
  deriving DecidableEq, Repr

namespace Record

/-- `tstamp-start_time`; `start_time` is 0. -/
def tstamp (r : Record) : ℚ :=
  (r.clock : ℚ) / 10 ^ 9

/-- `fprintf(my_file, "%.6f n\n", tstamp-start_time)` -/
def text (r : Record) : Text :=
  percentF 6 r.tstamp ++ ' ' :: Nat.toDigits 10 r.mark.number ++ ['\n']

/-- The time that the log shows. -/
def time (r : Record) : ℚ :=
  roundTo 6 r.tstamp

/-- A record that model.py takes for the end of the session. -/
def IsEnd (r : Record) : Prop :=
  r.mark = .fix ∨ r.mark = .quit

instance (r : Record) : Decidable r.IsEnd :=
  inferInstanceAs (Decidable (_ ∨ _))

theorem tstamp_nonneg (r : Record) : 0 ≤ r.tstamp :=
  div_nonneg (Nat.cast_nonneg _) (by positivity)

theorem time_nonneg (r : Record) : 0 ≤ r.time := by
  rw [time, roundTo, if_neg (not_lt.2 r.tstamp_nonneg)]
  positivity

theorem isLine_text (r : Record) : IsLine r.text := by
  refine ⟨percentF 6 r.tstamp ++ ' ' :: Nat.toDigits 10 r.mark.number, by simp [text], ?_⟩
  have htime := (isWord_percentF 6 r.tstamp).newline_not_mem
  have hnumber := (isWord_toDigits r.mark.number).newline_not_mem
  simp [htime, hnumber]

/-- model.py reads the time as the log shows it, and the number of the mark. -/
theorem logRecord_text (r : Record) : logRecord r.text = some (r.time, (r.mark.number : Int)) := by
  have hwords : split (strip r.text) = [percentF 6 r.tstamp, Nat.toDigits 10 r.mark.number] := by
    rw [split_strip, text, split_append_blank_singleton _ (by decide),
      split_word_append_blank (isWord_percentF 6 r.tstamp) (percentF_ne_nil 6 r.tstamp) _ (by decide),
      split_word (isWord_toDigits _) Nat.toDigits_ne_nil]
  simp [logRecord, hwords, float?_percentF, int?_toDigits, finite?, time]

end Record

/-! ## Logs -/

/-- The content of a log with these records. -/
def logText (records : List Record) : Text :=
  header ++ records.flatMap Record.text

theorem logText_append_singleton (records : List Record) (r : Record) :
    logText records ++ r.text = logText (records ++ [r]) := by
  simp [logText]

/-- What model.py's loop over the lines does with a record. -/
def see (times : SessionTimes) (r : Record) : SessionTimes :=
  times.see (r.time, (r.mark.number : Int))

/-- `startTime` and `endTime` after these records. -/
def timesOf (records : List Record) : SessionTimes :=
  records.foldl see { startTime := 0, endTime := 0 }

theorem see_of_start (times : SessionTimes) {r : Record} (h : r.mark = .start) :
    see times r = { times with startTime := r.time } := by
  simp [see, SessionTimes.see, h, Mark.number]

theorem see_of_isEnd (times : SessionTimes) {r : Record} (h : r.IsEnd) :
    see times r = { times with endTime := r.time } := by
  rcases h with h | h <;> simp [see, SessionTimes.see, h, Mark.number]

theorem see_of_response (times : SessionTimes) {r : Record} (h : r.mark = .response) :
    see times r = times := by
  simp [see, SessionTimes.see, h, Mark.number]

theorem mark_cases (r : Record) : r.mark = .start ∨ r.mark = .response ∨ r.IsEnd := by
  unfold Record.IsEnd
  cases r.mark <;> simp

/-- The start stays what it is as long as no start is recorded. -/
theorem startTime_foldl_see (records : List Record) (times : SessionTimes)
    (h : ∀ r ∈ records, r.mark ≠ .start) :
    (records.foldl see times).startTime = times.startTime := by
  induction records generalizing times with
  | nil => rfl
  | cons r records ih =>
      have hsee : (see times r).startTime = times.startTime := by
        rcases mark_cases r with hstart | hresponse | hend
        · exact absurd hstart (h r List.mem_cons_self)
        · rw [see_of_response times hresponse]
        · rw [see_of_isEnd times hend]
      calc
        ((r :: records).foldl see times).startTime = (see times r).startTime :=
              ih _ fun q hq => h q (List.mem_cons_of_mem _ hq)
        _ = times.startTime := hsee

/-- The end is the time of some record. -/
theorem endTime_foldl_see (records : List Record) (times : SessionTimes) :
    (records.foldl see times).endTime = times.endTime ∨
      ∃ r ∈ records, (records.foldl see times).endTime = r.time := by
  induction records generalizing times with
  | nil => exact Or.inl rfl
  | cons r records ih =>
      rcases ih (see times r) with hkeep | ⟨q, hq, hend⟩
      · -- the rest keeps the end that `r` leaves
        rcases mark_cases r with hstart | hresponse | hisEnd
        · exact Or.inl (hkeep.trans (by rw [see_of_start times hstart]))
        · exact Or.inl (hkeep.trans (by rw [see_of_response times hresponse]))
        · refine Or.inr ⟨r, List.mem_cons_self, hkeep.trans ?_⟩
          rw [see_of_isEnd times hisEnd]
      · exact Or.inr ⟨q, List.mem_cons_of_mem _ hq, hend⟩

/-- model.py's reader takes exactly the records from the log. -/
theorem sessionTimes_logText (records : List Record) :
    sessionTimes (logText records) = some (timesOf records) := by
  have hlines : fileLines (logText records) = header :: records.map Record.text := by
    have hheader : header = "#time #0-start/1-response/2-fix/3-quit".toList ++ ['\n'] := by
      decide
    have hrest : fileLines (records.map Record.text).flatten = records.map Record.text := by
      refine fileLines_flatten fun l hl => ?_
      rcases List.mem_map.1 hl with ⟨r, -, rfl⟩
      exact r.isLine_text
    rw [logText, hheader, List.flatMap_def, List.append_assoc, List.singleton_append,
      fileLines_line_append (by decide), hrest]
  have hread : (records.map Record.text).mapM logRecord =
      some (records.map (fun r => (r.time, (r.mark.number : Int)))) := by
    have hall : ∀ l ∈ records.map Record.text, (logRecord l).isSome = true := by
      intro l hl
      rcases List.mem_map.1 hl with ⟨r, -, rfl⟩
      simp [Record.logRecord_text]
    -- no record fails, so the reader's list is a plain map over the records
    rw [mapM_eq_ite, if_pos hall, List.filterMap_map]
    congr 1
    rw [← List.filterMap_eq_map]
    congr 1
    funext r
    simp [Record.logRecord_text]
  simp only [sessionTimes, hlines, List.tail_cons, hread, Option.map_some, List.foldl_map]
  rfl

end Cgps
end ResourceAccounting
