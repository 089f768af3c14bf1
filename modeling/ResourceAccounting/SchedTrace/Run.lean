import ResourceAccounting.Python.Number
import ResourceAccounting.Streams.HighWater

/-!
# Run — run.py collects the scheduler trace

Every three seconds run.py copies the ftrace buffer to a file and appends the lines it has not seen
yet to the scheduler log.  It tells them by their timestamps, of which it keeps the last one:

- `timestamp` — `splt[3][:-1]`, a text: `float(timestamp)` is evaluated for its `ValueError` only;
- `LastTime.below` — `timestamp>last_time`, a comparison of texts (and, before the first line, of a
  text with the integer 0, which Python 2 decides for the text);
- `collect` — the loop over the snapshots, `none` where an `IndexError` ends the script.

So the collector of `Streams.HighWater` runs with the texts as its keys, and the log is complete
as long as the timestamps increase as texts.
-/

namespace ResourceAccounting
namespace SchedTrace

open Python Streams

/-! ## The script -/

/-- `last_time`: the integer 0, later a timestamp. -/
inductive LastTime
  | zero
  | text (t : Text)
  deriving DecidableEq, Repr

/-- `timestamp>last_time` -/
def LastTime.below : LastTime → Text → Bool
  | .zero, _ => true
  | .text last, timestamp => decide (last < timestamp)

structure RunState where
  /-- The lines written to the scheduler log. -/
  flog : List Text
  /-- The lines written to the error log. -/
  errors : List Text
  lastTime : LastTime
  numErr : Nat
  deriving DecidableEq, Repr

def RunState.init : RunState :=
  { flog := [], errors := [], lastTime := .zero, numErr := 0 }

/-- `line.strip().split()[3][:-1]` -/
def timestamp (line : Text) : Option Text :=
  (split (strip line))[3]?.map List.dropLast

/-- Write the line and keep its timestamp, if that exceeds the last one. -/
def RunState.record (s : RunState) (line stamp : Text) : RunState :=
  if s.lastTime.below stamp then
    { s with flog := s.flog ++ [line], lastTime := .text stamp }
  else
    s

/-- The body of `for line in fread`. -/
def processLine (s : RunState) (line : Text) : Option RunState :=
  if line.head? = some '#' then
    some s
  else do
    let stamp ← timestamp line
    if (float? stamp).isSome then
      some (s.record line stamp)
    else
      -- the task name of rsyslog's main thread has a blank in it
      let myStr := replace "rs:main Q:Reg".toList "rs:main_Q:Reg".toList line
      let stamp ← timestamp myStr
      if (float? stamp).isSome then
        some (s.record myStr stamp)
      else
        some { s with errors := s.errors ++ [line], numErr := s.numErr + 1 }

/-- `while (1)`, as far as these contents of `/tmp/run_tmp.tmp`. -/
def collect (contents : List Text) : Option RunState :=
  contents.foldlM (fun s content => (fileLines content).foldlM processLine s) RunState.init

/-! ## The trace -/

/-- A line of the trace: its fourth word is the time in seconds, with six decimals, and a colon. -/
structure TraceLine where
  usec : Nat
  text : Text
  isLine : IsLine text
  not_comment : text.head? ≠ some '#'
  time_word : (split (strip text))[3]? = some (fixedDigits 6 usec ++ [':'])

/-- The text that run.py takes for the time of the line. -/
def TraceLine.stamp (line : TraceLine) : Text :=
  fixedDigits 6 line.usec

/-- The content of `/tmp/run_tmp.tmp`: a window of the trace, with comment lines in any place. -/
structure Snapshot (trace : List TraceLine) where
  window : Window trace.length
  lines : List Text
  isLine : ∀ line ∈ lines, IsLine line
  events : lines.filter (fun line => line.head? ≠ some '#') =
    (window.items trace).map TraceLine.text

namespace Snapshot

variable {trace : List TraceLine}

def content (snapshot : Snapshot trace) : Text :=
  snapshot.lines.flatten

/-- The snapshot of a window, without comment lines. -/
def ofWindow (trace : List TraceLine) (window : Window trace.length) : Snapshot trace where
  window := window
  lines := (window.items trace).map TraceLine.text
  isLine := by
    intro line hline
    rcases List.mem_map.1 hline with ⟨item, -, rfl⟩
    exact item.isLine
  events := by
    refine List.filter_eq_self.2 fun line hline => ?_
    rcases List.mem_map.1 hline with ⟨item, -, rfl⟩
    simpa using item.not_comment

end Snapshot

/-- The line that ftrace prints for a switch at this time. -/
def switchLine (usec : Nat) : TraceLine where
  usec := usec
  text := "sh-7 [000] d..3".toList ++ ' ' :: ((fixedDigits 6 usec ++ [':']) ++ ' ' ::
    "sched_switch: prev_comm=sh".toList) ++ ['\n']
  isLine := by
    refine ⟨_, rfl, ?_⟩
    have htime := (isWord_fixedDigits 6 usec).newline_not_mem
    simp [htime]
  not_comment := by simp
  time_word := by
    have hword : IsWord (fixedDigits 6 usec ++ [':']) :=
      isWord_append (isWord_fixedDigits 6 usec) (by decide)
    have hfront : split "sh-7 [000] d..3".toList =
        ["sh-7".toList, "[000]".toList, "d..3".toList] := by
      decide
    rw [split_strip, split_append_blank_singleton _ (by decide), split_append_blank _ _ (by decide),
      split_word_append_blank hword (by simp) _ (by decide), hfront]
    rfl

/-- The lines of the trace that some snapshot shows. -/
def seenLines {trace : List TraceLine} (snapshots : List (Snapshot trace)) : List TraceLine :=
  seen trace (snapshots.map Snapshot.window)

/-- The scheduler log is the part of the trace seen so far. -/
def Collected {trace : List TraceLine} (snapshots : List (Snapshot trace)) : Prop :=
  (collect (snapshots.map Snapshot.content)).map RunState.flog =
    some ((seenLines snapshots).map TraceLine.text)

/-! ## The collector -/

@[simp]
theorem TraceLine.timestamp_text (line : TraceLine) : timestamp line.text = some line.stamp := by
  rw [timestamp, line.time_word]
  simp [TraceLine.stamp]

theorem TraceLine.text_injective : Function.Injective TraceLine.text := by
  intro a b h
  have hstamp : a.stamp = b.stamp := by
    have htime := congrArg timestamp h
    simpa using htime
  have husec : a.usec = b.usec := fixedDigits_injective (by decide) hstamp
  cases a
  cases b
  simp_all

/-- The state after the lines of `log` have been written. -/
def after (log : List TraceLine) : RunState :=
  { flog := log.map TraceLine.text
    errors := []
    lastTime := (log.getLast?.map (fun line => LastTime.text line.stamp)).getD .zero
    numErr := 0 }

theorem processLine_comment (s : RunState) {line : Text} (h : line.head? = some '#') :
    processLine s line = some s := by
  simp [processLine, h]

/-- A line of the trace is admitted by its timestamp as a text. -/
theorem processLine_text (log : List TraceLine) (line : TraceLine) :
    processLine (after log) line.text = some (after (keepAbove TraceLine.stamp log line)) := by
  have hfloat : (float? line.stamp).isSome = true := by
    rw [TraceLine.stamp, float?_fixedDigits (by decide)]
    rfl
  have hrecord : (after log).record line.text line.stamp =
      after (keepAbove TraceLine.stamp log line) := by
    -- `last_time` is the stamp of the last line written
    rcases List.eq_nil_or_concat log with rfl | ⟨log, last, rfl⟩
    · simp [RunState.record, after, LastTime.below, keepAbove]
    · rw [List.concat_eq_append, keepAbove_concat]
      by_cases hlt : last.stamp < line.stamp
      · simp [RunState.record, after, LastTime.below, hlt]
      · simp [RunState.record, after, LastTime.below, hlt]
  simp only [processLine, line.not_comment, if_false, line.timestamp_text, Option.bind_eq_bind,
    Option.bind_some, hfloat, if_true, hrecord]

/-- Comment lines change nothing, the other lines go through the collector. -/
theorem foldlM_processLine (lines : List Text) (items log : List TraceLine)
    (h : lines.filter (fun line => line.head? ≠ some '#') = items.map TraceLine.text) :
    lines.foldlM processLine (after log) =
      some (after (items.foldl (keepAbove TraceLine.stamp) log)) := by
  induction lines generalizing items log with
  | nil =>
      have hnil : items = [] := by
        simpa using h.symm
      simp [hnil]
  | cons line lines ih =>
      by_cases hcomment : line.head? = some '#'
      · have hrest : lines.filter (fun line => line.head? ≠ some '#') =
            items.map TraceLine.text := by
          simpa [hcomment] using h
        simpa [processLine_comment _ hcomment] using ih items log hrest
      · cases items with
        | nil => simp [hcomment] at h
        | cons item items =>
            have hsplit : line = item.text ∧ lines.filter (fun line => line.head? ≠ some '#') =
                items.map TraceLine.text := by
              simpa [hcomment] using h
            rw [hsplit.1, List.foldlM_cons, processLine_text]
            exact ih items _ hsplit.2

theorem collect_content {trace : List TraceLine} (snapshots : List (Snapshot trace)) :
    collect (snapshots.map Snapshot.content) =
      some (after (((snapshots.map Snapshot.window).flatMap (Window.items trace)).foldl
        (keepAbove TraceLine.stamp) [])) := by
  have hrun : ∀ log : List TraceLine,
      (snapshots.map Snapshot.content).foldlM
        (fun s content => (fileLines content).foldlM processLine s) (after log) =
      some (after (((snapshots.map Snapshot.window).flatMap (Window.items trace)).foldl
        (keepAbove TraceLine.stamp) log)) := by
    induction snapshots with
    | nil => intro log; rfl
    | cons snapshot snapshots ih =>
        intro log
        -- the lines of the temporary file are those of the snapshot
        have hlines : fileLines snapshot.content = snapshot.lines :=
          fileLines_flatten snapshot.isLine
        have hone := foldlM_processLine snapshot.lines _ log snapshot.events
        simp only [List.map_cons, List.foldlM_cons, hlines, hone, List.flatMap_cons,
          List.foldl_append]
        exact ih _
  exact hrun []

theorem collected_iff_foldl {trace : List TraceLine} (snapshots : List (Snapshot trace)) :
    Collected snapshots ↔
      ((snapshots.map Snapshot.window).flatMap (Window.items trace)).foldl
        (keepAbove TraceLine.stamp) [] = seenLines snapshots := by
  rw [Collected, collect_content, Option.map_some, Option.some_inj]
  exact (List.map_injective_iff.2 TraceLine.text_injective).eq_iff

/-- The log is the part of the trace seen so far exactly when the timestamps of that part increase
as texts and no snapshot reaches back behind the first one. -/
theorem collected_iff {trace : List TraceLine}
    (htrace : trace.Pairwise (fun a b => a.usec < b.usec)) (snapshots : List (Snapshot trace))
    (hover : Overlapping (snapshots.map Snapshot.window)) :
    Collected snapshots ↔
      (seenLines snapshots).Pairwise (fun a b => a.stamp < b.stamp) ∧
        NoneBeforeFirst (snapshots.map Snapshot.window) :=
  (collected_iff_foldl snapshots).trans (collect_eq_seen_iff htrace _ hover)

/-- Two snapshots that share a line. -/
theorem collected_iff_overlap :
    Collected [Snapshot.ofWindow [switchLine 10000000, switchLine 10000001, switchLine 10000002]
        ⟨0, 2, by decide, by decide⟩,
      Snapshot.ofWindow [switchLine 10000000, switchLine 10000001, switchLine 10000002]
        ⟨1, 3, by decide, by decide⟩] := by
  refine (collected_iff (by simp [switchLine]) _ ?_).2 ⟨?_, ?_⟩
  · simp [Overlapping, Snapshot.ofWindow]
  · decide +kernel
  · simp [NoneBeforeFirst, Snapshot.ofWindow]

/-- The timestamps 9.999999 and 10.000000: the second line is not written. -/
theorem exists_not_collected :
    ¬ ∀ (trace : List TraceLine) (snapshots : List (Snapshot trace)),
      trace.Pairwise (fun a b => a.usec < b.usec) →
      Overlapping (snapshots.map Snapshot.window) → Collected snapshots := by
  intro h
  have hlog := h [switchLine 9999999, switchLine 10000000]
    [Snapshot.ofWindow _ ⟨0, 2, by decide, by decide⟩] (by simp [switchLine]) (by simp [Overlapping])
  exact absurd hlog (by unfold Collected; decide +kernel)

/-- As long as the number of digits before the point does not change, the log is complete. -/
theorem collected_of_sameWidth {trace : List TraceLine} {width : Nat}
    (htrace : trace.Pairwise (fun a b => a.usec < b.usec))
    (hwidth : ∀ line ∈ trace, (Nat.toDigits 10 (line.usec / 10 ^ 6)).length = width)
    (snapshots : List (Snapshot trace)) (hover : Overlapping (snapshots.map Snapshot.window))
    (hfirst : NoneBeforeFirst (snapshots.map Snapshot.window)) : Collected snapshots := by
  refine (collected_iff_foldl snapshots).2 (collect_eq_seen _ hover hfirst ?_)
  have hsub := seen_sublist trace (snapshots.map Snapshot.window)
  refine (htrace.sublist hsub).imp_of_mem fun {a b} ha hb hlt => ?_
  refine fixedDigits_lt_fixedDigits (by decide) hlt ?_
  rw [hwidth a (hsub.subset ha), hwidth b (hsub.subset hb)]

end SchedTrace
end ResourceAccounting
