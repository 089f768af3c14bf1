import ResourceAccounting.C.Printf
import ResourceAccounting.GraphScripts.Model

/-!
# FixDelay — cgpsFixDelay.py draws the time that cgps waits for a fix

cgpsFixDelay.py reads every cgps log and writes a rectangle for each fix (record 2): from the start
of the session, or from the fix before, to the fix.  The file of a log is opened at its first fix,
under the number of the log.  `fout` is closed after every log, whether it has been opened or not.

- `waitLoop` — the loop over the lines of a log;
- `fixDelay` — the script;
- `SessionLog` — a log with its start and its increasing times;
- `outputs` — the files of a run that completes;
- `handles_iff` — the sets of logs that the script handles.

`none` stands for an exception: a line that cannot be read, or a `NameError` at `fout.close()`.
-/

namespace ResourceAccounting
namespace GraphScripts

open Python

/-! ## The script -/

/-- The time from `startTime` to `endTime`, as a rectangle. -/
structure Rectangle where
  startTime : ℚ
  endTime : ℚ
  deriving DecidableEq, Repr

/-- `str(t) + " " + str(count) + "\n"` -/
def corner (t : ℚ) (count : Nat) : Text :=
  (PyFloat.finite t).str ++ ' ' :: Nat.toDigits 10 count ++ ['\n']

/-- The four `fout.write` calls. -/
def Rectangle.text (count : Nat) (r : Rectangle) : Text :=
  corner r.startTime count ++ corner r.startTime (count + 1) ++ corner r.endTime (count + 1) ++
    corner r.endTime count

/-- The variables of the loop over the lines of a log. -/
structure WaitState where
  startTime : ℚ
  endTime : ℚ
  /-- What has been written to the file of this log; none while `file_open` is 0. -/
  written : Option Text
  deriving DecidableEq, Repr

namespace WaitState

/-- `baseTime` is 0 throughout. -/
def init : WaitState :=
  { startTime := 0, endTime := 0, written := none }

/-- Open the file if that has not been done, write the rectangle and start the next one. -/
def write (count : Nat) (s : WaitState) : WaitState :=
  { s with
    written := some (s.written.getD [] ++ Rectangle.text count ⟨s.startTime, s.endTime⟩)
    startTime := s.endTime }

end WaitState

/-- `for line in fin` -/
def waitLoop (count : Nat) : WaitState → List Text → Option WaitState
  | s, [] => some s
  | s, line :: lines =>
      match logRecord line with
      | none => none
      | some (dt, n) =>
          if n = 0 then
            waitLoop count { s with startTime := dt } lines
          else if n = 2 then
            let s := { s with endTime := dt }
            if s.startTime = 0 ∨ s.endTime = 0 then
              -- `break`
              some s
            else
              waitLoop count (s.write count) lines
          else
            waitLoop count s lines

structure OutFile where
  name : Text
  content : Text
  deriving DecidableEq, Repr

/-- `"cgpsFixDelayData"+str(count)+".txt"` -/
def fileName (count : Nat) : Text :=
  "cgpsFixDelayData".toList ++ (Nat.toDigits 10 count ++ ".txt".toList)

structure FixScript where
  count : Nat
  /-- The files in the order in which they have been opened.  `fout` is the last one, and is not
  defined as long as there is none. -/
  files : List OutFile
  deriving DecidableEq, Repr

namespace FixScript

def init : FixScript :=
  { count := 0, files := [] }

/-- One log of the loop over the files; the header line is skipped. -/
def visit (s : FixScript) (log : Text) : Option FixScript := do
  let wait ← waitLoop s.count WaitState.init (fileLines log).tail
  let files := match wait.written with
    | some content => s.files ++ [⟨fileName s.count, content⟩]
    | none => s.files
  -- `fout.close()`
  if files = [] then none else some { count := s.count + 1, files := files }

end FixScript

/-- The script, on the contents of the logs in the order in which `os.walk` yields them: the files
that it leaves. -/
def fixDelay (logs : List Text) : Option (List OutFile) :=
  (logs.foldlM FixScript.visit FixScript.init).map FixScript.files

/-! ## Logs of sessions -/

/-- A log with a header, a 0 record with a non-zero time, and then records 1, 2 and 3 with
increasing times. -/
structure SessionLog where
  text : Text
  start : ℚ
  rest : List (ℚ × Int)
  records : (fileLines text).tail.mapM logRecord = some ((start, 0) :: rest)
  start_ne_zero : start ≠ 0
  numbers : ∀ r ∈ rest, r.2 = 1 ∨ r.2 = 2 ∨ r.2 = 3
  increasing : (start :: rest.map Prod.fst).Pairwise (· < ·)

namespace SessionLog

/-- The times of the 2 records. -/
def fixes (log : SessionLog) : List ℚ :=
  (log.rest.filter (fun r => decide (r.2 = 2))).map Prod.fst

def HasFix (log : SessionLog) : Prop :=
  log.fixes ≠ []

instance (log : SessionLog) : Decidable log.HasFix :=
  inferInstanceAs (Decidable (¬ _))

/-- The time of the last 2 record; the start if there is none. -/
def lastFix (log : SessionLog) : ℚ :=
  log.fixes.getLastD log.start

/-- No 2 record has time 0. -/
def Clear (log : SessionLog) : Prop :=
  0 ∉ log.fixes

end SessionLog

/-- The logs with a 2 record. -/
def fixed (logs : List SessionLog) : List SessionLog :=
  logs.filter (fun log => decide log.HasFix)

/-- The rectangles follow each other from `a` to `b`, without a gap or an overlap. -/
def Tiles (a b : ℚ) : List Rectangle → Prop
  | [] => a = b
  | r :: rs => r.startTime = a ∧ r.startTime < r.endTime ∧ Tiles r.endTime b rs

/-- The file holds a rectangle for each 2 record of the log, at the height of its number, and the
rectangles tile the time from the 0 record to the last 2 record. -/
def Shows (log : SessionLog) (file : OutFile) : Prop :=
  ∃ (count : Nat) (rs : List Rectangle),
    file = ⟨fileName count, rs.flatMap (Rectangle.text count)⟩ ∧
      rs.length = log.fixes.length ∧ Tiles log.start log.lastFix rs

/-- The script completes and leaves a file of its own for each log with a 2 record, and no other. -/
def ShowsAll (logs : List SessionLog) : Prop :=
  ∃ files, fixDelay (logs.map SessionLog.text) = some files ∧ (files.map OutFile.name).Nodup ∧
    List.Forall₂ Shows (fixed logs) files

/-- The logs without a 2 record do not change what is written. -/
def IgnoresUnfixed (logs : List SessionLog) : Prop :=
  fixDelay (logs.map SessionLog.text) = fixDelay ((fixed logs).map SessionLog.text)

/-- The script completes, shows the logs with a 2 record, and ignores the others. -/
def Handles (logs : List SessionLog) : Prop :=
  ShowsAll logs ∧ IgnoresUnfixed logs

/-- The log that is visited first has a 2 record. -/
def FirstFixed (logs : List SessionLog) : Prop :=
  ∀ log ∈ logs.head?, log.HasFix

/-- No log without a 2 record is visited before a log with one. -/
def FixedFirst (logs : List SessionLog) : Prop :=
  logs.Pairwise (fun earlier later => later.HasFix → earlier.HasFix)

/-! ## One log -/

/-- The rectangles between the times of a list and the one before. -/
def rectangles : ℚ → List ℚ → List Rectangle
  | _, [] => []
  | a, t :: ts => ⟨a, t⟩ :: rectangles t ts

theorem length_rectangles (a : ℚ) (ts : List ℚ) : (rectangles a ts).length = ts.length := by
  induction ts generalizing a with
  | nil => rfl
  | cons t ts ih => rw [rectangles, List.length_cons, List.length_cons, ih]

theorem tiles_rectangles {a : ℚ} {ts : List ℚ} (h : (a :: ts).Pairwise (· < ·)) :
    Tiles a (ts.getLastD a) (rectangles a ts) := by
  induction ts generalizing a with
  | nil => rfl
  | cons t ts ih =>
      rw [List.pairwise_cons] at h
      refine ⟨rfl, h.1 t List.mem_cons_self, ?_⟩
      rw [List.getLastD_cons]
      exact ih h.2

namespace SessionLog

theorem increasing_fixes (log : SessionLog) : (log.start :: log.fixes).Pairwise (· < ·) := by
  have hsub : List.Sublist log.fixes (log.rest.map Prod.fst) := List.filter_sublist.map Prod.fst
  exact log.increasing.sublist (hsub.cons_cons log.start)

end SessionLog

/-- What the file of a log holds after the fixes `ts`, if the first rectangle starts at `a`. -/
def draw (count : Nat) (a : ℚ) (written : Option Text) (ts : List ℚ) : Option Text :=
  if ts = [] then
    written
  else
    some (written.getD [] ++ (rectangles a ts).flatMap (Rectangle.text count))

theorem draw_cons (count : Nat) (a t : ℚ) (written : Option Text) (ts : List ℚ) :
    draw count a written (t :: ts) =
      draw count t (some (written.getD [] ++ Rectangle.text count ⟨a, t⟩)) ts := by
  cases ts <;> simp [draw, rectangles]

/-- After the 0 record the loop draws the fixes, up to one at time 0. -/
theorem waitLoop_written (count : Nat) {lines : List Text} {rest : List (ℚ × Int)}
    (hread : lines.mapM logRecord = some rest)
    (hnumbers : ∀ r ∈ rest, r.2 = 1 ∨ r.2 = 2 ∨ r.2 = 3) {s : WaitState} (hs : s.startTime ≠ 0) :
    (waitLoop count s lines).map WaitState.written = some (draw count s.startTime s.written
      (((rest.filter (fun r => decide (r.2 = 2))).map Prod.fst).takeWhile (fun t => t ≠ 0))) := by
  induction lines generalizing rest s with
  | nil =>
      cases hread
      rfl
  | cons line lines ih =>
      rcases exists_of_mapM_cons hread with ⟨⟨dt, n⟩, rest', hrecord, hread', rfl⟩
      have hrest : ∀ r ∈ rest', r.2 = 1 ∨ r.2 = 2 ∨ r.2 = 3 :=
        fun r hr => hnumbers r (List.mem_cons_of_mem _ hr)
      have hn : n = 1 ∨ n = 2 ∨ n = 3 := hnumbers (dt, n) List.mem_cons_self
      rcases hn with rfl | rfl | rfl
      · simpa [waitLoop, hrecord] using ih hread' hrest hs
      · by_cases hdt : dt = 0
        · -- `break`
          simp [waitLoop, hrecord, hdt, draw]
        · have hdraw := ih hread' hrest (s := WaitState.write count { s with endTime := dt }) hdt
          simpa [waitLoop, hrecord, hs, hdt, draw_cons, WaitState.write] using hdraw
      · simpa [waitLoop, hrecord] using ih hread' hrest hs

namespace SessionLog

/-- The fixes that are drawn. -/
def drawn (log : SessionLog) : List ℚ :=
  log.fixes.takeWhile (fun t => t ≠ 0)

/-- The file of the log, if it has one. -/
def output (count : Nat) (log : SessionLog) : Option OutFile :=
  (draw count log.start none log.drawn).map (OutFile.mk (fileName count))

/-- The loop draws the log; the first record is the start. -/
theorem waitLoop_text (log : SessionLog) (count : Nat) :
    (waitLoop count WaitState.init (fileLines log.text).tail).map WaitState.written =
      some (draw count log.start none log.drawn) := by
  have hread := log.records
  cases hlines : (fileLines log.text).tail with
  | nil => simp [hlines] at hread
  | cons line lines =>
      rw [hlines] at hread
      rcases exists_of_mapM_cons hread with ⟨first, rest, hfirst, hrest, heq⟩
      cases heq
      have hdraw := waitLoop_written count hrest log.numbers
        (s := { WaitState.init with startTime := log.start }) log.start_ne_zero
      simpa [waitLoop, hfirst, drawn, fixes, WaitState.init] using hdraw

end SessionLog

/-! ## The files of a run -/

/-- The files of the logs, the first of which has the number `count`. -/
def outputs : Nat → List SessionLog → List OutFile
  | _, [] => []
  | count, log :: logs => (log.output count).toList ++ outputs (count + 1) logs

/-- A log goes through if it opens a file or an earlier log has done so. -/
theorem visit_text (s : FixScript) (log : SessionLog) :
    s.visit log.text =
      if s.files ++ (log.output s.count).toList = [] then none
      else some { count := s.count + 1, files := s.files ++ (log.output s.count).toList } := by
  rcases Option.map_eq_some_iff.1 (log.waitLoop_text s.count) with ⟨wait, hwait, hwritten⟩
  simp only [FixScript.visit, hwait, SessionLog.output, ← hwritten, Option.bind_eq_bind,
    Option.bind_some]
  cases wait.written with
  | none => simp
  | some content => simp

/-- Once a file has been opened the script goes through every log. -/
theorem foldlM_visit (logs : List SessionLog) {s : FixScript} (hs : s.files ≠ []) :
    (logs.map SessionLog.text).foldlM FixScript.visit s =
      some { count := s.count + logs.length, files := s.files ++ outputs s.count logs } := by
  induction logs generalizing s with
  | nil => simp [outputs]
  | cons log logs ih =>
      have hne : s.files ++ (log.output s.count).toList ≠ [] := by simp [hs]
      rw [List.map_cons, List.foldlM_cons, visit_text, if_neg hne]
      have hrest := ih
        (s := { count := s.count + 1, files := s.files ++ (log.output s.count).toList }) hne
      simpa [outputs, Nat.add_assoc, Nat.add_comm 1] using hrest

/-- The script completes exactly when the first log opens a file. -/
theorem fixDelay_cons (log : SessionLog) (logs : List SessionLog) :
    fixDelay ((log :: logs).map SessionLog.text) =
      if log.output 0 = none then none else some (outputs 0 (log :: logs)) := by
  rw [fixDelay, List.map_cons, List.foldlM_cons, visit_text]
  cases hout : log.output 0 with
  | none => simp [FixScript.init, hout]
  | some file =>
      have hrest := foldlM_visit logs (s := { count := 1, files := [file] }) (by simp)
      simp [FixScript.init, hout, hrest, outputs]

namespace SessionLog

theorem drawn_eq_nil_of_not_hasFix {log : SessionLog} (h : ¬ log.HasFix) : log.drawn = [] := by
  rw [drawn, not_not.1 h]
  rfl

theorem drawn_eq_fixes_iff (log : SessionLog) : log.drawn = log.fixes ↔ log.Clear := by
  rw [drawn, List.takeWhile_eq_self_iff, Clear]
  constructor
  · exact fun h hmem => by simpa using h 0 hmem
  · exact fun h t ht => by simpa using ne_of_mem_of_not_mem ht h

theorem output_eq_none_iff {count : Nat} {log : SessionLog} :
    log.output count = none ↔ log.drawn = [] := by
  simp [output, draw]

theorem output_of_drawn {count : Nat} {log : SessionLog} (h : log.drawn ≠ []) :
    log.output count = some ⟨fileName count,
      (rectangles log.start log.drawn).flatMap (Rectangle.text count)⟩ := by
  simp [output, draw, h]

theorem output_of_not_hasFix {count : Nat} {log : SessionLog} (h : ¬ log.HasFix) :
    log.output count = none :=
  output_eq_none_iff.2 (drawn_eq_nil_of_not_hasFix h)

theorem output_of_clear {count : Nat} {log : SessionLog} (hfix : log.HasFix) (hclear : log.Clear) :
    log.output count = some ⟨fileName count,
      (rectangles log.start log.fixes).flatMap (Rectangle.text count)⟩ := by
  have hdrawn := log.drawn_eq_fixes_iff.2 hclear
  rw [output_of_drawn (hdrawn ▸ hfix), hdrawn]

end SessionLog

/-! ## What the files show -/

theorem count_newline_word {w : Text} (hw : IsWord w) : w.count '\n' = 0 :=
  List.count_eq_zero.2 hw.newline_not_mem

/-- A rectangle takes four lines. -/
theorem count_newline_text (count : Nat) (r : Rectangle) : (r.text count).count '\n' = 4 := by
  have hcorner : ∀ (t : ℚ) (n : Nat), (corner t n).count '\n' = 1 := by
    intro t n
    have htime := count_newline_word (PyFloat.isWord_str (.finite t))
    have hnumber := count_newline_word (isWord_toDigits n)
    simp [corner, htime, hnumber]
  simp [Rectangle.text, hcorner]

theorem count_newline_flatMap (count : Nat) (rs : List Rectangle) :
    (rs.flatMap (Rectangle.text count)).count '\n' = 4 * rs.length := by
  induction rs with
  | nil => rfl
  | cons r rs ih =>
      rw [List.flatMap_cons, List.count_append, ih, count_newline_text, List.length_cons]
      omega

/-- The file of a log shows it if and only if no fix has time 0. -/
theorem shows_iff_clear {log : SessionLog} (count : Nat) :
    Shows log ⟨fileName count, (rectangles log.start log.drawn).flatMap (Rectangle.text count)⟩ ↔
      log.Clear := by
  rw [← log.drawn_eq_fixes_iff]
  constructor
  · rintro ⟨n, rs, hfile, hlength, -⟩
    -- as many rectangles as fixes, so the loop has not ended at one of them
    have hlines := congrArg (fun file => file.content.count '\n') hfile
    simp only [count_newline_flatMap, length_rectangles] at hlines
    have hfront : log.drawn <+: log.fixes := List.takeWhile_prefix _
    exact hfront.eq_of_length (by omega)
  · intro hdrawn
    rw [hdrawn]
    exact ⟨count, _, rfl, length_rectangles _ _, tiles_rectangles log.increasing_fixes⟩

theorem outputs_cons_of_not_hasFix {count : Nat} {log : SessionLog} (h : ¬ log.HasFix)
    (logs : List SessionLog) : outputs count (log :: logs) = outputs (count + 1) logs := by
  rw [outputs, log.output_of_not_hasFix h]
  rfl

theorem fixed_cons_of_not_hasFix {log : SessionLog} (h : ¬ log.HasFix) (logs : List SessionLog) :
    fixed (log :: logs) = fixed logs := by
  simp [fixed, h]

theorem fixed_cons_of_hasFix {log : SessionLog} (h : log.HasFix) (logs : List SessionLog) :
    fixed (log :: logs) = log :: fixed logs := by
  simp [fixed, h]

theorem length_outputs_le (count : Nat) (logs : List SessionLog) :
    (outputs count logs).length ≤ (fixed logs).length := by
  induction logs generalizing count with
  | nil => rfl
  | cons log logs ih =>
      by_cases hfix : log.HasFix
      · rw [outputs, fixed_cons_of_hasFix hfix, List.length_append, List.length_cons]
        have hone : (log.output count).toList.length ≤ 1 := by
          cases log.output count <;> simp
        have hrest := ih (count + 1)
        omega
      · rw [outputs_cons_of_not_hasFix hfix, fixed_cons_of_not_hasFix hfix]
        exact ih (count + 1)

theorem clear_of_not_hasFix {log : SessionLog} (h : ¬ log.HasFix) : log.Clear := by
  rw [SessionLog.Clear, not_not.1 h]
  exact List.not_mem_nil

/-- The files show the logs with a 2 record if and only if none of these has time 0. -/
theorem forall₂_shows_iff (count : Nat) (logs : List SessionLog) :
    List.Forall₂ Shows (fixed logs) (outputs count logs) ↔ ∀ log ∈ logs, log.Clear := by
  induction logs generalizing count with
  | nil => simp [fixed, outputs]
  | cons log logs ih =>
      rw [List.forall_mem_cons, ← ih (count + 1)]
      by_cases hfix : log.HasFix
      · rw [fixed_cons_of_hasFix hfix, outputs]
        by_cases hdrawn : log.drawn = []
        · -- the file is missing, and no other can stand in for it
          rw [SessionLog.output_eq_none_iff.2 hdrawn, Option.toList_none, List.nil_append]
          refine iff_of_false (fun h => ?_) (fun h => ?_)
          · have hlength := h.length_eq
            have hle := length_outputs_le (count + 1) logs
            rw [List.length_cons] at hlength
            omega
          · have hdrawn' := log.drawn_eq_fixes_iff.2 h.1
            exact hfix (hdrawn' ▸ hdrawn)
        · rw [SessionLog.output_of_drawn hdrawn, Option.toList_some, List.singleton_append,
            List.forall₂_cons, shows_iff_clear]
      · rw [fixed_cons_of_not_hasFix hfix, outputs_cons_of_not_hasFix hfix]
        exact (and_iff_right (clear_of_not_hasFix hfix)).symm

/-! ## The numbers of the files -/

theorem fileName_injective {m n : Nat} (h : fileName m = fileName n) : m = n := by
  apply C.toDigits_injective
  exact List.append_cancel_right (List.append_cancel_left h)

theorem name_of_mem_outputs {count : Nat} {logs : List SessionLog} {file : OutFile}
    (h : file ∈ outputs count logs) : ∃ n, count ≤ n ∧ file.name = fileName n := by
  induction logs generalizing count with
  | nil => simp [outputs] at h
  | cons log logs ih =>
      rw [outputs, List.mem_append, Option.mem_toList, SessionLog.output,
        Option.map_eq_some_iff] at h
      rcases h with ⟨content, -, rfl⟩ | h
      · exact ⟨count, le_rfl, rfl⟩
      · rcases ih h with ⟨n, hn, hname⟩
        exact ⟨n, by omega, hname⟩

/-- No two logs write to one file. -/
theorem nodup_names (count : Nat) (logs : List SessionLog) :
    ((outputs count logs).map OutFile.name).Nodup := by
  induction logs generalizing count with
  | nil => exact List.nodup_nil
  | cons log logs ih =>
      rw [outputs]
      cases hout : log.output count with
      | none => exact ih (count + 1)
      | some file =>
          have hname : file.name = fileName count := by
            rcases Option.map_eq_some_iff.1 hout with ⟨content, -, rfl⟩
            rfl
          rw [Option.toList_some, List.singleton_append, List.map_cons, List.nodup_cons]
          refine ⟨fun hmem => ?_, ih (count + 1)⟩
          rcases List.mem_map.1 hmem with ⟨other, hother, heq⟩
          rcases name_of_mem_outputs hother with ⟨n, hn, hn'⟩
          have hsame := fileName_injective (hn'.symm.trans (heq.trans hname))
          omega

theorem fixed_eq_nil_iff {logs : List SessionLog} :
    fixed logs = [] ↔ ∀ log ∈ logs, ¬ log.HasFix := by
  simp [fixed]

theorem outputs_of_fixed_eq_nil {count : Nat} {logs : List SessionLog} (h : fixed logs = []) :
    outputs count logs = [] := by
  have hle := length_outputs_le count logs
  rw [h] at hle
  exact List.length_eq_zero_iff.1 (Nat.le_zero.1 hle)

theorem fixedFirst_of_fixed_eq_nil {logs : List SessionLog} (h : fixed logs = []) :
    FixedFirst logs := by
  have hnone := fixed_eq_nil_iff.1 h
  exact List.pairwise_of_forall_mem_list fun _ _ later hlater hfix =>
    absurd hfix (hnone later hlater)

theorem outputs_fixed_iff (count : Nat) {logs : List SessionLog}
    (hclear : ∀ log ∈ logs, log.Clear) :
    outputs count logs = outputs count (fixed logs) ↔ FixedFirst logs := by
  induction logs generalizing count with
  | nil => simp [fixed, FixedFirst]
  | cons log logs ih =>
      rw [List.forall_mem_cons] at hclear
      rw [FixedFirst, List.pairwise_cons]
      by_cases hfix : log.HasFix
      · rw [fixed_cons_of_hasFix hfix, outputs, outputs, List.append_cancel_left_eq,
          ih (count + 1) hclear.2]
        exact (and_iff_right fun _ _ _ => hfix).symm
      · rw [fixed_cons_of_not_hasFix hfix, outputs_cons_of_not_hasFix hfix]
        cases hfixed : fixed logs with
        | nil =>
            refine iff_of_true ?_ ⟨?_, fixedFirst_of_fixed_eq_nil hfixed⟩
            · rw [outputs_of_fixed_eq_nil hfixed]
              rfl
            · exact fun later hlater h => absurd h (fixed_eq_nil_iff.1 hfixed later hlater)
        | cons next rest =>
            have hnext : next ∈ logs ∧ next.HasFix := by
              have hmem : next ∈ fixed logs := hfixed ▸ List.mem_cons_self
              simpa [fixed] using hmem
            refine iff_of_false (fun h => ?_) (fun h => hfix (h.1 next hnext.1 hnext.2))
            -- the number of this log is missing among the files that are written
            have hmem : ⟨fileName count, (rectangles next.start next.fixes).flatMap
                (Rectangle.text count)⟩ ∈ outputs (count + 1) logs := by
              rw [h, outputs, SessionLog.output_of_clear hnext.2 (hclear.2 next hnext.1)]
              simp
            rcases name_of_mem_outputs hmem with ⟨n, hn, hname⟩
            have heq := fileName_injective hname
            omega

/-! ## The sets of logs that are handled -/

theorem drawn_ne_nil {log : SessionLog} (hfix : log.HasFix) (hclear : log.Clear) :
    log.drawn ≠ [] := by
  rw [log.drawn_eq_fixes_iff.2 hclear]
  exact hfix

theorem fixDelay_eq_outputs {logs : List SessionLog} (hfirst : FirstFixed logs)
    (hclear : ∀ log ∈ logs, log.Clear) :
    fixDelay (logs.map SessionLog.text) = some (outputs 0 logs) := by
  cases logs with
  | nil => rfl
  | cons log logs =>
      have hdrawn := drawn_ne_nil (hfirst log rfl) (hclear log List.mem_cons_self)
      rw [fixDelay_cons, if_neg (mt SessionLog.output_eq_none_iff.1 hdrawn)]

theorem firstFixed_fixed (logs : List SessionLog) : FirstFixed (fixed logs) := by
  intro log hlog
  have hmem : log ∈ fixed logs := List.mem_of_mem_head? hlog
  simpa [fixed] using (List.mem_filter.1 hmem).2

/-- The script completes and shows every log with a 2 record if and only if the first log has one
and none of them has time 0. -/
theorem showsAll_iff (logs : List SessionLog) :
    ShowsAll logs ↔ FirstFixed logs ∧ ∀ log ∈ logs, log.Clear := by
  constructor
  · rintro ⟨files, hrun, -, hshows⟩
    cases logs with
    | nil => exact ⟨by simp [FirstFixed], by simp⟩
    | cons log logs =>
        rw [fixDelay_cons] at hrun
        by_cases hout : log.output 0 = none
        · -- `fout` is not defined
          rw [if_pos hout] at hrun
          cases hrun
        · rw [if_neg hout, Option.some_inj] at hrun
          refine ⟨?_, (forall₂_shows_iff 0 _).1 (hrun ▸ hshows)⟩
          rintro first ⟨⟩
          exact not_not.1 (mt SessionLog.output_of_not_hasFix hout)
  · rintro ⟨hfirst, hclear⟩
    exact ⟨_, fixDelay_eq_outputs hfirst hclear, nodup_names 0 logs,
      (forall₂_shows_iff 0 logs).2 hclear⟩

theorem ignoresUnfixed_iff {logs : List SessionLog} (hfirst : FirstFixed logs)
    (hclear : ∀ log ∈ logs, log.Clear) : IgnoresUnfixed logs ↔ FixedFirst logs := by
  have hclear' : ∀ log ∈ fixed logs, log.Clear :=
    fun log hlog => hclear log (List.mem_filter.1 hlog).1
  rw [IgnoresUnfixed, fixDelay_eq_outputs hfirst hclear,
    fixDelay_eq_outputs (firstFixed_fixed logs) hclear', Option.some_inj]
  exact outputs_fixed_iff 0 hclear

/-- The script handles a set of logs if and only if the log that is visited first has a 2 record, no
log without one is visited before a log with one, and no 2 record has time 0. -/
theorem handles_iff (logs : List SessionLog) :
    Handles logs ↔ FirstFixed logs ∧ FixedFirst logs ∧ ∀ log ∈ logs, log.Clear := by
  rw [Handles, showsAll_iff]
  constructor
  · rintro ⟨⟨hfirst, hclear⟩, hignores⟩
    exact ⟨hfirst, (ignoresUnfixed_iff hfirst hclear).1 hignores, hclear⟩
  · rintro ⟨hfirst, hfixedFirst, hclear⟩
    exact ⟨⟨hfirst, hclear⟩, (ignoresUnfixed_iff hfirst hclear).2 hfixedFirst⟩

/-- A single log, of a session that ends without a fix: `fout` is not defined when it is closed. -/
theorem exists_not_handles : ¬ ∀ logs : List SessionLog, Handles logs := by
  intro h
  rcases (h [⟨"#time\n5.5 0\n9.25 3\n".toList, 11 / 2, [(37 / 4, 3)], by decide +kernel,
    by decide +kernel, by decide, by decide +kernel⟩]).1 with ⟨files, hrun, -⟩
  have hnone : fixDelay ["#time\n5.5 0\n9.25 3\n".toList] = none := by decide +kernel
  cases hnone.symm.trans hrun

end GraphScripts
end ResourceAccounting
