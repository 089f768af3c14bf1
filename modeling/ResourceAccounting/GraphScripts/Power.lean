import ResourceAccounting.Accounting.Measurement

/-!
# Power — power.py reads the power log

power.py makes two passes.  The first skips the header line of the log and copies time and power
of every other line to `powerInfoFormat.txt`; the second reads that file into the lists `time` and
`power`, from which the energy is summed.  `none` stands for an `IndexError` or a `ValueError`.

The writer ends the header without a line end, so the first sample stands on the header line and
is skipped with it: whatever is measured, the lists are one entry short.
-/

namespace ResourceAccounting
namespace GraphScripts

open Python Accounting

/-! ## The script -/

def startTime : PyFloat := .finite 0

/-- The line of `powerInfoFormat.txt` for one line of the log. -/
def infoLine (line : Text) : Option Text := do
  let words := split (strip line)
  let dt ← float? (← words[0]?)
  let power ← words[1]?
  some ((startTime.add dt).str ++ '\t' :: power ++ ['\n'])

/-- The first pass: `powerInfoFormat.txt`. -/
def powerInfoFormat (log : Text) : Option Text :=
  ((fileLines log).tail.mapM infoLine).map List.flatten

/-- `time` and `power` -/
structure PowerLists where
  time : List PyFloat
  power : List PyFloat
  deriving DecidableEq, Repr

/-- Time and power of one line of `powerInfoFormat.txt`. -/
def infoEntry (line : Text) : Option (PyFloat × PyFloat) := do
  let words := split (strip line)
  let time ← float? (← words[0]?)
  let power ← float? (← words[1]?)
  some (time, power)

/-- Both passes. -/
def readPower (log : Text) : Option PowerLists := do
  let info ← powerInfoFormat log
  let entries ← (fileLines info).mapM infoEntry
  some { time := entries.map Prod.fst, power := entries.map Prod.snd }

/-- The energy loop: the rows of `energy_real.txt`, from the sum so far. -/
def energyLoop : List PyFloat → List PyFloat → PyFloat → List (PyFloat × PyFloat)
  | t :: t' :: time, p :: power, energy =>
      let energy := energy.add ((t'.sub t).mul p)
      (t, energy) :: energyLoop (t' :: time) power energy
  | _, _, _ => []

/-- The rows of `energy_real.txt`. -/
def energyReal (lists : PowerLists) : List (PyFloat × PyFloat) :=
  energyLoop lists.time lists.power (.finite 0)

/-! ## Writer and reader -/

/-- The power log when the samples are saved in these batches. -/
def powerLog (batches : List (List Sample)) : Text :=
  powerHeader ++ batches.flatMap (fun batch => saveRecordsPower (flatten batch))

/-- The samples as they are written, with 6 and 1 decimals. -/
def asWritten (samples : List Sample) : PowerLists :=
  { time := samples.map (fun s => .finite (roundTo 6 s.1))
    power := samples.map (fun s => .finite (roundTo 1 s.2)) }

/-- power.py gets the samples as they were written, and sums the energy over all of them. -/
def ReadsBack (batches : List (List Sample)) : Prop :=
  ∃ lists, readPower (powerLog batches) = some lists ∧
    lists = asWritten batches.flatten ∧
    energyReal lists = energyReal (asWritten batches.flatten)

theorem rowText_isLine (row : Sample) : IsLine (rowText row) := by
  refine ⟨percentF 6 row.1 ++ ' ' :: percentF 1 row.2, by simp [rowText], ?_⟩
  simp [(isWord_percentF 6 row.1).newline_not_mem, (isWord_percentF 1 row.2).newline_not_mem]

/-- The split into batches does not show in the log. -/
theorem powerLog_eq (batches : List (List Sample)) :
    powerLog batches = powerHeader ++ (batches.flatten.map rowText).flatten := by
  simp only [powerLog, saveRecordsPower, rows_flatten, List.flatMap_def, List.map_flatten,
    List.flatten_flatten, List.map_map]
  rfl

/-- The first line of the log holds the header and the first sample. -/
theorem fileLines_powerLog {batches : List (List Sample)} {s : Sample} {samples : List Sample}
    (h : batches.flatten = s :: samples) :
    fileLines (powerLog batches) = (powerHeader ++ rowText s) :: samples.map rowText := by
  rcases rowText_isLine s with ⟨w, hw, hnot⟩
  -- the header has no line end, so it runs into the first row
  have hfirst : '\n' ∉ powerHeader ++ w := by
    rw [List.mem_append, not_or]
    exact ⟨by decide, hnot⟩
  have hrest : fileLines (samples.map rowText).flatten = samples.map rowText := by
    refine fileLines_flatten fun l hl => ?_
    rcases List.mem_map.1 hl with ⟨row, -, rfl⟩
    exact rowText_isLine row
  rw [powerLog_eq, h, List.map_cons, List.flatten_cons, hw]
  have hglue : powerHeader ++ (w ++ ['\n'] ++ (samples.map rowText).flatten) =
      (powerHeader ++ w) ++ '\n' :: (samples.map rowText).flatten := by
    simp
  rw [hglue, fileLines_line_append hfirst, hrest, List.append_assoc]

theorem isLine_of_infoLine {line out : Text} (h : infoLine line = some out) : IsLine out := by
  simp only [infoLine, Option.bind_eq_bind, Option.bind_eq_some_iff, Option.some.injEq] at h
  rcases h with ⟨time, -, dt, -, power, hpower, rfl⟩
  have hword : IsWord power := isWord_of_mem_split (List.mem_of_getElem? hpower)
  refine ⟨(startTime.add dt).str ++ '\t' :: power, by simp, ?_⟩
  simp [(PyFloat.isWord_str (startTime.add dt)).newline_not_mem, hword.newline_not_mem]

/-- Every line of the log but the first gives one entry. -/
theorem length_readPower {log : Text} {lists : PowerLists} (h : readPower log = some lists) :
    lists.time.length = (fileLines log).length - 1 ∧
      lists.power.length = (fileLines log).length - 1 := by
  simp only [readPower, powerInfoFormat, Option.bind_eq_bind, Option.bind_eq_some_iff,
    Option.map_eq_some_iff, Option.some.injEq] at h
  rcases h with ⟨info, ⟨outs, houts, rfl⟩, entries, hentries, rfl⟩
  -- power_info.txt is read line by line as it was written
  have hlines : fileLines outs.flatten = outs := by
    refine fileLines_flatten fun out hout => ?_
    rcases exists_of_mem_mapM houts hout with ⟨line, -, hline⟩
    exact isLine_of_infoLine hline
  rw [hlines] at hentries
  have hlength : entries.length = (fileLines log).length - 1 := by
    calc
      entries.length = outs.length := length_mapM hentries
      _ = (fileLines log).tail.length := length_mapM houts
      _ = (fileLines log).length - 1 := List.length_tail
  simp [hlength]

/-- One sample is missing from the lists that power.py builds. -/
theorem length_readPower_powerLog {batches : List (List Sample)} {lists : PowerLists}
    (hne : batches.flatten ≠ []) (h : readPower (powerLog batches) = some lists) :
    lists.time.length + 1 = batches.flatten.length ∧
      lists.power.length + 1 = batches.flatten.length := by
  rcases List.exists_cons_of_ne_nil hne with ⟨s, samples, hs⟩
  have hlength := length_readPower h
  rw [fileLines_powerLog hs] at hlength
  simpa [hs] using hlength

/-- No non-empty sequence of samples is read back, however it was split into batches. -/
theorem not_readsBack (batches : List (List Sample)) (hne : batches.flatten ≠ []) :
    ¬ ReadsBack batches := by
  rintro ⟨lists, hread, rfl, -⟩
  have hlength := (length_readPower_powerLog hne hread).1
  simp only [asWritten, List.length_map] at hlength
  omega

theorem not_readsBack_single : ¬ ReadsBack [[(1 / 100, 5)]] :=
  not_readsBack [[(1 / 100, 5)]] (by decide)

/-- A single sample: the lists that power.py builds are empty. -/
theorem exists_not_readsBack :
    ¬ ∀ batches : List (List Sample), batches.flatten ≠ [] → ReadsBack batches := by
  intro h
  rcases h [[(1 / 100, 5)]] (by decide) with ⟨lists, hread, rfl, -⟩
  have hlength := (length_readPower_powerLog (by decide) hread).1
  exact absurd hlength (by decide)

end GraphScripts
end ResourceAccounting
