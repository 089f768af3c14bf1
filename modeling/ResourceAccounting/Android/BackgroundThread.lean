import Mathlib.Data.List.Infix
import Mathlib.Data.List.Perm.Subperm
import ResourceAccounting.Android.Lookup

/-!
# BackgroundThread — the rounds of the reporting thread of the Android application

`doInBackground` asks for the minors of the devices once, and makes an array with one element for
each.  In every round it reads the row of each device, appends the names of the processes that use
its sensor, stores the row in the array under the minor, and hands the array to `onProgressUpdate`.

- `getMinors` — the minors in front of the end mark;
- `addProcesses` — the loop over the map from pids to sensors;
- `fillOutput` — the loop over the devices, `doInBackground` — the rounds;
- `onProgressUpdate` — what is shown and logged of an array;
- `publishesAll_iff` — the minors with which every round publishes one row for each device, as long as
  the native functions return;
- `Round.native` — the native functions, as their own code has them.
-/

namespace ResourceAccounting
namespace Android

open Python C EventLog

/-! ## The devices -/

/-- `MAX_INPUT_DEVICE` of the application's own `user_event_log.h`. -/
def MAX_INPUT_DEVICE : Nat := 16

/-- `END_MARK` of the same file. -/
def END_MARK : UInt8 := 16

/-- `getMinors`, on what `ioctl` fills in; none if the device cannot be opened or asked.  Without an
end mark the loop runs out of the array. -/
def getMinors (lminors : Option (Vector UInt8 MAX_INPUT_DEVICE)) :
    Except Fault (Option (List Nat)) :=
  match lminors with
  | none => .ok none
  | some lminors =>
      let minors := lminors.toList.takeWhile (· ≠ END_MARK)
      if minors.length = MAX_INPUT_DEVICE then
        .error (.outOfRange MAX_INPUT_DEVICE MAX_INPUT_DEVICE)
      else if minors = [] then
        .ok none
      else
        .ok (some (minors.map UInt8.toNat))

/-- Distinct minors that `getMinors` returns. -/
structure DeviceList where
  lminors : Vector UInt8 MAX_INPUT_DEVICE
  minors : List Nat
  returned : getMinors (some lminors) = .ok (some minors)
  nodup : minors.Nodup
  lt_max : ∀ minor ∈ minors, minor < MAX_INPUT_DEVICE

theorem toNat_ofNat_of_lt {minor : Nat} (h : minor < MAX_INPUT_DEVICE) :
    (UInt8.ofNat minor).toNat = minor :=
  UInt8.toNat_ofNat_of_lt' (Nat.lt_trans h (by decide))

theorem ofNat_ne_endMark {minor : Nat} (h : minor < MAX_INPUT_DEVICE) :
    UInt8.ofNat minor ≠ END_MARK := by
  intro heq
  have hmark : minor = END_MARK.toNat := by rw [← heq, toNat_ofNat_of_lt h]
  exact Nat.lt_irrefl _ (hmark ▸ h)

/-- Every list of distinct minors that leaves room for the end mark is returned for some answer. -/
theorem exists_deviceList {minors : List Nat} (hne : minors ≠ []) (hnodup : minors.Nodup)
    (hlt : ∀ minor ∈ minors, minor < MAX_INPUT_DEVICE)
    (hlength : minors.length < MAX_INPUT_DEVICE) :
    ∃ d : DeviceList, d.minors = minors := by
  rcases Nat.exists_eq_add_of_lt hlength with ⟨k, hk⟩
  let bytes := minors.map UInt8.ofNat
  let lminors : Vector UInt8 MAX_INPUT_DEVICE :=
    ⟨(bytes ++ List.replicate (k + 1) END_MARK).toArray, by simp [bytes, hk, Nat.add_assoc]⟩
  have hfront : lminors.toList.takeWhile (· ≠ END_MARK) = bytes := by
    have hbytes : ∀ b ∈ bytes, decide (b ≠ END_MARK) = true := by
      intro b hb
      rcases List.mem_map.1 hb with ⟨minor, hminor, rfl⟩
      exact decide_eq_true (ofNat_ne_endMark (hlt minor hminor))
    calc
      lminors.toList.takeWhile (· ≠ END_MARK)
          = bytes ++ (List.replicate (k + 1) END_MARK).takeWhile (· ≠ END_MARK) :=
            List.takeWhile_append_of_pos hbytes
      _ = bytes := by simp
  have hback : bytes.map UInt8.toNat = minors := by
    rw [List.map_map]
    exact (List.map_congr_left fun minor hminor => toNat_ofNat_of_lt (hlt minor hminor)).trans
      (List.map_id minors)
  have hbytes : bytes ≠ [] := by simpa [bytes] using hne
  have hroom : bytes.length ≠ MAX_INPUT_DEVICE := by
    rw [List.length_map]
    exact Nat.ne_of_lt hlength
  exact ⟨⟨lminors, minors, by simp only [getMinors, hfront, if_neg hroom, if_neg hbytes, hback],
    hnodup, hlt⟩, rfl⟩

/-! ## A round -/

/-- How the thread can end otherwise than by `return`: with an exception, or in native code. -/
inductive Failure
  | arrayIndexOutOfBounds (index length : Nat)
  | nullPointer
  | numberFormat
  /-- A native function has called `exit`, or has been stopped for an access. -/
  | processEnded
  deriving DecidableEq, Repr

/-- `Integer.parseInt` -/
def parseInt? (s : Text) : Option Int := do
  let n ← digits? (sign s).2
  let value : Int := if (sign s).1 then -n else n
  if -2 ^ 31 ≤ value ∧ value < 2 ^ 31 then some value else none

/-- The map of the framework: the pids in the order in which `keySet` gives them, each with the text
of the sensors that it uses. -/
structure PidSensorMap where
  entries : List (Text × Text)
  nodup : (entries.map Prod.fst).Nodup
  pids : ∀ entry ∈ entries, (parseInt? entry.1).isSome = true

/-- What the framework and the native functions answer in one round.  A native function that does not
return gives none. -/
structure Round where
  pidSensorMap : PidSensorMap
  getReading : Nat → Option OutputTableRow
  getProcessName : Int → Option (Option Text)

/-- What a native function has returned. -/
def returned {α : Type} : Option α → Except Failure α
  | some a => .ok a
  | none => .error .processEnded

/-- `for(String pid : pids)` -/
def addProcesses (getProcessName : Int → Option (Option Text)) :
    OutputTableRow → List (Text × Text) → Except Failure OutputTableRow
  | oneRow, [] => .ok oneRow
  | oneRow, (pid, sensor) :: entries =>
      if oneRow.log_name <:+: sensor then
        match parseInt? pid with
        | none => .error .numberFormat
        | some n => do
            match ← returned (getProcessName n) with
            | some name =>
                addProcesses getProcessName
                  { oneRow with processName := oneRow.processName ++ ',' :: name } entries
            | none => addProcesses getProcessName oneRow entries
      else
        addProcesses getProcessName oneRow entries

/-- The array that is published; `none` is a null element. -/
abbrev Output := List (Option OutputTableRow)

/-- `output[minor] = oneRow` -/
def storeRow (output : Output) (minor : Nat) (oneRow : OutputTableRow) :
    Except Failure Output :=
  if minor < output.length then
    .ok (output.set minor (some oneRow))
  else
    .error (.arrayIndexOutOfBounds minor output.length)

/-- `for(int minor : minors)` -/
def fillOutput (round : Round) : Output → List Nat → Except Failure Output
  | output, [] => .ok output
  | output, minor :: minors => do
      let oneRow ← returned (round.getReading minor)
      let oneRow ← addProcesses round.getProcessName { oneRow with minor := minor }
        round.pidSensorMap.entries
      let output ← storeRow output minor oneRow
      fillOutput round output minors

/-- A turn of `while(true)`. -/
inductive Turn
  /-- `getPidSensorMap` throws a `RemoteException`: the thread returns. -/
  | remoteException
  | round (r : Round)

/-- The arrays that the turns publish, one after the other in the same array. -/
def publish (minors : List Nat) : Output → List Turn → Except Failure (List Output)
  | _, [] => .ok []
  | _, .remoteException :: _ => .ok []
  | output, .round r :: turns => do
      let output ← fillOutput r output minors
      let published ← publish minors output turns
      .ok (output :: published)

/-- `doInBackground`, for the minors that `getMinors` has returned. -/
def doInBackground (minors : List Nat) (turns : List Turn) : Except Failure (List Output) :=
  publish minors (List.replicate minors.length none) turns

/-! ## What is shown -/

/-- The text view, its colour, and the log files that are open, by name. -/
structure Screen where
  textView : Text
  black : Bool
  foshm : List (Text × Text)
  deriving DecidableEq, Repr

/-- The first line of a log file. -/
def logHeader : Text :=
  "TIME_STAMP\tOPENED_TIME\tEVENT_GENERATED\tEVENT_DROPPED\t".toList ++
  "PROCESS_NAME\tEVENT_CONSUMED\tLATENCY\n".toList

namespace OutputTableRow

/-- What is appended to the text view. -/
def display (oneRow : OutputTableRow) : Text :=
  "\n1.Sensor Name:\t\t\t".toList ++ oneRow.log_name ++
  "\n2.Opened Time:\t\t\t".toList ++ oneRow.time1 ++
  "\n3.Events Generated:\t".toList ++ decimal oneRow.log_event_generated_count.toInt ++
  "\n4.Events Dropped:\t\t".toList ++ decimal oneRow.log_event_dropped_count.toInt ++
  "\n5.Process(es):\t\t\t\t".toList ++ oneRow.processName ++
  "\n6.Events Consumed:\t".toList ++ decimal oneRow.log_event_consumed_count.toInt ++
  "\n7.Latency:\t\t\t\t\t\t".toList ++ oneRow.time2 ++ ['\n']

/-- The line of the log file, at second `ts`. -/
def logLine (ts : Nat) (oneRow : OutputTableRow) : Text :=
  Nat.toDigits 10 ts ++ '\t' :: oneRow.time1 ++
  '\t' :: decimal oneRow.log_event_generated_count.toInt ++
  '\t' :: decimal oneRow.log_event_dropped_count.toInt ++ '\t' :: oneRow.processName ++
  '\t' :: decimal oneRow.log_event_consumed_count.toInt ++ '\t' :: oneRow.time2 ++ ['\n']

end OutputTableRow

section Screen

-- The names for which `openFileOutput` does not throw.
variable (canOpen : Text → Bool)

/-- Open the log file of a row, with its header, unless it is open. -/
def Screen.openLog (s : Screen) (log_name : Text) : Screen :=
  if log_name ∉ s.foshm.map Prod.fst ∧ canOpen log_name = true then
    { s with foshm := s.foshm ++ [(log_name, logHeader)] }
  else
    s

/-- The body of the loop for element `i`; a file that is not open gets no line. -/
def Screen.addRow (ts i : Nat) (s : Screen) (oneRow : OutputTableRow) : Screen :=
  let s := s.openLog canOpen oneRow.log_name
  { textView := s.textView ++ oneRow.display
    black := i % 2 ≠ 0
    foshm := s.foshm.map (fun file =>
      if file.1 = oneRow.log_name then (file.1, file.2 ++ oneRow.logLine ts) else file) }

/-- `for(int i =0;i<values.length;i++)` -/
def showRows (ts : Nat) : Nat → Screen → Output → Except Failure Screen
  | _, s, [] => .ok s
  | i, s, some oneRow :: values => showRows ts (i + 1) (s.addRow canOpen ts i oneRow) values
  | _, _, none :: _ => .error .nullPointer

def onProgressUpdate (ts : Nat) (s : Screen) (values : Output) : Except Failure Screen :=
  showRows canOpen ts 0 { s with textView := [] } values

end Screen

/-! ## What is to be published -/

/-- The name of the process with this pid, if `getProcessName` returns one. -/
def nameOf (getProcessName : Int → Option (Option Text)) (pid : Text) : Option Text :=
  (parseInt? pid).bind fun n => (getProcessName n).join

/-- The names of the processes whose sensors contain `log_name`. -/
def charged (getProcessName : Int → Option (Option Text)) (log_name : Text)
    (entries : List (Text × Text)) : List Text :=
  (entries.filter (fun entry => decide (log_name <:+: entry.2))).filterMap
    (fun entry => nameOf getProcessName entry.1)

/-- The row of a device that has been read, with the processes that are charged. -/
def Round.complete (r : Round) (minor : Nat) (reading : OutputTableRow) : OutputTableRow :=
  { reading with
    minor := minor
    processName := reading.processName ++
      (charged r.getProcessName reading.log_name r.pidSensorMap.entries).flatMap (',' :: ·) }

/-- The row of a device; none if it cannot be read. -/
def Round.row (r : Round) (minor : Nat) : Option OutputTableRow :=
  (r.getReading minor).map (r.complete minor)

/-- The rounds before the thread returns. -/
def rounds : List Turn → List Round
  | [] => []
  | .remoteException :: _ => []
  | .round r :: turns => r :: rounds turns

/-- The array holds the row of each device, and no null; every element can be shown. -/
structure Complete (minors : List Nat) (r : Round) (output : Output) : Prop where
  length_eq : output.length = minors.length
  stored : ∀ minor ∈ minors, ∃ row, r.row minor = some row ∧ some row ∈ output
  no_null : none ∉ output
  shown : ∀ canOpen ts s, ∃ s', onProgressUpdate canOpen ts s output = .ok s'

/-- No exception is thrown, and every round publishes a complete array. -/
def PublishesAll (d : DeviceList) (turns : List Turn) : Prop :=
  ∃ published, doInBackground d.minors turns = .ok published ∧
    List.Forall₂ (Complete d.minors) (rounds turns) published

/-- The minors are below the number of the devices. -/
def DeviceList.Dense (d : DeviceList) : Prop :=
  ∀ minor ∈ d.minors, minor < d.minors.length

instance (d : DeviceList) : Decidable d.Dense :=
  inferInstanceAs (Decidable (∀ minor ∈ d.minors, _))

/-- `getProcessName` returns, for every pid whose sensors contain `log_name`. -/
def NamesReturn (getProcessName : Int → Option (Option Text)) (log_name : Text)
    (entries : List (Text × Text)) : Prop :=
  ∀ entry ∈ entries, log_name <:+: entry.2 →
    ∀ n, parseInt? entry.1 = some n → getProcessName n ≠ none

/-- The native functions return, as often as the round calls them for the device. -/
def Round.Returns (r : Round) (minor : Nat) : Prop :=
  ∃ reading, r.getReading minor = some reading ∧
    NamesReturn r.getProcessName reading.log_name r.pidSensorMap.entries

/-- Distinct numbers below their number are all the numbers below it. -/
theorem perm_range_of_forall_lt {l : List Nat} (hnodup : l.Nodup) (hlt : ∀ m ∈ l, m < l.length) :
    l.Perm (List.range l.length) := by
  have hsub : l ⊆ List.range l.length := fun m hm => List.mem_range.2 (hlt m hm)
  exact (List.subperm_of_subset hnodup hsub).perm_of_length_le (by rw [List.length_range])

/-- The minors are the numbers from 0 on, in some order. -/
theorem DeviceList.dense_iff_perm (d : DeviceList) :
    d.Dense ↔ d.minors.Perm (List.range d.minors.length) :=
  ⟨perm_range_of_forall_lt d.nodup, fun h _ hm => List.mem_range.1 (h.mem_iff.1 hm)⟩

/-! ## The loop over the pids -/

theorem namesReturn_cons {getProcessName : Int → Option (Option Text)} {log_name : Text}
    {entry : Text × Text} {entries : List (Text × Text)} :
    NamesReturn getProcessName log_name (entry :: entries) ↔
      (log_name <:+: entry.2 → ∀ n, parseInt? entry.1 = some n → getProcessName n ≠ none) ∧
        NamesReturn getProcessName log_name entries :=
  List.forall_mem_cons

/-- A map whose keys are pids is gone through without an exception, as long as the names return. -/
theorem addProcesses_eq {getProcessName : Int → Option (Option Text)} {entries : List (Text × Text)}
    (hpids : ∀ entry ∈ entries, (parseInt? entry.1).isSome = true) (oneRow : OutputTableRow)
    (hnames : NamesReturn getProcessName oneRow.log_name entries) :
    addProcesses getProcessName oneRow entries =
      .ok { oneRow with
        processName := oneRow.processName ++
          (charged getProcessName oneRow.log_name entries).flatMap (',' :: ·) } := by
  induction entries generalizing oneRow with
  | nil => simp [addProcesses, charged]
  | cons entry entries ih =>
      rcases entry with ⟨pid, sensor⟩
      rw [List.forall_mem_cons] at hpids
      rw [namesReturn_cons] at hnames
      rcases Option.isSome_iff_exists.1 hpids.1 with ⟨n, hn⟩
      by_cases hsensor : oneRow.log_name <:+: sensor
      · rcases Option.ne_none_iff_exists'.1 (hnames.1 hsensor n hn) with ⟨found, hfound⟩
        cases found with
        | none =>
            -- a null name is left out
            simp [addProcesses, charged, nameOf, hsensor, hn, hfound, returned, ok_bind,
              ih hpids.2 oneRow hnames.2]
        | some name =>
            have hrest := ih hpids.2
              { oneRow with processName := oneRow.processName ++ ',' :: name } hnames.2
            rw [addProcesses, if_pos hsensor]
            simp only [hn, hfound, returned, ok_bind, hrest]
            simp [charged, nameOf, hsensor, hn, hfound]
      · simp [addProcesses, charged, hsensor, ih hpids.2 oneRow hnames.2]

/-- A call that does not return ends the loop. -/
theorem addProcesses_of_not_namesReturn {getProcessName : Int → Option (Option Text)}
    {entries : List (Text × Text)} (oneRow : OutputTableRow)
    (hnames : ¬ NamesReturn getProcessName oneRow.log_name entries) :
    ∃ e, addProcesses getProcessName oneRow entries = .error e := by
  induction entries generalizing oneRow with
  | nil => exact absurd (fun entry hentry => absurd hentry List.not_mem_nil) hnames
  | cons entry entries ih =>
      rcases entry with ⟨pid, sensor⟩
      rw [namesReturn_cons, not_and_or] at hnames
      by_cases hsensor : oneRow.log_name <:+: sensor
      · cases hn : parseInt? pid with
        | none => exact ⟨.numberFormat, by simp only [addProcesses, hsensor, if_true, hn]⟩
        | some n =>
            cases hfound : getProcessName n with
            | none =>
                refine ⟨.processEnded, ?_⟩
                simp only [addProcesses, hsensor, if_true, hn, hfound, returned, error_bind]
            | some found =>
                -- this call returns, so a later one does not
                have hrest : ¬ NamesReturn getProcessName oneRow.log_name entries := by
                  refine hnames.resolve_left fun hfirst => hfirst fun _ m hm => ?_
                  cases hn.symm.trans hm
                  rw [hfound]
                  exact Option.some_ne_none found
                simp only [addProcesses, hsensor, if_true, hn, hfound, returned, ok_bind]
                cases found with
                | none => exact ih oneRow hrest
                | some name => exact ih _ hrest
      · have hrest : ¬ NamesReturn getProcessName oneRow.log_name entries :=
          hnames.resolve_left fun hfirst => hfirst fun h => absurd h hsensor
        simp only [addProcesses, hsensor, if_false]
        exact ih oneRow hrest

/-- What a device contributes to a round, if its native calls return. -/
theorem reading_of_returns {r : Round} {minor : Nat} (h : r.Returns minor) :
    ∃ row, r.row minor = some row ∧
      (returned (r.getReading minor) >>= fun oneRow =>
        addProcesses r.getProcessName { oneRow with minor := minor } r.pidSensorMap.entries) =
          .ok row := by
  rcases h with ⟨reading, hreading, hnames⟩
  refine ⟨r.complete minor reading, by rw [Round.row, hreading, Option.map_some], ?_⟩
  rw [hreading, returned, ok_bind]
  exact addProcesses_eq r.pidSensorMap.pids _ hnames

theorem reading_of_not_returns {r : Round} {minor : Nat} (h : ¬ r.Returns minor) :
    ∃ e, (returned (r.getReading minor) >>= fun oneRow =>
      addProcesses r.getProcessName { oneRow with minor := minor } r.pidSensorMap.entries) =
        .error e := by
  cases hreading : r.getReading minor with
  | none => exact ⟨.processEnded, rfl⟩
  | some reading =>
      rw [returned, ok_bind]
      exact addProcesses_of_not_namesReturn { reading with minor := minor }
        fun hnames => h ⟨reading, hreading, hnames⟩

/-! ## The loop over the devices -/

theorem storeRow_of_lt {output : Output} {minor : Nat} (h : minor < output.length)
    (oneRow : OutputTableRow) :
    storeRow output minor oneRow = .ok (output.set minor (some oneRow)) :=
  if_pos h

theorem storeRow_of_le {output : Output} {minor : Nat} (h : output.length ≤ minor)
    (oneRow : OutputTableRow) :
    storeRow output minor oneRow = .error (.arrayIndexOutOfBounds minor output.length) :=
  if_neg (Nat.not_lt.2 h)

theorem fillOutput_cons (r : Round) (output : Output) (minor : Nat) (minors : List Nat) :
    fillOutput r output (minor :: minors) =
      (returned (r.getReading minor) >>= fun oneRow =>
        addProcesses r.getProcessName { oneRow with minor := minor } r.pidSensorMap.entries) >>=
          fun oneRow => storeRow output minor oneRow >>= fun output => fillOutput r output minors := by
  rw [fillOutput]
  cases returned (r.getReading minor) <;> rfl

/-- One minor behind the array throws, whatever the others are, and one whose native calls do not
return ends the process. -/
theorem fillOutput_eq_error {r : Round} {minors : List Nat} {output : Output}
    (h : ∃ minor ∈ minors, output.length ≤ minor ∨ ¬ r.Returns minor) :
    ∃ e, fillOutput r output minors = .error e := by
  induction minors generalizing output with
  | nil =>
      rcases h with ⟨minor, hmem, -⟩
      cases hmem
  | cons m minors ih =>
      rw [fillOutput_cons]
      by_cases hreturns : r.Returns m
      · rcases reading_of_returns hreturns with ⟨row, -, hrow⟩
        rw [hrow, ok_bind]
        rcases Nat.lt_or_ge m output.length with hlt | hge
        · rw [storeRow_of_lt hlt, ok_bind]
          rcases h with ⟨minor, hmem, hbad⟩
          rcases List.mem_cons.1 hmem with rfl | hmem
          · exact absurd hbad (not_or.2 ⟨Nat.not_le.2 hlt, not_not.2 hreturns⟩)
          · exact ih ⟨minor, hmem, by rwa [List.length_set]⟩
        · rw [storeRow_of_le hge, error_bind]
          exact ⟨_, rfl⟩
      · rcases reading_of_not_returns hreturns with ⟨e, he⟩
        rw [he, error_bind]
        exact ⟨e, rfl⟩

/-- Distinct minors inside the array: each gets its row, and no other element changes. -/
theorem exists_fillOutput {r : Round} {minors : List Nat} (hnodup : minors.Nodup) (output : Output)
    (h : ∀ minor ∈ minors, minor < output.length) (hreturns : ∀ minor ∈ minors, r.Returns minor) :
    ∃ output', fillOutput r output minors = .ok output' ∧ output'.length = output.length ∧
      (∀ minor ∈ minors, ∃ row, r.row minor = some row ∧ output'[minor]? = some (some row)) ∧
      ∀ i ∉ minors, output'[i]? = output[i]? := by
  induction minors generalizing output with
  | nil => exact ⟨output, rfl, rfl, by simp, fun _ _ => rfl⟩
  | cons m minors ih =>
      rw [List.forall_mem_cons] at h hreturns
      rw [List.nodup_cons] at hnodup
      rcases reading_of_returns hreturns.1 with ⟨row, hrow, hreading⟩
      rcases ih hnodup.2 (output.set m (some row)) (by rw [List.length_set]; exact h.2) hreturns.2
        with ⟨output', hfill, hlength, hstored, hframe⟩
      rw [List.length_set] at hlength
      refine ⟨output', ?_, hlength, ?_, ?_⟩
      · rw [fillOutput_cons, hreading, ok_bind, storeRow_of_lt h.1, ok_bind, hfill]
      · rw [List.forall_mem_cons]
        -- no later minor is `m`, so its row stays
        refine ⟨⟨row, hrow, ?_⟩, hstored⟩
        rw [hframe m hnodup.1, List.getElem?_set_self h.1]
      · intro i hi
        rw [List.mem_cons, not_or] at hi
        rw [hframe i hi.2, List.getElem?_set_ne (Ne.symm hi.1)]

/-! ## What is shown of an array -/

theorem exists_showRows_iff (canOpen : Text → Bool) (ts : Nat) {values : Output} (i : Nat)
    (s : Screen) : (∃ s', showRows canOpen ts i s values = .ok s') ↔ none ∉ values := by
  induction values generalizing i s with
  | nil => simp [showRows]
  | cons value values ih =>
      cases value with
      | none => simp [showRows]
      | some oneRow => simpa [showRows] using ih (i + 1) (s.addRow canOpen ts i oneRow)

/-! ## The rounds -/

theorem complete_of_fillOutput {d : DeviceList} (hdense : d.Dense) {r : Round}
    (hreturns : ∀ minor ∈ d.minors, r.Returns minor) {output : Output}
    (hlength : output.length = d.minors.length) :
    ∃ output', fillOutput r output d.minors = .ok output' ∧ Complete d.minors r output' := by
  rcases exists_fillOutput d.nodup output
    (fun minor hminor => hlength ▸ hdense minor hminor) hreturns with
    ⟨output', hfill, hlength', hstored, -⟩
  have hnull : none ∉ output' := by
    intro hmem
    rcases List.mem_iff_getElem?.1 hmem with ⟨i, hi⟩
    have hlt : i < d.minors.length := by
      rw [← hlength, ← hlength']
      exact (List.getElem?_eq_some_iff.1 hi).1
    have hminor := (d.dense_iff_perm.1 hdense).mem_iff.2 (List.mem_range.2 hlt)
    rcases hstored i hminor with ⟨row, -, hrow⟩
    cases hi.symm.trans hrow
  refine ⟨output', hfill, hlength'.trans hlength, fun minor hminor => ?_, hnull,
    fun canOpen ts s => (exists_showRows_iff canOpen ts 0 _).2 hnull⟩
  rcases hstored minor hminor with ⟨row, hrow, hget⟩
  exact ⟨row, hrow, List.mem_of_getElem? hget⟩

/-- The rounds, from any array of the right length on. -/
theorem exists_publish_iff {d : DeviceList} (hdense : d.Dense) (turns : List Turn) {output : Output}
    (hlength : output.length = d.minors.length) :
    (∃ published, publish d.minors output turns = .ok published ∧
        List.Forall₂ (Complete d.minors) (rounds turns) published) ↔
      ∀ r ∈ rounds turns, ∀ minor ∈ d.minors, r.Returns minor := by
  induction turns generalizing output with
  | nil => exact iff_of_true ⟨[], rfl, List.Forall₂.nil⟩ fun r hr => absurd hr List.not_mem_nil
  | cons turn turns ih =>
      cases turn with
      | remoteException =>
          exact iff_of_true ⟨[], rfl, List.Forall₂.nil⟩ fun r hr => absurd hr List.not_mem_nil
      | round r =>
          rw [rounds, List.forall_mem_cons]
          by_cases hreturns : ∀ minor ∈ d.minors, r.Returns minor
          · -- the array is published, and the next round fills it again
            rcases complete_of_fillOutput hdense hreturns hlength with ⟨output', hfill, hcomplete⟩
            rw [publish, hfill, ok_bind, and_iff_right hreturns, ← ih hcomplete.length_eq]
            constructor
            · rintro ⟨published, hpublish, hall⟩
              cases hrest : publish d.minors output' turns with
              | error e =>
                  rw [hrest, error_bind] at hpublish
                  cases hpublish
              | ok rest =>
                  rw [hrest, ok_bind] at hpublish
                  cases hpublish
                  cases hall with
                  | cons _ hall => exact ⟨rest, rfl, hall⟩
            · rintro ⟨published, hpublish, hall⟩
              exact ⟨output' :: published, by rw [hpublish, ok_bind], List.Forall₂.cons hcomplete hall⟩
          · -- the round ends the thread
            refine iff_of_false ?_ fun h => hreturns h.1
            have hbad : ∃ minor ∈ d.minors, output.length ≤ minor ∨ ¬ r.Returns minor := by
              push Not at hreturns
              rcases hreturns with ⟨minor, hminor, hnot⟩
              exact ⟨minor, hminor, .inr hnot⟩
            rcases fillOutput_eq_error hbad with ⟨e, he⟩
            rintro ⟨published, hpublish, -⟩
            rw [publish, he, error_bind] at hpublish
            cases hpublish

/-- Every round publishes a row for each device if and only if the minors are all below the number
of the devices and the native functions return in every round, or there is no round. -/
theorem publishesAll_iff (d : DeviceList) (turns : List Turn) :
    PublishesAll d turns ↔
      (rounds turns ≠ [] → d.Dense) ∧ ∀ r ∈ rounds turns, ∀ minor ∈ d.minors, r.Returns minor := by
  have hlength : (List.replicate d.minors.length none : Output).length = d.minors.length :=
    List.length_replicate
  by_cases hdense : d.Dense
  · exact (exists_publish_iff hdense turns hlength).trans (and_iff_right fun _ => hdense).symm
  · have hnone : ∀ r, r ∉ ([] : List Round) := fun _ => List.not_mem_nil
    cases turns with
    | nil =>
        exact iff_of_true ⟨[], rfl, List.Forall₂.nil⟩
          ⟨fun h => absurd rfl h, fun r hr => absurd hr (hnone r)⟩
    | cons turn turns =>
        cases turn with
        | remoteException =>
            exact iff_of_true ⟨[], rfl, List.Forall₂.nil⟩
              ⟨fun h => absurd rfl h, fun r hr => absurd hr (hnone r)⟩
        | round r =>
            -- the first round does not come to its end
            have hbehind : ∃ minor ∈ d.minors,
                (List.replicate d.minors.length none : Output).length ≤ minor ∨
                  ¬ r.Returns minor := by
              simp only [DeviceList.Dense, not_forall, not_lt] at hdense
              rcases hdense with ⟨minor, hminor, hle⟩
              exact ⟨minor, hminor, .inl (by rwa [hlength])⟩
            rcases fillOutput_eq_error hbehind with ⟨e, he⟩
            refine iff_of_false ?_ fun h => hdense (h.1 (List.cons_ne_nil _ _))
            rintro ⟨published, hrun, -⟩
            rw [doInBackground, publish, he] at hrun
            cases hrun

/-- One device, with minor 3. -/
theorem exists_not_publishesAll :
    ¬ ∀ (d : DeviceList) (turns : List Turn), PublishesAll d turns := by
  intro h
  let row : OutputTableRow :=
    { minor := 0, log_name := "accel".toList, time1 := [], log_event_generated_count := 7,
      log_event_dropped_count := 0, processName := "sensors".toList,
      log_event_consumed_count := 7, time2 := [] }
  let r : Round :=
    { pidSensorMap := ⟨[], by simp, by simp⟩, getReading := fun _ => some row,
      getProcessName := fun _ => some none }
  rcases h ⟨(Vector.replicate 16 16).set 0 3, [3], by decide, by decide, by decide⟩ [.round r] with
    ⟨published, hrun, -⟩
  have herror : doInBackground [3] [.round r] = .error (.arrayIndexOutOfBounds 3 1) := by rfl
  cases hrun.symm.trans herror

/-! ## The native functions of the application -/

section Native

variable (proc : Text → ProcFile) (sizeofPointer : Nat) {w : Nat}

/-- What the functions of resource_usage.c give for the logs of the devices, where an access out of
range ends the process; so does `ioctl` if it fails and there is no log. -/
def Round.native (pid_system_server : BitVec 32) (log : Nat → Option (UserEventLog w))
    (pidSensorMap : PidSensorMap) : Round where
  pidSensorMap := pidSensorMap
  getReading minor :=
    (log minor).bind fun log =>
      (Android.getReading proc sizeofPointer pid_system_server log).toOption
  getProcessName pid := (Android.getProcessName proc sizeofPointer (BitVec.ofInt 32 pid)).toOption

/-- By the letter of C no device can be read: `getReading` leaves one of its buffers, or follows NULL. -/
theorem not_returns_native (pid_system_server : BitVec 32) (log : Nat → Option (UserEventLog w))
    (pidSensorMap : PidSensorMap) (minor : Nat) :
    ¬ (Round.native proc sizeofPointer pid_system_server log pidSensorMap).Returns minor := by
  rintro ⟨reading, hreading, -⟩
  rcases Option.bind_eq_some_iff.1 hreading with ⟨entry, -, hentry⟩
  rcases getReading_cases proc sizeofPointer pid_system_server entry with ⟨fault, hfault, -⟩
  rw [hfault] at hentry
  cases hentry

end Native

end Android
end ResourceAccounting
