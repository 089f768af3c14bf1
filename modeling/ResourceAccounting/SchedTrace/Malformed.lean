import Mathlib.Order.WithBot
import ResourceAccounting.SchedTrace.Run
import ResourceAccounting.Streams.Records

/-!
# Malformed — can a malformed trace line disturb the well-formed ones?

A task name with a blank in it moves the words of a trace line, so that the fourth one is not the
timestamp.  run.py mends one such name, and is to skip the other lines:

- `Entry` — a line with the timestamp that ftrace gave it, and a mark if it has been inserted;
- `Undisturbed` — with the inserted lines and without them, run.py goes on to the end and writes the
  same well-formed lines;
- `reading?`, `processLine_eq` — what run.py makes of a line, apart from its state;
- `undisturbed_iff` — the snapshots in which the inserted lines disturb nothing.

An inserted line disturbs in two ways: with fewer than four words it ends the script, and with a
number for its fourth word it becomes the last timestamp.
-/

namespace ResourceAccounting
namespace SchedTrace

open Python Streams

/-! ## Lines and their timestamps -/

/-- `splt[3]` -/
def timeWord (line : Text) : Option Text :=
  (split (strip line))[3]?

/-- `line.replace("rs:main Q:Reg", "rs:main_Q:Reg")` -/
def mended (line : Text) : Text :=
  replace "rs:main Q:Reg".toList "rs:main_Q:Reg".toList line

/-- The fourth word of the line is the timestamp that ftrace gave it, or becomes so when the name is
mended. -/
def ShowsTime (own : Option Nat) (line : Text) : Prop :=
  match own with
  | none => False
  | some usec =>
      timeWord line = some (fixedDigits 6 usec ++ [':']) ∨
        timeWord (mended line) = some (fixedDigits 6 usec ++ [':'])

instance (own : Option Nat) (line : Text) : Decidable (ShowsTime own line) := by
  unfold ShowsTime
  split <;> infer_instance

/-- A line of a snapshot, the timestamp that ftrace gave it if it is an event, and whether it has
been inserted. -/
structure Entry where
  text : Text
  own : Option Nat
  inserted : Bool
  isLine : IsLine text
  not_showsTime : inserted = true → ¬ ShowsTime own text

namespace Entry

/-- The line is well-formed. -/
def wellFormed (e : Entry) : Bool :=
  decide (ShowsTime e.own e.text)

/-- The line is in both sequences. -/
def kept (e : Entry) : Bool :=
  !e.inserted

theorem kept_of_wellFormed (e : Entry) (h : e.wellFormed = true) : e.kept = true := by
  cases hinserted : e.inserted with
  | false => simp [kept, hinserted]
  | true => exact absurd (of_decide_eq_true h) (e.not_showsTime hinserted)

end Entry

/-- The contents of `/tmp/run_tmp.tmp`. -/
def contents (snapshots : List (List Entry)) : List Text :=
  snapshots.map (fun entries => (entries.map Entry.text).flatten)

/-- The snapshots without the inserted lines. -/
def original (snapshots : List (List Entry)) : List (List Entry) :=
  snapshots.map (List.filter Entry.kept)

theorem flatten_original (snapshots : List (List Entry)) :
    (original snapshots).flatten = snapshots.flatten.filter Entry.kept :=
  List.filter_flatten.symm

/-- What the chosen ones of these lines add to the scheduler log. -/
def writtenBy (chosen : Entry → Bool) : RunState → List Entry → List Text
  | _, [] => []
  | s, e :: entries =>
      match processLine s e.text with
      | none => []
      | some s' =>
          (if chosen e then s'.flog.drop s.flog.length else []) ++ writtenBy chosen s' entries

/-- The well-formed lines of the scheduler log. -/
def wellFormedLog (snapshots : List (List Entry)) : List Text :=
  writtenBy Entry.wellFormed RunState.init snapshots.flatten

/-- Neither run ends with an exception, and both write the same well-formed lines. -/
def Undisturbed (snapshots : List (List Entry)) : Prop :=
  (collect (contents snapshots)).isSome = true ∧
    (collect (contents (original snapshots))).isSome = true ∧
    wellFormedLog snapshots = wellFormedLog (original snapshots)

instance (snapshots : List (List Entry)) : Decidable (Undisturbed snapshots) :=
  inferInstanceAs (Decidable (_ ∧ _ ∧ _))

/-! ## What run.py makes of a line -/

/-- A comment, a line for the error log, or a line for the scheduler log with its timestamp. -/
inductive Reading
  | comment
  | error
  | event (written stamp : Text)
  deriving DecidableEq, Repr

/-- What run.py makes of a line; none for an `IndexError`. -/
def reading? (line : Text) : Option Reading :=
  if line.head? = some '#' then
    some .comment
  else do
    let stamp ← timestamp line
    if (float? stamp).isSome then
      some (.event line stamp)
    else
      let stamp ← timestamp (mended line)
      if (float? stamp).isSome then
        some (.event (mended line) stamp)
      else
        some .error

/-- The line is a comment, or it has four words at least, also with the mended name if the fourth of
them is not a number. -/
def Readable (line : Text) : Prop :=
  line.head? = some '#' ∨
    ((timestamp line).any (fun stamp => (float? stamp).isSome) = true ∨
      (timestamp line).isSome = true ∧ (timestamp (mended line)).isSome = true)

/-- The text that run.py takes for the timestamp of the line, if it takes any. -/
def takenStamp (line : Text) : WithBot Text :=
  match reading? line with
  | some (.event _ stamp) => stamp
  | _ => ⊥

/-- The text that run.py writes for the line, if it is to be written. -/
def takenText (line : Text) : Text :=
  match reading? line with
  | some (.event written _) => written
  | _ => []

/-- The effect of a line on the state. -/
def RunState.read (s : RunState) (line : Text) : Reading → RunState
  | .comment => s
  | .error => { s with errors := s.errors ++ [line], numErr := s.numErr + 1 }
  | .event written stamp => s.record written stamp

theorem processLine_eq (s : RunState) (line : Text) :
    processLine s line = (reading? line).map (s.read line) := by
  have hprocess : processLine s line =
      if line.head? = some '#' then some s
      else (timestamp line).bind fun stamp =>
        if (float? stamp).isSome then some (s.record line stamp)
        else (timestamp (mended line)).bind fun stamp =>
          if (float? stamp).isSome then some (s.record (mended line) stamp)
          else some { s with errors := s.errors ++ [line], numErr := s.numErr + 1 } := rfl
  rw [hprocess, reading?]
  generalize mended line = fixed
  by_cases hcomment : line.head? = some '#'
  · simp [hcomment, RunState.read]
  · simp only [hcomment, if_false, Option.bind_eq_bind]
    cases timestamp line with
    | none => rfl
    | some stamp =>
        by_cases hfloat : (float? stamp).isSome = true
        · simp [hfloat, RunState.read]
        · cases timestamp fixed with
          | none => simp [hfloat]
          | some stamp' =>
              by_cases hfloat' : (float? stamp').isSome = true
              · simp [hfloat, hfloat', RunState.read]
              · simp [hfloat, hfloat', RunState.read]

theorem readable_iff (line : Text) : Readable line ↔ (reading? line).isSome = true := by
  unfold Readable reading?
  by_cases hcomment : line.head? = some '#'
  · simp [hcomment]
  · simp only [hcomment, if_false, Option.bind_eq_bind, false_or]
    cases timestamp line with
    | none => simp
    | some stamp =>
        by_cases hfloat : (float? stamp).isSome = true
        · simp [hfloat]
        · cases hmended : timestamp (mended line) with
          | none => simp [hfloat]
          | some stamp' =>
              by_cases hfloat' : (float? stamp').isSome = true
              · simp [hfloat, hfloat']
              · simp [hfloat, hfloat']

/-! ## Runs -/

/-- `last_time`, below every text at the start. -/
def LastTime.toBot : LastTime → WithBot Text
  | .zero => ⊥
  | .text t => t

@[simp]
theorem LastTime.toBot_text (t : Text) : (LastTime.text t).toBot = t :=
  rfl

theorem LastTime.below_iff (last : LastTime) (stamp : Text) :
    last.below stamp = true ↔ last.toBot < (stamp : WithBot Text) := by
  cases last with
  | zero => simp [LastTime.below, LastTime.toBot, WithBot.bot_lt_coe]
  | text t => simp [LastTime.below, LastTime.toBot, WithBot.coe_lt_coe]

/-- A run goes on as long as the lines can be read. -/
theorem isSome_foldlM_processLine (lines : List Text) (s : RunState) :
    (lines.foldlM processLine s).isSome = true ↔ ∀ line ∈ lines, Readable line := by
  induction lines generalizing s with
  | nil => simp
  | cons line lines ih =>
      rw [List.foldlM_cons, processLine_eq, List.forall_mem_cons, readable_iff]
      cases reading? line with
      | none => simp
      | some r => simpa using ih (s.read line r)

theorem collect_contents (snapshots : List (List Entry)) :
    collect (contents snapshots) =
      (snapshots.flatten.map Entry.text).foldlM processLine RunState.init := by
  have hrun : ∀ s : RunState, (contents snapshots).foldlM
      (fun s content => (fileLines content).foldlM processLine s) s =
        (snapshots.flatten.map Entry.text).foldlM processLine s := by
    induction snapshots with
    | nil => intro s; rfl
    | cons entries snapshots ih =>
        intro s
        have hlines : fileLines (entries.map Entry.text).flatten = entries.map Entry.text := by
          refine fileLines_flatten fun line hline => ?_
          rcases List.mem_map.1 hline with ⟨e, -, rfl⟩
          exact e.isLine
        simp only [contents, List.map_cons, List.foldlM_cons, hlines, List.flatten_cons,
          List.map_append, List.foldlM_append]
        exact congrArg _ (funext ih)
  exact hrun RunState.init

theorem isSome_collect_iff (snapshots : List (List Entry)) :
    (collect (contents snapshots)).isSome = true ↔
      ∀ e ∈ snapshots.flatten, Readable e.text := by
  rw [collect_contents, isSome_foldlM_processLine, List.forall_mem_map]

theorem flog_prefix_read (s : RunState) (line : Text) (r : Reading) :
    s.flog <+: (s.read line r).flog := by
  cases r with
  | comment => exact List.prefix_rfl
  | error => exact List.prefix_rfl
  | event written stamp =>
      by_cases hbelow : s.lastTime.below stamp = true
      · simp [RunState.read, RunState.record, hbelow]
      · simp [RunState.read, RunState.record, hbelow]

/-- The log is what all lines have added to it. -/
theorem flog_eq_writtenBy (entries : List Entry) {s s' : RunState}
    (h : (entries.map Entry.text).foldlM processLine s = some s') :
    s'.flog = s.flog ++ writtenBy (fun _ => true) s entries := by
  induction entries generalizing s with
  | nil =>
      cases h
      simp [writtenBy]
  | cons e entries ih =>
      rw [List.map_cons, List.foldlM_cons, processLine_eq] at h
      rw [writtenBy, processLine_eq]
      cases hr : reading? e.text with
      | none => simp [hr] at h
      | some r =>
          rw [hr] at h
          rcases flog_prefix_read s e.text r with ⟨added, hadded⟩
          have hdrop : (s.read e.text r).flog.drop s.flog.length = added := by
            rw [← hadded, List.drop_left]
          have hrest : s'.flog = (s.read e.text r).flog ++
              writtenBy (fun _ => true) (s.read e.text r) entries := ih h
          simp only [Option.map_some, if_true, hdrop]
          rw [hrest, ← hadded, List.append_assoc]

/-- The chosen lines that are written are the chosen records of the lines, by their timestamps. -/
theorem writtenBy_eq (chosen : Entry → Bool) (entries : List Entry)
    (h : ∀ e ∈ entries, Readable e.text) (s : RunState) :
    writtenBy chosen s entries =
      ((records (fun e => takenStamp e.text) s.lastTime.toBot entries).filter chosen).map
        (fun e => takenText e.text) := by
  induction entries generalizing s with
  | nil => rfl
  | cons e entries ih =>
      rw [List.forall_mem_cons, readable_iff] at h
      rcases h with ⟨hread, hrest⟩
      rcases Option.isSome_iff_exists.1 hread with ⟨r, hr⟩
      rw [writtenBy, processLine_eq, hr]
      cases r with
      | comment | error =>
          -- the scheduler log and the last timestamp stay as they are
          have hbot : takenStamp e.text = ⊥ := by simp [takenStamp, hr]
          simp [records, hbot, RunState.read, ih hrest]
      | event written stamp =>
          have hstamp : takenStamp e.text = stamp := by simp [takenStamp, hr]
          have htext : takenText e.text = written := by simp [takenText, hr]
          by_cases hbelow : s.lastTime.below stamp = true
          · -- the line is written and its timestamp kept
            have hlt := (s.lastTime.below_iff stamp).1 hbelow
            cases hchosen : chosen e with
            | false =>
                simp [records, hstamp, hlt, RunState.read, RunState.record, hbelow, ih hrest,
                  hchosen]
            | true =>
                simp [records, hstamp, hlt, RunState.read, RunState.record, hbelow, ih hrest,
                  hchosen, htext]
          · have hlt := mt (s.lastTime.below_iff stamp).2 hbelow
            simp [records, hstamp, hlt, RunState.read, RunState.record, hbelow, ih hrest]

/-- The lines of the larger sequence can be read, so those of the smaller one can, too. -/
theorem wellFormedLog_eq_iff {snapshots : List (List Entry)}
    (hall : ∀ e ∈ snapshots.flatten, Readable e.text) :
    wellFormedLog snapshots = wellFormedLog (original snapshots) ↔
      Spares (fun e => takenStamp e.text) Entry.kept Entry.wellFormed ⊥ ⊥ snapshots.flatten := by
  have hkept : ∀ e ∈ snapshots.flatten.filter Entry.kept, Readable e.text :=
    fun e he => hall e (List.mem_of_mem_filter he)
  rw [wellFormedLog, wellFormedLog, flatten_original, writtenBy_eq _ _ hall, writtenBy_eq _ _ hkept]
  exact map_filter_records_eq_iff Entry.kept_of_wellFormed _ _ le_rfl

/-- The inserted lines disturb nothing if and only if every line can be read, and the inserted lines
that are taken for events spare the well-formed ones: each of these that exceeds all kept lines
before it exceeds the inserted ones before it, too. -/
theorem undisturbed_iff (snapshots : List (List Entry)) :
    Undisturbed snapshots ↔
      (∀ e ∈ snapshots.flatten, Readable e.text) ∧
        Spares (fun e => takenStamp e.text) Entry.kept Entry.wellFormed ⊥ ⊥ snapshots.flatten := by
  rw [Undisturbed, isSome_collect_iff, isSome_collect_iff, flatten_original]
  constructor
  · rintro ⟨hall, -, heq⟩
    exact ⟨hall, (wellFormedLog_eq_iff hall).1 heq⟩
  · rintro ⟨hall, hspares⟩
    -- no line of the smaller sequence ends the script if none of the larger one does
    exact ⟨hall, fun e he => hall e (List.mem_of_mem_filter he),
      (wellFormedLog_eq_iff hall).2 hspares⟩

/-- An event of the trace, as a line that is in both sequences. -/
def TraceLine.entry (line : TraceLine) : Entry where
  text := line.text
  own := some line.usec
  inserted := false
  isLine := line.isLine
  not_showsTime := by simp

/-- An inserted line without a timestamp. -/
def noise (words : Text) (h : '\n' ∉ words) : Entry where
  text := words ++ ['\n']
  own := none
  inserted := true
  isLine := ⟨words, rfl, h⟩
  not_showsTime := fun _ => id

/-- A line of three words ends the script. -/
theorem exists_not_undisturbed : ¬ ∀ snapshots : List (List Entry), Undisturbed snapshots := by
  intro h
  have hshort := h [[noise "kworker 12 [000]".toList (by decide), (switchLine 10000000).entry]]
  revert hshort
  decide +kernel

/-- A line with a number for its fourth word hides the event after it. -/
example : ¬ Undisturbed
    [[noise "Web 7 12 99.5: x".toList (by decide), (switchLine 10000000).entry]] := by
  decide +kernel

end SchedTrace
end ResourceAccounting
