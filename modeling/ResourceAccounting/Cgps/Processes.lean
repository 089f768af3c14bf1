import ResourceAccounting.Cgps.Endings
import ResourceAccounting.Schedules.Exec

/-!
# Processes — concurrent cgps processes and their log files

Every cgps process names its log after the second in which it starts, truncates that file, writes
the header and then appends its records.  Processes that start in one second share a file: the
later one removes what the earlier one has written, and model.py keeps one start and one end of
what remains.

- `cgpsStep` — one file operation of one process, in any interleaving;
- `Apart` — a step that opens a file no process has opened before, or that does not record the time
  0.000000 for a start (which model.py takes for "not seen");
- `accounted_of_apart` — in a run of such steps every session is covered by the slots.
-/

namespace ResourceAccounting
namespace Cgps

open Python GraphScripts Intervals Schedules

/-! ## The processes -/

inductive Phase
  /-- `fopen(filename,"w+")` has truncated the file. -/
  | opened
  /-- The header has been written. -/
  | headed
  /-- The 0 record has been written. -/
  | logging
  /-- A 1 or 2 record has been written, and a key is read. -/
  | updated
  /-- The 3 record has been written. -/
  | quit
  | died
  deriving DecidableEq, Repr

structure CgpsProc where
  /-- `raw_time`, which names the file. -/
  second : Nat
  phase : Phase
  /-- The records the process has written so far. -/
  written : List Record
  deriving DecidableEq, Repr

structure LogDir where
  /-- The log for each second. -/
  files : Nat → Option Text
  procs : Nat → Option CgpsProc

/-- No process has started. -/
def LogDir.init : LogDir :=
  { files := fun _ => none, procs := fun _ => none }

inductive CgpsAction
  | openLog (i second : Nat)
  | writeHeader (i : Nat)
  | record0 (i clock : Nat)
  | update (i : Nat) (mode : Int) (clock : Nat)
  | quit (i clock : Nat)
  | die (i : Nat)
  deriving DecidableEq, Repr

/-- Write at the start of a file. -/
def overwrite (text content : Text) : Text :=
  text ++ content.drop text.length

namespace LogDir

/-- Change the file of a process and the process. -/
def write (s : LogDir) (i : Nat) (proc : CgpsProc) (f : Text → Text) : LogDir :=
  { files := Function.update s.files proc.second ((s.files proc.second).map f)
    procs := Function.update s.procs i (some proc) }

/-- `fopen(filename,"a+")`, `fprintf`, `fclose` -/
def append (s : LogDir) (i : Nat) (proc : CgpsProc) (phase : Phase) (r : Record) : LogDir :=
  s.write i { proc with phase := phase, written := proc.written ++ [r] } (· ++ r.text)

end LogDir

/-- One file operation of process `i`. -/
def cgpsStep (s : LogDir) : CgpsAction → Option LogDir
  | .openLog i second =>
      if s.procs i = none then
        some { files := Function.update s.files second (some [])
               procs := Function.update s.procs i (some ⟨second, .opened, []⟩) }
      else
        none
  | .writeHeader i => do
      let proc ← s.procs i
      if proc.phase = .opened then
        -- the header goes to offset 0, whatever the file holds by now
        some (s.write i { proc with phase := .headed } (overwrite header))
      else
        none
  | .record0 i clock => do
      let proc ← s.procs i
      if proc.phase = .headed then
        some (s.append i proc .logging ⟨clock, .start⟩)
      else
        none
  | .update i mode clock => do
      let proc ← s.procs i
      if proc.phase = .logging ∨ proc.phase = .updated then
        some (s.append i proc .updated ⟨clock, updateMark mode⟩)
      else
        none
  | .quit i clock => do
      let proc ← s.procs i
      -- without an update the turn ends before `wgetch`
      if proc.phase = .updated then
        some (s.append i proc .quit ⟨clock, .quit⟩)
      else
        none
  | .die i => do
      let proc ← s.procs i
      if proc.phase = .quit then
        none
      else
        some { s with procs := Function.update s.procs i (some { proc with phase := .died }) }

/-! ## What is to be accounted for -/

/-- `logs` holds the logs in the directory. -/
def LogDir.Listing (s : LogDir) (logs : List Text) : Prop :=
  ∀ log, log ∈ logs ↔ ∃ second, s.files second = some log

/-- Of every process that has quit, the slots cover the time from its 0 record to its 3 record,
in whatever order the logs are read. -/
def Accounted (s : LogDir) : Prop :=
  ∀ logs, s.Listing logs → ∃ sessions, readSessions logs = some sessions ∧
    ∀ i proc, s.procs i = some proc → proc.phase = .quit →
      ∀ a ∈ proc.written, ∀ b ∈ proc.written, a.mark = .start → b.mark = .quit →
        Set.Ioo a.time b.time ⊆ cover (mergeSessions sessions)

/-- The step shares no file, and a start does not show as 0.000000. -/
def Apart (s : LogDir) : CgpsAction → Prop
  | .openLog _ second => s.files second = none
  | .record0 _ clock => (Record.mk clock .start).time ≠ 0
  | _ => True

instance (s : LogDir) : ∀ act, Decidable (Apart s act)
  | .openLog _ second => inferInstanceAs (Decidable (s.files second = none))
  | .record0 _ clock => inferInstanceAs (Decidable ((Record.mk clock .start).time ≠ 0))
  | .writeHeader _ => isTrue trivial
  | .update _ _ _ => isTrue trivial
  | .quit _ _ => isTrue trivial
  | .die _ => isTrue trivial

/-! ## Processes that share no file -/

/-- A 0 record, and updates. -/
def Logs (written : List Record) : Prop :=
  ∃ first rest, written = first :: rest ∧ first.mark = .start ∧ first.time ≠ 0 ∧
    ∀ r ∈ rest, r.mark ≠ .start ∧ r.mark ≠ .quit

/-- What a process has written, by its phase. -/
def Shape (proc : CgpsProc) : Prop :=
  match proc.phase with
  | .opened => proc.written = []
  | .headed => proc.written = []
  | .logging => Logs proc.written
  | .updated => Logs proc.written
  | .quit => ∃ first rest last, proc.written = first :: (rest ++ [last]) ∧ first.mark = .start ∧
      first.time ≠ 0 ∧ (∀ r ∈ rest, r.mark ≠ .start ∧ r.mark ≠ .quit) ∧ last.mark = .quit
  | .died => True

/-- The file of a process holds what this process has written and nothing else. -/
def Holds (proc : CgpsProc) (content : Text) : Prop :=
  content = logText proc.written ∨
    (content = [] ∧ proc.written = [] ∧ (proc.phase = .opened ∨ proc.phase = .died))

structure OwnFiles (s : LogDir) : Prop where
  unique : ∀ i j a b, s.procs i = some a → s.procs j = some b → a.second = b.second → i = j
  owner : ∀ second content, s.files second = some content →
    ∃ i proc, s.procs i = some proc ∧ proc.second = second
  content : ∀ i proc, s.procs i = some proc → ∃ content,
    s.files proc.second = some content ∧ Holds proc content
  shape : ∀ i proc, s.procs i = some proc → Shape proc

theorem ownFiles_init : OwnFiles LogDir.init where
  unique := by simp [LogDir.init]
  owner := by simp [LogDir.init]
  content := by simp [LogDir.init]
  shape := by simp [LogDir.init]

/-- After an update at `i` the value at `j` is the new one or the old one. -/
theorem update_eq_some {α : Type*} {f : Nat → Option α} {i j : Nat} {a b : α}
    (h : Function.update f i (some a) j = some b) : (j = i ∧ b = a) ∨ (j ≠ i ∧ f j = some b) := by
  by_cases hj : j = i
  · subst hj
    exact Or.inl ⟨rfl, by simpa using h.symm⟩
  · exact Or.inr ⟨hj, by simpa [hj] using h⟩

/-- A process that changes its own file and stays with it does not touch the others. -/
theorem ownFiles_write {s : LogDir} (h : OwnFiles s) {i : Nat} {proc : CgpsProc}
    (hproc : s.procs i = some proc) (proc' : CgpsProc) (hsecond : proc'.second = proc.second)
    (f : Text → Text)
    (hshape : Shape proc') (hcontent : ∀ content, Holds proc content → Holds proc' (f content)) :
    OwnFiles (s.write i proc' f) where
  unique := by
    intro j k a b ha hb hab
    -- every process has the second it had before
    have hold : ∀ l c, (s.write i proc' f).procs l = some c →
        ∃ d, s.procs l = some d ∧ d.second = c.second := by
      intro l c hc
      rcases update_eq_some hc with ⟨rfl, rfl⟩ | ⟨-, hc⟩
      · exact ⟨proc, hproc, hsecond.symm⟩
      · exact ⟨c, hc, rfl⟩
    rcases hold j a ha with ⟨a', ha', haa⟩
    rcases hold k b hb with ⟨b', hb', hbb⟩
    exact h.unique j k a' b' ha' hb' (by rw [haa, hbb, hab])
  owner := by
    intro second content hfile
    -- the file was there before
    have hold : ∃ content', s.files second = some content' := by
      by_cases hsec : second = proc'.second
      · subst hsec
        rcases h.content i proc hproc with ⟨content', hc, -⟩
        exact ⟨content', by rw [hsecond, hc]⟩
      · exact ⟨content, by simpa [LogDir.write, hsec] using hfile⟩
    rcases hold with ⟨content', hc⟩
    rcases h.owner second content' hc with ⟨j, q, hq, hqs⟩
    by_cases hj : j = i
    · subst hj
      have hqp : q = proc := by simpa [hproc] using hq.symm
      exact ⟨j, proc', by simp [LogDir.write], by rw [hsecond, ← hqp, hqs]⟩
    · exact ⟨j, q, by simp [LogDir.write, hj, hq], hqs⟩
  content := by
    intro j q hq
    rcases update_eq_some hq with ⟨rfl, rfl⟩ | ⟨hj, hq⟩
    · rcases h.content j proc hproc with ⟨content, hc, hholds⟩
      exact ⟨f content, by simp [LogDir.write, hsecond, hc], hcontent content hholds⟩
    · have hne : q.second ≠ proc'.second :=
        fun hsame => hj (h.unique j i q proc hq hproc (hsame.trans hsecond))
      rcases h.content j q hq with ⟨content, hc, hholds⟩
      exact ⟨content, by simp [LogDir.write, hne, hc], hholds⟩
  shape := by
    intro j q hq
    rcases update_eq_some hq with ⟨-, rfl⟩ | ⟨-, hq⟩
    · exact hshape
    · exact h.shape j q hq

theorem ownFiles_open {s : LogDir} (h : OwnFiles s) {i second : Nat} (hproc : s.procs i = none)
    (hfile : s.files second = none) :
    OwnFiles { files := Function.update s.files second (some [])
               procs := Function.update s.procs i (some ⟨second, .opened, []⟩) } := by
  -- no other process is in this second, for its file would be there
  have hother : ∀ j q, s.procs j = some q → q.second ≠ second := by
    intro j q hq hsame
    rcases h.content j q hq with ⟨content, hc, -⟩
    rw [hsame, hfile] at hc
    cases hc
  constructor
  case unique =>
      intro j k a b ha hb hab
      rcases update_eq_some ha with ⟨hj, rfl⟩ | ⟨-, ha⟩
      · rcases update_eq_some hb with ⟨hk, -⟩ | ⟨-, hb⟩
        · rw [hj, hk]
        · exact absurd hab.symm (hother k b hb)
      · rcases update_eq_some hb with ⟨-, rfl⟩ | ⟨-, hb⟩
        · exact absurd hab (hother j a ha)
        · exact h.unique j k a b ha hb hab
  case owner =>
      intro sec content hc
      by_cases hsec : sec = second
      · exact ⟨i, ⟨second, .opened, []⟩, by simp, hsec.symm⟩
      · rcases h.owner sec content (by simpa [hsec] using hc) with ⟨j, q, hq, hqs⟩
        have hj : j ≠ i := fun hj => by simp [hj, hproc] at hq
        exact ⟨j, q, by simp [hj, hq], hqs⟩
  case content =>
      intro j q hq
      rcases update_eq_some hq with ⟨-, rfl⟩ | ⟨-, hq⟩
      · exact ⟨[], by simp, Or.inr ⟨rfl, rfl, Or.inl rfl⟩⟩
      · rcases h.content j q hq with ⟨content, hc, hholds⟩
        exact ⟨content, by simp [hother j q hq, hc], hholds⟩
  case shape =>
      intro j q hq
      rcases update_eq_some hq with ⟨-, rfl⟩ | ⟨-, hq⟩
      · rfl
      · exact h.shape j q hq

/-- A record at the end of the own file. -/
theorem ownFiles_append {s : LogDir} (h : OwnFiles s) {i : Nat} {proc : CgpsProc}
    (hproc : s.procs i = some proc) (hopened : proc.phase ≠ .opened) (hdied : proc.phase ≠ .died)
    {phase : Phase} {r : Record}
    (hshape : Shape { proc with phase := phase, written := proc.written ++ [r] }) :
    OwnFiles (s.append i proc phase r) := by
  refine ownFiles_write h hproc { proc with phase := phase, written := _ } rfl _ hshape
    fun content hholds => ?_
  rcases hholds with hcontent | ⟨-, -, hphase⟩
  · exact Or.inl (by simpa [hcontent] using logText_append_singleton proc.written r)
  · rcases hphase with hphase | hphase
    · exact absurd hphase hopened
    · exact absurd hphase hdied

/-- An update keeps the shape of a process that logs. -/
theorem shape_update {proc : CgpsProc} (h : Shape proc)
    (hphase : proc.phase = .logging ∨ proc.phase = .updated) (mode : Int) (clock : Nat) :
    Shape { proc with phase := .updated, written := proc.written ++ [⟨clock, updateMark mode⟩] } := by
  have hlogs : Logs proc.written := by
    rcases hphase with hphase | hphase <;> simpa only [Shape, hphase] using h
  rcases hlogs with ⟨first, rest, hwritten, hfirst, hzero, hrest⟩
  refine ⟨first, rest ++ [⟨clock, updateMark mode⟩], by simp [hwritten], hfirst, hzero, ?_⟩
  intro r hr
  rcases List.mem_append.1 hr with hr | hr
  · exact hrest r hr
  · rw [List.mem_singleton.1 hr]
    exact updateMark_ne mode

theorem shape_quit {proc : CgpsProc} (h : Shape proc) (hphase : proc.phase = .updated)
    (clock : Nat) :
    Shape { proc with phase := .quit, written := proc.written ++ [⟨clock, .quit⟩] } := by
  simp only [Shape, hphase] at h
  rcases h with ⟨first, rest, hwritten, hfirst, hzero, hrest⟩
  exact ⟨first, rest, ⟨clock, .quit⟩, by simp [hwritten], hfirst, hzero, hrest, rfl⟩

/-- A process that dies leaves the files as they are. -/
theorem ownFiles_die {s : LogDir} (h : OwnFiles s) {i : Nat} {proc : CgpsProc}
    (hproc : s.procs i = some proc) :
    OwnFiles { s with procs := Function.update s.procs i (some { proc with phase := .died }) } := by
  rcases h.content i proc hproc with ⟨content, hc, -⟩
  have hsame : Function.update s.files proc.second ((s.files proc.second).map id) = s.files := by
    simp
  have hwrite := ownFiles_write h hproc { proc with phase := .died } rfl id trivial
    (fun content hholds => hholds.imp_right fun ⟨hnil, hwritten, _⟩ =>
      ⟨hnil, hwritten, Or.inr rfl⟩)
  rw [LogDir.write, hsame] at hwrite
  exact hwrite

theorem ownFiles_step {s s' : LogDir} {act : CgpsAction} (h : OwnFiles s) (hapart : Apart s act)
    (hstep : cgpsStep s act = some s') : OwnFiles s' := by
  cases act with
  | openLog i second =>
      rcases Option.ite_none_right_eq_some.1 hstep with ⟨hproc, heq⟩
      cases heq
      exact ownFiles_open h hproc hapart
  | writeHeader i =>
      rcases Option.bind_eq_some_iff.1 hstep with ⟨proc, hproc, hstep⟩
      rcases Option.ite_none_right_eq_some.1 hstep with ⟨hphase, heq⟩
      cases heq
      have hwritten : proc.written = [] := by
        simpa [Shape, hphase] using h.shape i proc hproc
      refine ownFiles_write h hproc { proc with phase := .headed } rfl _ hwritten
        fun content hholds => Or.inl ?_
      -- the own file is empty or holds the header already
      rcases hholds with hcontent | ⟨hcontent, -, -⟩
      · simp [overwrite, hcontent, hwritten, logText]
      · simp [overwrite, hcontent, hwritten, logText]
  | record0 i clock =>
      rcases Option.bind_eq_some_iff.1 hstep with ⟨proc, hproc, hstep⟩
      rcases Option.ite_none_right_eq_some.1 hstep with ⟨hphase, heq⟩
      cases heq
      have hwritten : proc.written = [] := by
        simpa [Shape, hphase] using h.shape i proc hproc
      apply ownFiles_append h hproc (by simp [hphase]) (by simp [hphase])
      exact ⟨⟨clock, .start⟩, [], by simp [hwritten], rfl, hapart, by simp⟩
  | update i mode clock =>
      rcases Option.bind_eq_some_iff.1 hstep with ⟨proc, hproc, hstep⟩
      rcases Option.ite_none_right_eq_some.1 hstep with ⟨hphase, heq⟩
      cases heq
      have hopened : proc.phase ≠ .opened := by
        rcases hphase with hphase | hphase <;> simp [hphase]
      have hdied : proc.phase ≠ .died := by
        rcases hphase with hphase | hphase <;> simp [hphase]
      apply ownFiles_append h hproc hopened hdied
      exact shape_update (h.shape i proc hproc) hphase mode clock
  | quit i clock =>
      rcases Option.bind_eq_some_iff.1 hstep with ⟨proc, hproc, hstep⟩
      rcases Option.ite_none_right_eq_some.1 hstep with ⟨hphase, heq⟩
      cases heq
      apply ownFiles_append h hproc (by simp [hphase]) (by simp [hphase])
      exact shape_quit (h.shape i proc hproc) hphase clock
  | die i =>
      rcases Option.bind_eq_some_iff.1 hstep with ⟨proc, hproc, hstep⟩
      rcases Option.ite_none_left_eq_some.1 hstep with ⟨-, heq⟩
      cases heq
      exact ownFiles_die h hproc

/-! ## The slots -/

theorem sessionTimes_of_holds {proc : CgpsProc} {content : Text} (h : Holds proc content) :
    sessionTimes content = some (timesOf proc.written) := by
  rcases h with rfl | ⟨rfl, hwritten, -⟩
  · exact sessionTimes_logText proc.written
  · rw [hwritten]
    rfl

/-- The session of a process that has quit is the time from its 0 record to its 3 record. -/
theorem timesOf_of_quit {proc : CgpsProc} (hshape : Shape proc) (hphase : proc.phase = .quit)
    {a b : Record} (ha : a ∈ proc.written) (hb : b ∈ proc.written) (hastart : a.mark = .start)
    (hbquit : b.mark = .quit) :
    timesOf proc.written = { startTime := a.time, endTime := b.time } ∧ a.time ≠ 0 := by
  simp only [Shape, hphase] at hshape
  rcases hshape with ⟨first, rest, last, hwritten, hfirst, hzero, hrest, hlast⟩
  have hmem : ∀ r, r ∈ proc.written ↔ r = first ∨ r ∈ rest ∨ r = last := by
    simp [hwritten]
  -- there is one 0 record, the first, and one 3 record, the last
  have hafirst : a = first := by
    rcases (hmem a).1 ha with h | h | h
    · exact h
    · exact absurd hastart (hrest a h).1
    · rw [h, hlast] at hastart
      cases hastart
  have hblast : b = last := by
    rcases (hmem b).1 hb with h | h | h
    · rw [h, hfirst] at hbquit
      cases hbquit
    · exact absurd hbquit (hrest b h).2
    · exact h
  subst hafirst hblast
  refine ⟨?_, hzero⟩
  have hstart := startTime_foldl_see rest { startTime := a.time, endTime := 0 }
    fun r hr => (hrest r hr).1
  rw [timesOf, hwritten, List.foldl_cons, List.foldl_append, see_of_start _ hfirst]
  simp only [List.foldl_cons, List.foldl_nil]
  rw [see_of_isEnd _ (Or.inr hlast)]
  simp [hstart]

theorem accounted_of_ownFiles {s : LogDir} (h : OwnFiles s) : Accounted s := by
  intro logs hlogs
  have hread : ∀ log ∈ logs, ∃ i proc, s.procs i = some proc ∧
      sessionTimes log = some (timesOf proc.written) := by
    intro log hlog
    rcases (hlogs log).1 hlog with ⟨second, hfile⟩
    rcases h.owner second log hfile with ⟨i, proc, hproc, rfl⟩
    rcases h.content i proc hproc with ⟨content, hc, hholds⟩
    have hcontent : content = log := by simpa [hfile] using hc.symm
    exact ⟨i, proc, hproc, sessionTimes_of_holds (hcontent ▸ hholds)⟩
  have hall : ∀ log ∈ logs, (sessionTimes log).isSome = true := by
    intro log hlog
    rcases hread log hlog with ⟨i, proc, -, htimes⟩
    simp [htimes]
  refine ⟨(logs.filterMap sessionTimes).filterMap SessionTimes.session,
    by rw [readSessions, mapM_eq_ite, if_pos hall]; rfl, ?_⟩
  -- the file of a process has all of its records, and no others
  intro i proc hproc hphase a ha b hb hastart hbquit
  rcases h.content i proc hproc with ⟨content, hc, hholds⟩
  have htimes := sessionTimes_of_holds hholds
  rcases timesOf_of_quit (h.shape i proc hproc) hphase ha hb hastart hbquit with ⟨htimesOf, hzero⟩
  rcases lt_or_ge a.time b.time with hlt | hle
  · have hbzero : b.time ≠ 0 := (a.time_nonneg.trans_lt hlt).ne'
    have hsession : (timesOf proc.written).session = some ⟨a.time, b.time, hlt⟩ := by
      simp [htimesOf, SessionTimes.session, hzero, hbzero, hlt]
    rw [cover_mergeSessions]
    refine points_subset_cover (s := ⟨a.time, b.time, hlt⟩) ?_
    simp only [List.mem_filterMap]
    exact ⟨_, ⟨content, (hlogs content).2 ⟨proc.second, hc⟩, htimes⟩, hsession⟩
  · -- no time has passed in the log
    rw [Set.Ioo_eq_empty (not_lt.2 hle)]
    exact Set.empty_subset _

/-- In a run in which no two processes open the same file, and no start shows as 0.000000, every
session is accounted for in every state. -/
theorem accounted_of_apart {acts : List CgpsAction} {s : LogDir}
    (hapart : Respects cgpsStep Apart LogDir.init acts)
    (hrun : exec cgpsStep LogDir.init acts = some s) : Accounted s :=
  accounted_of_ownFiles
    (exec_invariant_of_respects (fun _ _ _ h => ownFiles_step h) ownFiles_init hapart hrun)

/-- Two processes that start in different seconds and whose records interleave. -/
theorem accounted_of_apart_two : ∃ s, exec cgpsStep LogDir.init
    [.openLog 0 7, .writeHeader 0, .openLog 1 8, .record0 0 1000000000, .writeHeader 1,
      .record0 1 2000000000, .update 0 2 3000000000, .quit 0 4000000000] = some s ∧ Accounted s := by
  refine ⟨_, rfl, @accounted_of_apart [.openLog 0 7, .writeHeader 0, .openLog 1 8,
    .record0 0 1000000000, .writeHeader 1, .record0 1 2000000000, .update 0 2 3000000000,
    .quit 0 4000000000] _ ?_ rfl⟩
  refine (respects_cons rfl).2 ⟨by decide, (respects_cons rfl).2 ⟨trivial, ?_⟩⟩
  refine (respects_cons rfl).2 ⟨by decide, (respects_cons rfl).2 ⟨by decide +kernel, ?_⟩⟩
  refine (respects_cons rfl).2 ⟨trivial, (respects_cons rfl).2 ⟨by decide +kernel, ?_⟩⟩
  exact (respects_cons rfl).2 ⟨trivial, (respects_cons rfl).2 ⟨trivial, trivial⟩⟩

/-- Two processes that start in the same second: model.py gets the start of the second one, and
what came before it is in no slot. -/
theorem exists_not_accounted :
    ¬ ∀ (acts : List CgpsAction) (s : LogDir),
      exec cgpsStep LogDir.init acts = some s → Accounted s := by
  intro h
  -- what the two have written into their file
  let log := logText [⟨1000000000, .start⟩, ⟨2000000000, .start⟩, ⟨2250000000, .response⟩,
    ⟨2750000000, .response⟩, ⟨3000000000, .quit⟩, ⟨4000000000, .quit⟩]
  have hrun : ∃ s, exec cgpsStep LogDir.init [.openLog 0 7, .writeHeader 0, .openLog 1 7,
      .writeHeader 1, .record0 0 1000000000, .record0 1 2000000000, .update 0 1 2250000000,
      .update 1 1 2750000000, .quit 0 3000000000, .quit 1 4000000000] = some s ∧
      s.files 7 = some log ∧ (∀ second, second ≠ 7 → s.files second = none) ∧
      s.procs 0 = some ⟨7, .quit, [⟨1000000000, .start⟩, ⟨2250000000, .response⟩,
        ⟨3000000000, .quit⟩]⟩ := by
    refine ⟨_, rfl, by decide +kernel, fun second hne => ?_, by decide +kernel⟩
    simp [LogDir.append, LogDir.write, LogDir.init, hne]
  rcases hrun with ⟨s, hs, hfile, hnone, hproc⟩
  have hlisting : s.Listing [log] := by
    intro text
    rw [List.mem_singleton]
    constructor
    · rintro rfl
      exact ⟨7, hfile⟩
    · rintro ⟨second, hsecond⟩
      by_cases hne : second = 7
      · rw [hne, hfile] at hsecond
        exact (Option.some_inj.1 hsecond).symm
      · rw [hnone second hne] at hsecond
        cases hsecond
  rcases h _ s hs _ hlisting with ⟨sessions, hread, hcover⟩
  have hslots : readSessions [log] = some [⟨2, 4, by decide⟩] := by
    decide +kernel
  -- the point 3/2 belongs to the first session only
  cases hslots.symm.trans hread
  have hin := hcover 0 _ hproc rfl ⟨1000000000, .start⟩ (by decide) ⟨3000000000, .quit⟩ (by decide)
    rfl rfl
  have hpoint : (3 / 2 : ℚ) ∈ Set.Ioo (Record.mk 1000000000 .start).time
      (Record.mk 3000000000 .quit).time := by
    exact ⟨by decide +kernel, by decide +kernel⟩
  exact absurd (hin hpoint) (by decide +kernel)

end Cgps
end ResourceAccounting
