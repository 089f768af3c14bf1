import ResourceAccounting.Cgps.Log

/-!
# Endings — how a cgps process ends and what the energy model makes of it

The main loop appends a record for every update and leaves in one of two ways: by the key `q`,
after which a last record is written, or through `die`, which writes none.  model.py takes the last
record of mark 2 or 3 for the end of the session.  So a process that ends through `die` is charged
up to its last fix, and not at all when it never had one.
-/

namespace ResourceAccounting
namespace Cgps

open Python GraphScripts

/-! ## The main loop -/

inductive Ending
  /-- The loop is left on the key `q`. -/
  | quit
  /-- `die` has been called. -/
  | died
  deriving DecidableEq, Repr

/-- What the main loop meets. -/
inductive Input
  /-- `gps_waiting` gives up. -/
  | timeout
  /-- `gps_read` returns and leaves this value in `gpsdata.fix.mode`. -/
  | update (mode : Int) (clock : Nat)
  /-- `gps_read` returns -1. -/
  | readError
  /-- SIGINT or SIGHUP. -/
  | signal
  /-- `wgetch` returns a key. -/
  | key (c : Char) (clock : Nat)
  deriving DecidableEq, Repr

structure Process where
  records : List Record
  ending : Option Ending
  deriving DecidableEq, Repr

/-- `MODE_2D` or `MODE_3D` -/
def updateMark (mode : Int) : Mark :=
  if mode = 2 ∨ mode = 3 then .fix else .response

/-- The process has written the 0 record. -/
def Process.init (clock : Nat) : Process :=
  { records := [⟨clock, .start⟩], ending := none }

/-- One turn of the main loop. -/
def Process.step (p : Process) (input : Input) : Process :=
  match p.ending, input with
  | none, .timeout => p
  | none, .update mode clock => { p with records := p.records ++ [⟨clock, updateMark mode⟩] }
  | none, .readError => { p with ending := some .died }
  | none, .signal => { p with ending := some .died }
  | none, .key c clock =>
      if c = 'q' then
        { records := p.records ++ [⟨clock, .quit⟩], ending := some .quit }
      else
        p
  | some _, _ => p

def Process.run (clock : Nat) (inputs : List Input) : Process :=
  inputs.foldl Process.step (Process.init clock)

/-- The records that follow the 0 record. -/
def Process.after (p : Process) : List Record :=
  p.records.tail

/-! ## The invariant of the main loop -/

/-- The 0 record stands first and nowhere else; a 3 record stands last, if the loop was left on
`q`, and nowhere else. -/
structure WellEnded (clock : Nat) (p : Process) : Prop where
  records_eq : p.records = ⟨clock, .start⟩ :: p.after
  no_start : ∀ r ∈ p.after, r.mark ≠ .start
  quit_last : p.ending = some .quit → ∃ front r, p.after = front ++ [r] ∧ r.mark = .quit
  no_quit : p.ending ≠ some .quit → ∀ r ∈ p.after, r.mark ≠ .quit

theorem updateMark_ne (mode : Int) : updateMark mode ≠ .start ∧ updateMark mode ≠ .quit := by
  unfold updateMark
  split <;> simp

theorem after_append {p : Process} {clock : Nat} (h : p.records = ⟨clock, .start⟩ :: p.after)
    (r : Record) (ending : Option Ending) :
    Process.after { records := p.records ++ [r], ending := ending } = p.after ++ [r] := by
  rw [Process.after, h]
  rfl

/-- A record at the end changes nothing of what stands before it. -/
theorem records_append {p : Process} {clock : Nat} (h : p.records = ⟨clock, .start⟩ :: p.after)
    (r : Record) (ending : Option Ending) :
    p.records ++ [r] =
      ⟨clock, .start⟩ :: Process.after { records := p.records ++ [r], ending := ending } := by
  rw [after_append h]
  exact congrArg (· ++ [r]) h

theorem forall_after_append {p : Process} {clock : Nat} {P : Record → Prop}
    (h : p.records = ⟨clock, .start⟩ :: p.after) (hall : ∀ r ∈ p.after, P r) {r : Record}
    (hr : P r) (ending : Option Ending) :
    ∀ q ∈ Process.after { records := p.records ++ [r], ending := ending }, P q := by
  intro q hq
  rw [after_append h] at hq
  rcases List.mem_append.1 hq with hq | hq
  · exact hall q hq
  · rw [List.mem_singleton.1 hq]
    exact hr

theorem wellEnded_step {clock : Nat} {p : Process} (h : WellEnded clock p) (input : Input) :
    WellEnded clock (p.step input) := by
  rcases p with ⟨records, ending⟩
  cases ending with
  | some ending => exact h
  | none =>
      have hnone : ∀ r ∈ Process.after ⟨records, none⟩, r.mark ≠ .quit := h.no_quit (by simp)
      cases input with
      | timeout => exact h
      | update mode clock' =>
          have hmark := updateMark_ne mode
          exact ⟨records_append h.records_eq _ none,
            forall_after_append h.records_eq h.no_start hmark.1 none, by simp [Process.step],
            fun _ => forall_after_append h.records_eq hnone hmark.2 none⟩
      -- `die` writes nothing
      | readError => exact ⟨h.records_eq, h.no_start, by simp [Process.step], fun _ => hnone⟩
      | signal => exact ⟨h.records_eq, h.no_start, by simp [Process.step], fun _ => hnone⟩
      | key c clock' =>
          by_cases hc : c = 'q'
          · have hstep : Process.step ⟨records, none⟩ (.key c clock') =
                ⟨records ++ [⟨clock', .quit⟩], some .quit⟩ := by
              simp [Process.step, hc]
            have hafter := after_append h.records_eq ⟨clock', .quit⟩ (some .quit)
            rw [hstep]
            exact ⟨records_append h.records_eq _ _,
              forall_after_append h.records_eq h.no_start (by simp) _,
              fun _ => ⟨_, _, hafter, rfl⟩, by simp⟩
          · have hstep : Process.step ⟨records, none⟩ (.key c clock') = ⟨records, none⟩ := by
              simp [Process.step, hc]
            rw [hstep]
            exact h

theorem wellEnded_run (clock : Nat) (inputs : List Input) :
    WellEnded clock (Process.run clock inputs) := by
  have hrun : ∀ p, WellEnded clock p → WellEnded clock (inputs.foldl Process.step p) := by
    induction inputs with
    | nil => exact fun p h => h
    | cons input inputs ih => exact fun p h => ih _ (wellEnded_step h input)
  exact hrun _ ⟨rfl, by simp [Process.after, Process.init], by simp [Process.init],
    by simp [Process.after, Process.init]⟩

/-! ## What the energy model charges -/

/-- The times in the log increase and none of them is zero. -/
def TimesIncrease (records : List Record) : Prop :=
  records.Pairwise (fun a b => a.time < b.time) ∧ ∀ r ∈ records, r.time ≠ 0

instance (records : List Record) : Decidable (TimesIncrease records) :=
  inferInstanceAs (Decidable (_ ∧ _))

/-- model.py derives a slot that starts with the first record and does not end before the last. -/
def Charged (records : List Record) : Prop :=
  ∃ slot, (sessionTimes (logText records)).bind SessionTimes.session = some slot ∧
    records.head?.map Record.time = some slot.lo ∧
    ∀ last ∈ records.getLast?, last.time ≤ slot.hi

theorem session_eq_some {times : SessionTimes} {slot : Slot} (h : times.session = some slot) :
    slot.lo = times.startTime ∧ slot.hi = times.endTime ∧ times.endTime ≠ 0 := by
  unfold SessionTimes.session at h
  split at h
  · cases h
  · rename_i hnot
    cases h
    exact ⟨rfl, rfl, fun hzero => hnot (Or.inr (Or.inl hzero))⟩

section Session

variable {first last : Record} {front : List Record}

theorem getLast?_session : (first :: (front ++ [last])).getLast? = some last := by
  rw [← List.cons_append, List.getLast?_concat]

/-- The reader's state before the last record, and the last record. -/
theorem timesOf_session (hfirst : first.mark = .start) :
    timesOf (first :: (front ++ [last])) =
      see (front.foldl see { startTime := first.time, endTime := 0 }) last := by
  rw [timesOf, List.foldl_cons, see_of_start _ hfirst, List.foldl_append]
  rfl

theorem isEnd_of_charged (hfirst : first.mark = .start)
    (hstart : ∀ r ∈ front ++ [last], r.mark ≠ .start)
    (htimes : TimesIncrease (first :: (front ++ [last])))
    (hcharged : Charged (first :: (front ++ [last]))) : last.IsEnd := by
  rcases hcharged with ⟨slot, hslot, -, hlast⟩
  rw [sessionTimes_logText, Option.bind_some] at hslot
  rcases session_eq_some hslot with ⟨-, hhi, hne⟩
  by_contra hnot
  have hresponse : last.mark = .response := by
    rcases mark_cases last with h | h | h
    · exact absurd h (hstart last (by simp))
    · exact h
    · exact absurd h hnot
  rw [timesOf_session hfirst, see_of_response _ hresponse] at hhi hne
  -- the end that was read is an earlier time
  rcases endTime_foldl_see front { startTime := first.time, endTime := 0 } with
    hzero | ⟨r, hr, hend⟩
  · exact hne hzero
  · have hearlier : r.time < last.time := by
      have hrest := (List.pairwise_cons.1 htimes.1).2
      exact (List.pairwise_append.1 hrest).2.2 r hr last (by simp)
    have hle := hlast last (by rw [getLast?_session]; rfl)
    rw [hhi, hend] at hle
    exact absurd hearlier (not_lt.2 hle)

theorem charged_of_isEnd (hfirst : first.mark = .start)
    (hstart : ∀ r ∈ front ++ [last], r.mark ≠ .start)
    (htimes : TimesIncrease (first :: (front ++ [last]))) (hend : last.IsEnd) :
    Charged (first :: (front ++ [last])) := by
  have hlt : first.time < last.time := (List.pairwise_cons.1 htimes.1).1 last (by simp)
  have hstartTime := startTime_foldl_see front { startTime := first.time, endTime := 0 }
    fun r hr => hstart r (List.mem_append_left _ hr)
  have htimesOf : timesOf (first :: (front ++ [last])) =
      { startTime := first.time, endTime := last.time } := by
    rw [timesOf_session hfirst, see_of_isEnd _ hend]
    simp [hstartTime]
  have hfirstNe : first.time ≠ 0 := htimes.2 first (by simp)
  have hlastNe : last.time ≠ 0 := htimes.2 last (by simp)
  have hsession : SessionTimes.session { startTime := first.time, endTime := last.time } =
      some ⟨first.time, last.time, hlt⟩ := by
    simp [SessionTimes.session, hfirstNe, hlastNe, hlt]
  refine ⟨⟨first.time, last.time, hlt⟩, ?_, rfl, ?_⟩
  · rw [sessionTimes_logText, htimesOf]
    exact hsession
  · intro r hr
    rw [getLast?_session] at hr
    cases hr
    exact le_refl _

/-- A log is charged to its last record exactly when that record is an end for the reader. -/
theorem charged_iff_isEnd (hfirst : first.mark = .start)
    (hstart : ∀ r ∈ front ++ [last], r.mark ≠ .start)
    (htimes : TimesIncrease (first :: (front ++ [last]))) :
    Charged (first :: (front ++ [last])) ↔ last.IsEnd :=
  ⟨isEnd_of_charged hfirst hstart htimes, charged_of_isEnd hfirst hstart htimes⟩

end Session

/-- A process that has ended is charged for as long as it was logging exactly when it ended by `q`
or its last record is a fix. -/
theorem charged_iff {clock : Nat} {inputs : List Input} {ending : Ending}
    (hended : (Process.run clock inputs).ending = some ending)
    (hne : (Process.run clock inputs).after ≠ [])
    (htimes : TimesIncrease (Process.run clock inputs).records) :
    Charged (Process.run clock inputs).records ↔
      ending = .quit ∨
        ∃ last ∈ (Process.run clock inputs).records.getLast?, last.mark = .fix := by
  have hinv := wellEnded_run clock inputs
  rcases List.eq_nil_or_concat (Process.run clock inputs).after with hnil | ⟨front, last, hafter⟩
  · exact absurd hnil hne
  · rw [List.concat_eq_append] at hafter
    have hrecords := hinv.records_eq
    rw [hafter] at hrecords
    have hgetLast : (Process.run clock inputs).records.getLast? = some last := by
      rw [hrecords, getLast?_session]
    have hstart := hinv.no_start
    rw [hafter] at hstart
    rw [hrecords] at htimes
    -- a 3 record stands last exactly when the loop was left on `q`
    have hquit : ending = .quit ↔ last.mark = .quit := by
      constructor
      · intro h
        rcases hinv.quit_last (by rw [hended, h]) with ⟨front', r, hafter', hr⟩
        have hlast : last = r := by
          have := hafter.symm.trans hafter'
          simpa using (List.append_inj' this rfl).2
        rw [hlast, hr]
      · intro h
        by_contra hdied
        refine hinv.no_quit (by simpa [hended] using hdied) last ?_ h
        simp [hafter]
    rw [hgetLast, hquit, hrecords, charged_iff_isEnd rfl hstart htimes]
    simp [Record.IsEnd, or_comm]

/-- Two responses, a fix and `q`. -/
theorem charged_iff_quit : Charged (Process.run 1000000000 [.update 1 2000000000,
    .update 3 3000000000, .timeout, .update 1 4000000000, .key 'q' 5000000000]).records :=
  (@charged_iff _ _ .quit (by decide) (by decide) (by decide +kernel)).2 (Or.inl rfl)

/-- One response and SIGINT: the log has no end, and no slot is derived. -/
theorem exists_not_charged :
    ¬ ∀ (clock : Nat) (inputs : List Input) (ending : Ending),
      (Process.run clock inputs).ending = some ending →
      (Process.run clock inputs).after ≠ [] →
      TimesIncrease (Process.run clock inputs).records →
      Charged (Process.run clock inputs).records := by
  intro h
  rcases h 1000000000 [.update 1 2000000000, .signal] .died (by decide) (by decide)
    (by decide +kernel) with ⟨slot, hslot, -⟩
  rw [sessionTimes_logText, Option.bind_some] at hslot
  exact absurd (session_eq_some hslot).2.2 (by decide +kernel)

end Cgps
end ResourceAccounting
