import ResourceAccounting.Accounting.Measurement
import ResourceAccounting.Schedules.Batches

/-!
# PowerOrder — what the writers leave in the power log

The samples that were measured are the batches of the started writers, in the order of the starts,
and then the buffer (`BufferInv`).  The rows in the log are the batches in the order in which their
writers obtained the lock (`LockInv`).  Nothing relates the two orders: the lock makes the appends
exclusive, it does not order them.
-/

namespace ResourceAccounting
namespace Accounting

open Schedules PowerState

/-! ## What a step can do -/

namespace PowerState

variable (s : PowerState)

def measure (sample : Sample) : PowerState :=
  { s with
    myArray := s.myArray ++ [sample.1, sample.2]
    measured := s.measured ++ [sample]
    phase := .checking }

def acquire (i : Nat) : PowerState :=
  { s with
    lock := some i
    status := Function.update s.status i .writing
    acquired := s.acquired ++ [i] }

def save (i : Nat) : PowerState :=
  { s with
    log := s.log ++ s.batch i
    status := Function.update s.status i .written }

def release (i : Nat) : PowerState :=
  { s with
    lock := none
    status := Function.update s.status i .finished }

end PowerState

theorem powerStep_cases {s s' : PowerState} {a : Action} (hstep : powerStep s a = some s') :
    s' = { s with stopped := true } ∨
    (∃ sample, s' = s.measure sample ∨ s' = (s.measure sample).startWriter) ∨
    (s' = { s.startWriter with phase := .finished } ∨ s' = { s with phase := .sampling }) ∨
    (∃ i, i < s.writers.length ∧ s.status i = .waiting ∧ s.lock = none ∧ s' = s.acquire i) ∨
    (∃ i, s.status i = .writing ∧ s' = s.save i) ∨
    (∃ i, s.status i = .written ∧ s' = s.release i) := by
  cases a with
  | stop =>
      cases hstep
      exact .inl rfl
  | sample rtTime tmpShunt tmpBus =>
      rcases Option.ite_none_right_eq_some.1 hstep with ⟨-, hstep⟩
      refine .inr (.inl ⟨(rtTime, rtPower tmpShunt tmpBus), ?_⟩)
      -- a full buffer goes to a new writer
      split at hstep
      · cases hstep
        exact .inr rfl
      · cases hstep
        exact .inl rfl
  | check =>
      rcases Option.ite_none_right_eq_some.1 hstep with ⟨-, hstep⟩
      refine .inr (.inr (.inl ?_))
      -- what is left in the buffer goes to the last writer
      split at hstep
      · cases hstep
        exact .inl rfl
      · cases hstep
        exact .inr rfl
  | acquire i =>
      rcases Option.ite_none_right_eq_some.1 hstep with ⟨⟨hi, hwaiting, hlock⟩, heq⟩
      cases heq
      exact .inr (.inr (.inr (.inl ⟨i, hi, hwaiting, hlock, rfl⟩)))
  | save i =>
      rcases Option.ite_none_right_eq_some.1 hstep with ⟨hwriting, heq⟩
      cases heq
      exact .inr (.inr (.inr (.inr (.inl ⟨i, hwriting, rfl⟩))))
  | release i =>
      rcases Option.ite_none_right_eq_some.1 hstep with ⟨hwritten, heq⟩
      cases heq
      exact .inr (.inr (.inr (.inr (.inr ⟨i, hwritten, rfl⟩))))

/-! ## Batches of a growing list of writers -/

theorem batch_startWriter_of_lt {s : PowerState} {i : Nat} (hi : i < s.writers.length) :
    s.startWriter.batch i = s.batch i := by
  simp [batch, startWriter, List.getElem?_append_left hi]

theorem batch_startWriter_length (s : PowerState) :
    s.startWriter.batch s.writers.length = rows s.myArray := by
  simp [batch, startWriter]

theorem flatMap_batch_startWriter {s : PowerState} {l : List Nat}
    (hl : ∀ i ∈ l, i < s.writers.length) :
    l.flatMap s.startWriter.batch = l.flatMap s.batch :=
  List.flatMap_congr fun i hi => batch_startWriter_of_lt (hl i hi)

theorem range_flatMap_batch_startWriter (s : PowerState) :
    (List.range s.startWriter.writers.length).flatMap s.startWriter.batch =
      (List.range s.writers.length).flatMap s.batch ++ rows s.myArray := by
  have hlen : s.startWriter.writers.length = s.writers.length + 1 := by
    simp [startWriter]
  rw [hlen, List.range_succ, List.flatMap_append,
    flatMap_batch_startWriter (fun i hi => List.mem_range.1 hi), List.flatMap_singleton,
    batch_startWriter_length]

/-! ## The sampling thread -/

/-- Every measured sample is in the batch of a started writer or in the buffer. -/
structure BufferInv (s : PowerState) (samples : List Sample) : Prop where
  buffer : s.myArray = flatten samples
  measured : s.measured = (List.range s.writers.length).flatMap s.batch ++ samples
  finished : s.phase = .finished → samples = []

theorem bufferInv_init : BufferInv init [] :=
  ⟨rfl, rfl, fun _ => rfl⟩

theorem bufferInv_startWriter {s : PowerState} {samples : List Sample}
    (h : BufferInv s samples) : BufferInv s.startWriter [] := by
  refine ⟨rfl, ?_, fun _ => rfl⟩
  rw [range_flatMap_batch_startWriter, h.buffer, rows_flatten, List.append_nil]
  exact h.measured

theorem bufferInv_measure {s : PowerState} {samples : List Sample} (h : BufferInv s samples)
    (sample : Sample) : BufferInv (s.measure sample) (samples ++ [sample]) := by
  refine ⟨?_, ?_, fun hphase => by cases hphase⟩
  · show s.myArray ++ [sample.1, sample.2] = flatten (samples ++ [sample])
    rw [h.buffer]
    exact flatten_append_singleton samples sample
  · show s.measured ++ [sample] = _ ++ (samples ++ [sample])
    rw [h.measured, List.append_assoc]
    rfl

theorem bufferInv_step {s s' : PowerState} {samples : List Sample} {a : Action}
    (h : BufferInv s samples) (hstep : powerStep s a = some s') :
    ∃ samples', BufferInv s' samples' := by
  rcases powerStep_cases hstep with rfl | ⟨sample, rfl | rfl⟩ | (rfl | rfl) | ⟨i, -, -, -, rfl⟩ |
    ⟨i, -, rfl⟩ | ⟨i, -, rfl⟩
  · exact ⟨samples, h.buffer, h.measured, h.finished⟩
  · exact ⟨_, bufferInv_measure h sample⟩
  · exact ⟨[], bufferInv_startWriter (bufferInv_measure h sample)⟩
  · have hstart := bufferInv_startWriter h
    exact ⟨[], hstart.buffer, hstart.measured, fun _ => rfl⟩
  · exact ⟨samples, h.buffer, h.measured, fun hphase => by cases hphase⟩
  -- the writers touch neither the buffer nor the list of their batches
  · exact ⟨samples, h.buffer, h.measured, h.finished⟩
  · exact ⟨samples, h.buffer, h.measured, h.finished⟩
  · exact ⟨samples, h.buffer, h.measured, h.finished⟩

/-! ## The writers -/

/-- `served` are the writers that have released the lock.  The log holds the batches of all
writers that obtained the lock, except for one that has not saved its records yet. -/
structure LockInv (s : PowerState) (served : List Nat) : Prop where
  acquired : s.acquired = served ++ s.lock.toList
  nodup : s.acquired.Nodup
  started : ∀ i ∈ s.acquired, i < s.writers.length
  acquired_iff : ∀ i, i ∈ s.acquired ↔ s.status i ≠ .waiting
  finished : ∀ i ∈ served, s.status i = .finished
  holder : ∀ i, s.lock = some i → s.status i = .writing ∨ s.status i = .written
  log : s.log = (s.acquired.filter (fun i => s.status i ≠ .writing)).flatMap s.batch

theorem lockInv_init : LockInv init [] where
  acquired := rfl
  nodup := List.nodup_nil
  started := by simp [init]
  acquired_iff := by simp [init]
  finished := by simp
  holder := by simp [init]
  log := rfl

theorem lockInv_startWriter {s : PowerState} {served : List Nat} (h : LockInv s served) :
    LockInv s.startWriter served where
  acquired := h.acquired
  nodup := h.nodup
  started := by
    intro i hi
    have hlt := h.started i hi
    simp only [startWriter, List.length_append, List.length_singleton]
    omega
  acquired_iff := h.acquired_iff
  finished := h.finished
  holder := h.holder
  log := by
    refine h.log.trans (Eq.symm ?_)
    exact flatMap_batch_startWriter fun i hi => h.started i (List.mem_filter.1 hi).1

/-- A writer that is writing, or has written and not yet released, holds the lock. -/
theorem LockInv.lock_eq_some {s : PowerState} {served : List Nat} (h : LockInv s served) {i : Nat}
    (hi : s.status i = .writing ∨ s.status i = .written) : s.lock = some i := by
  have hmem : i ∈ s.acquired := by
    rw [h.acquired_iff]
    rcases hi with hi | hi <;> simp [hi]
  rw [h.acquired, List.mem_append] at hmem
  rcases hmem with hmem | hmem
  · have hfinished := h.finished i hmem
    rcases hi with hi | hi <;> simp [hi] at hfinished
  · simpa using hmem

theorem lockInv_acquire {s : PowerState} {served : List Nat} {i : Nat} (h : LockInv s served)
    (hi : i < s.writers.length) (hwaiting : s.status i = .waiting) (hlock : s.lock = none) :
    LockInv (s.acquire i) served := by
  unfold PowerState.acquire
  have hnot : i ∉ s.acquired := by
    rw [h.acquired_iff]
    simp [hwaiting]
  have hserved : s.acquired = served := by
    simpa [hlock] using h.acquired
  have hne : ∀ j ∈ s.acquired, j ≠ i := fun j hj hji => hnot (hji ▸ hj)
  -- the fields of the invariant in turn
  refine ⟨?_, ?_, ?_, ?_, ?_, ?_, ?_⟩
  · simp [hserved]
  · exact List.nodup_append.2 ⟨h.nodup, List.nodup_singleton i, by
      intro j hj k hk
      rw [List.mem_singleton.1 hk]
      exact hne j hj⟩
  · intro j hj
    rcases List.mem_append.1 hj with hj | hj
    · exact h.started j hj
    · rw [List.mem_singleton.1 hj]
      exact hi
  · intro j
    by_cases hji : j = i
    · simp [hji]
    · simp [hji, h.acquired_iff]
  · intro j hj
    have hji : j ≠ i := hne j (by rw [hserved]; exact hj)
    simpa [hji] using h.finished j hj
  · intro j hj
    cases hj
    left
    simp
  · -- the new holder has not saved anything
    have hfilter : s.acquired.filter (fun j => Function.update s.status i .writing j ≠ .writing) =
        s.acquired.filter (fun j => s.status j ≠ .writing) := by
      refine List.filter_congr fun j hj => ?_
      rw [Function.update_of_ne (hne j hj)]
    have hlast : [i].filter (fun j => Function.update s.status i .writing j ≠ .writing) = [] := by
      simp
    rw [List.filter_append, hfilter, hlast, List.append_nil]
    exact h.log

theorem lockInv_save {s : PowerState} {served : List Nat} {i : Nat} (h : LockInv s served)
    (hwriting : s.status i = .writing) :
    LockInv (s.save i) served := by
  unfold PowerState.save
  have hlock : s.lock = some i := h.lock_eq_some (Or.inl hwriting)
  have hacquired : s.acquired = served ++ [i] := by simpa [hlock] using h.acquired
  have hnot : i ∉ served := by
    intro hmem
    have hfinished := h.finished i hmem
    simp [hwriting] at hfinished
  have hne : ∀ j ∈ served, j ≠ i := fun j hj hji => hnot (hji ▸ hj)
  refine ⟨h.acquired, h.nodup, h.started, ?_, ?_, ?_, ?_⟩
  · intro j
    by_cases hji : j = i
    · simp [hji, h.acquired_iff, hwriting]
    · simp [hji, h.acquired_iff]
  · intro j hj
    simpa [hne j hj] using h.finished j hj
  · -- the holder has written now
    intro j hj
    rw [hlock] at hj
    cases hj
    right
    simp
  · -- the log gains the batch of the holder, the last one in `acquired`
    have hbefore : s.acquired.filter (fun j => s.status j ≠ .writing) = served := by
      rw [hacquired, List.filter_append, List.filter_eq_self.2]
      · simp [hwriting]
      · intro j hj
        simp [h.finished j hj]
    have hafter : s.acquired.filter (fun j => Function.update s.status i .written j ≠ .writing) =
        served ++ [i] := by
      rw [hacquired, List.filter_eq_self]
      intro j hj
      rcases List.mem_append.1 hj with hj | hj
      · simp [hne j hj, h.finished j hj]
      · simp [List.mem_singleton.1 hj]
    simp only [hafter, h.log, hbefore, List.flatMap_append, List.flatMap_singleton]
    rfl

theorem lockInv_release {s : PowerState} {served : List Nat} {i : Nat} (h : LockInv s served)
    (hwritten : s.status i = .written) :
    LockInv (s.release i) (served ++ [i]) := by
  unfold PowerState.release
  have hlock : s.lock = some i := h.lock_eq_some (Or.inr hwritten)
  have hacquired : s.acquired = served ++ [i] := by simpa [hlock] using h.acquired
  refine ⟨by simpa using hacquired, h.nodup, h.started, ?_, ?_, by simp, ?_⟩
  · intro j
    by_cases hji : j = i
    · simp [hji, h.acquired_iff, hwritten]
    · simp [hji, h.acquired_iff]
  · intro j hj
    by_cases hji : j = i
    · simp [hji]
    · have hmem : j ∈ served := by simpa [hji] using hj
      simpa [hji] using h.finished j hmem
  · have hfilter : s.acquired.filter (fun j => Function.update s.status i .finished j ≠ .writing) =
        s.acquired.filter (fun j => s.status j ≠ .writing) := by
      refine List.filter_congr fun j _ => ?_
      by_cases hji : j = i
      · simp [hji, hwritten]
      · simp [hji]
    rw [hfilter]
    exact h.log

theorem lockInv_step {s s' : PowerState} {served : List Nat} {a : Action} (h : LockInv s served)
    (hstep : powerStep s a = some s') : ∃ served', LockInv s' served' := by
  rcases powerStep_cases hstep with rfl | ⟨sample, rfl | rfl⟩ | (rfl | rfl) |
    ⟨i, hi, hwaiting, hlock, rfl⟩ | ⟨i, hwriting, rfl⟩ | ⟨i, hwritten, rfl⟩
  · exact ⟨served, { h with }⟩
  -- the sampling thread only adds writers
  · exact ⟨served, { h with }⟩
  · have hmeasure : LockInv (s.measure sample) served := { h with }
    exact ⟨served, lockInv_startWriter hmeasure⟩
  · have hstart := lockInv_startWriter h
    exact ⟨served, { hstart with }⟩
  · exact ⟨served, { h with }⟩
  · exact ⟨served, lockInv_acquire h hi hwaiting hlock⟩
  · exact ⟨served, lockInv_save h hwriting⟩
  · exact ⟨served ++ [i], lockInv_release h hwritten⟩

/-! ## Finished runs -/

section Finished

variable {acts : List Action} {s : PowerState}

theorem exists_bufferInv (hrun : exec powerStep init acts = some s) :
    ∃ samples, BufferInv s samples :=
  exec_invariant (I := fun s => ∃ samples, BufferInv s samples)
    (fun _ _ _ ⟨_, h⟩ hstep => bufferInv_step h hstep) ⟨[], bufferInv_init⟩ hrun

theorem exists_lockInv (hrun : exec powerStep init acts = some s) :
    ∃ served, LockInv s served :=
  exec_invariant (I := fun s => ∃ served, LockInv s served)
    (fun _ _ _ ⟨_, h⟩ hstep => lockInv_step h hstep) ⟨[], lockInv_init⟩ hrun

theorem measured_eq_of_done (hrun : exec powerStep init acts = some s) (hdone : s.Done) :
    s.measured = (List.range s.writers.length).flatMap s.batch := by
  rcases exists_bufferInv hrun with ⟨samples, h⟩
  -- the last writer has taken the rest of the buffer
  have hmeasured := h.measured
  rwa [h.finished hdone.1, List.append_nil] at hmeasured

/-- Every started writer obtained the lock exactly once. -/
theorem acquired_perm_of_done (hrun : exec powerStep init acts = some s) (hdone : s.Done) :
    s.acquired.Perm (List.range s.writers.length) := by
  rcases exists_lockInv hrun with ⟨served, h⟩
  refine (List.perm_ext_iff_of_nodup h.nodup List.nodup_range).2 fun i => ?_
  rw [List.mem_range]
  constructor
  · exact h.started i
  · intro hi
    rw [h.acquired_iff, hdone.2 i hi]
    decide

theorem log_eq_of_done (hrun : exec powerStep init acts = some s) (hdone : s.Done) :
    s.log = s.acquired.flatMap s.batch := by
  rcases exists_lockInv hrun with ⟨served, h⟩
  -- nobody is writing any more
  have hfilter : s.acquired.filter (fun i => s.status i ≠ .writing) = s.acquired := by
    rw [List.filter_eq_self]
    intro i hi
    simp [hdone.2 i (h.started i hi)]
  rw [h.log, hfilter]

/-- The writers with something to write obtained the lock in the order in which they were
started. -/
def InStartOrder (s : PowerState) : Prop :=
  (s.acquired.filter (fun i => !(s.batch i).isEmpty)).Pairwise (· < ·)

instance (s : PowerState) : Decidable (InStartOrder s) := by
  unfold InStartOrder
  infer_instance

/-- No order of the writers loses or duplicates a sample.  The log is in the order of the
measurement when the writers obtain the lock in the order of their starts, and, for distinct
samples, only then. -/
theorem powerLog_eq_measured_iff (hrun : exec powerStep init acts = some s) (hdone : s.Done) :
    s.log.Perm s.measured ∧
      (InStartOrder s → s.log = s.measured) ∧
      (s.measured.Nodup → (s.log = s.measured ↔ InStartOrder s)) := by
  have hperm := acquired_perm_of_done hrun hdone
  have hlog := log_eq_of_done hrun hdone
  have hmeasured := measured_eq_of_done hrun hdone
  have hin : InStartOrder s → s.log = s.measured := by
    intro horder
    rw [hlog, hmeasured]
    exact flatMap_eq_range_of_sorted s.batch hperm horder
  refine ⟨?_, hin, fun hnodup => ⟨fun heq => ?_, hin⟩⟩
  · rw [hlog, hmeasured]
    exact hperm.flatMap_right s.batch
  · rw [hmeasured] at hnodup
    rw [hlog, hmeasured] at heq
    exact sorted_of_flatMap_eq_range s.batch hperm hnodup heq

end Finished

/-- A full batch and one more sample, with two writers that obtain the lock in the given order. -/
def twoWriters (first second : Nat) : List Action :=
  (List.range 100).flatMap (fun k => [.sample k 0 0, .check]) ++
    [.sample 100 0 0, .stop, .check, .acquire first, .save first, .release first, .acquire second,
      .save second, .release second]

theorem powerLog_eq_measured_iff_twoWriters :
    ∃ s, exec powerStep init (twoWriters 0 1) = some s ∧ s.writers.length = 2 ∧
      s.log.Perm s.measured ∧ (InStartOrder s → s.log = s.measured) ∧
      (s.measured.Nodup → (s.log = s.measured ↔ InStartOrder s)) := by
  have hgood : (exec powerStep init (twoWriters 0 1)).any
      (fun s => decide (s.Done ∧ s.writers.length = 2)) = true := by
    decide +kernel
  rcases (Option.any_eq_true _ _).1 hgood with ⟨s, hrun, hs⟩
  have hs' := of_decide_eq_true hs
  exact ⟨s, hrun, hs'.2, powerLog_eq_measured_iff hrun hs'.1⟩

/-- A later batch can come before an earlier one. -/
theorem exists_powerLog_ne_measured :
    ¬ ∀ (acts : List Action) (s : PowerState),
      exec powerStep init acts = some s → s.Done → s.log = s.measured := by
  intro h
  have hbad : (exec powerStep init (twoWriters 1 0)).any
      (fun s => decide (s.Done ∧ s.log ≠ s.measured)) = true := by
    decide +kernel
  rcases (Option.any_eq_true _ _).1 hbad with ⟨s, hrun, hs⟩
  have hs' := of_decide_eq_true hs
  exact hs'.2 (h (twoWriters 1 0) s hrun hs'.1)

end Accounting
end ResourceAccounting
