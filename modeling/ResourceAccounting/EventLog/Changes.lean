import ResourceAccounting.EventLog.PrintDevs
import ResourceAccounting.Schedules.Exec

/-!
# Changes — does eventRead print a row for every change, and for nothing else?

The one static variable of `print_devs` holds the count that was printed last, of whatever device
and entry, and its first word alone is compared.  So a row of another entry in between makes a count
that has not changed look new, and hides one that has changed to the other entry's value:

- `allLooks` — what the main loop looks at, poll by poll and device by device;
- `PrintsChange` — a row is printed for a look exactly if its total differs from the printed one;
- `Tells` — the looks whose first word, beside that of the look before, tells a changed total from an
  unchanged one;
- `printsChanges_iff` — the runs in which eventRead prints the changes are those whose looks tell.
-/

namespace ResourceAccounting
namespace EventLog

open Schedules

variable {w : Nat}

/-! ## The demand -/

/-- The device and the entry. -/
def Look.source (look : Look w) : UInt8 × Nat :=
  (look.minor, look.entry)

/-- The looks of the main loop. -/
def allLooks (minors : List UInt8) (kernels : List (UInt8 → UserEventLog w)) : List (Look w) :=
  kernels.flatMap fun kernel =>
    (devices minors).flatMap fun minor => looks minor (kernel minor)

/-- The rows of a source. -/
def Printer.rowsOf (p : Printer w) (source : UInt8 × Nat) : List (Look w) :=
  p.rows.filter (fun row => row.source = source)

/-- The total in the last row of a source, or zero. -/
def Printer.lastTotal (p : Printer w) (source : UInt8 × Nat) : Nat :=
  ((p.rowsOf source).getLast?.map (fun row => row.counts.total)).getD 0

/-- A row is printed for the look if and only if its total has changed. -/
def PrintsChange (p : Printer w) (look : Look w) : Prop :=
  (p.see look).rows = p.rows ++ [look] ↔ look.counts.total ≠ p.lastTotal look.source

instance (p : Printer w) (look : Look w) : Decidable (PrintsChange p look) :=
  inferInstanceAs (Decidable (_ ↔ _))

/-- In every look of the run, on the rows that have been printed before. -/
def PrintsChanges (minors : List UInt8) (kernels : List (UInt8 → UserEventLog w)) : Prop :=
  Respects (fun p look => some (p.see look)) PrintsChange Printer.init (allLooks minors kernels)

instance (minors : List UInt8) (kernels : List (UInt8 → UserEventLog w)) :
    Decidable (PrintsChanges minors kernels) :=
  inferInstanceAs (Decidable (Respects _ _ _ _))

/-! ## The condition -/

/-- The count of the look before, of whatever source, or zero. -/
def lastCount (before : List (Look w)) : BitVec w :=
  (before.getLast?.map (fun look => look.counts.count)).getD 0

/-- The total at the last look at a source, or zero. -/
def seenTotal (before : List (Look w)) (source : UInt8 × Nat) : Nat :=
  ((before.filter (fun look => look.source = source)).getLast?.map (fun look => look.counts.total)).getD 0

/-- The first word differs from that of the look before exactly if the total differs from the one that
was seen of the same source. -/
def Tells (before : List (Look w)) (look : Look w) : Prop :=
  look.counts.count ≠ lastCount before ↔ look.counts.total ≠ seenTotal before look.source

instance (before : List (Look w)) (look : Look w) : Decidable (Tells before look) :=
  inferInstanceAs (Decidable (_ ↔ _))

/-! ## The run of the printer -/

/-- The main loop sees its looks in order. -/
theorem eventRead_eq (minors : List UInt8) (kernels : List (UInt8 → UserEventLog w)) :
    eventRead minors kernels = (allLooks minors kernels).foldl Printer.see Printer.init := by
  simp only [eventRead, allLooks, List.foldl_flatMap]
  rfl

/-- The static variable holds the first word of the look before, whether it has been printed or not. -/
theorem prev_see (p : Printer w) (look : Look w) : (p.see look).prev.count = look.counts.count := by
  by_cases hcount : look.counts.count ≠ p.prev.count
  · rw [Printer.see, if_pos hcount]
  · rw [Printer.see, if_neg hcount]
    exact (not_not.1 hcount).symm

theorem rows_see_iff (p : Printer w) (look : Look w) :
    (p.see look).rows = p.rows ++ [look] ↔ look.counts.count ≠ p.prev.count := by
  by_cases hcount : look.counts.count ≠ p.prev.count
  · simp [Printer.see, hcount]
  · simp [Printer.see, hcount]

theorem lastCount_concat (before : List (Look w)) (look : Look w) :
    lastCount (before ++ [look]) = look.counts.count := by
  simp [lastCount]

theorem seenTotal_concat (before : List (Look w)) (look : Look w) (source : UInt8 × Nat) :
    seenTotal (before ++ [look]) source =
      if look.source = source then look.counts.total else seenTotal before source := by
  by_cases hsource : look.source = source
  · simp [seenTotal, hsource]
  · simp [seenTotal, hsource]

theorem lastTotal_concat {p p' : Printer w} {look : Look w} (hrows : p'.rows = p.rows ++ [look])
    (source : UInt8 × Nat) :
    p'.lastTotal source = if look.source = source then look.counts.total else p.lastTotal source := by
  rw [Printer.lastTotal, Printer.rowsOf, hrows]
  exact seenTotal_concat p.rows look source

/-- What the printer knows of the looks before: the count of the last one, and of each source the last
total, as it is in the rows. -/
structure Printer.Knows (p : Printer w) (before : List (Look w)) : Prop where
  prev : p.prev.count = lastCount before
  totals : ∀ source, p.lastTotal source = seenTotal before source

theorem knows_init : (Printer.init : Printer w).Knows [] where
  prev := rfl
  totals := fun _ => rfl

theorem printsChange_iff {p : Printer w} {before : List (Look w)} (h : p.Knows before) (look : Look w) :
    PrintsChange p look ↔ Tells before look := by
  rw [PrintsChange, rows_see_iff, Tells, h.prev, h.totals]

/-- As long as the changes are printed, the rows hold the last totals. -/
theorem knows_see {p : Printer w} {before : List (Look w)} (h : p.Knows before) {look : Look w}
    (hprints : PrintsChange p look) : (p.see look).Knows (before ++ [look]) where
  prev := by rw [prev_see, lastCount_concat]
  totals := by
    intro source
    rw [seenTotal_concat]
    by_cases hcount : look.counts.count ≠ p.prev.count
    · rw [lastTotal_concat ((rows_see_iff p look).2 hcount), h.totals]
    · have hsame : p.see look = p := by
        rw [Printer.see, if_neg hcount]
      -- no row, so the total is the one in the last row
      have htotal : look.counts.total = p.lastTotal look.source := by
        by_contra hne
        exact hcount ((rows_see_iff p look).1 (hprints.2 hne))
      rw [hsame, h.totals]
      split
      · next hsource => rw [htotal, h.totals, hsource]
      · rfl

theorem respects_printsChange_iff (ls : List (Look w)) {p : Printer w} {before : List (Look w)}
    (h : p.Knows before) :
    Respects (fun p look => some (p.see look)) PrintsChange p ls ↔
      ∀ front look rest, ls = front ++ look :: rest → Tells (before ++ front) look := by
  induction ls generalizing p before with
  | nil =>
      refine iff_of_true trivial fun front look rest hsplit => ?_
      exact absurd hsplit.symm (List.append_ne_nil_of_right_ne_nil _ (List.cons_ne_nil _ _))
  | cons look ls ih =>
      rw [respects_cons rfl, printsChange_iff h]
      constructor
      · rintro ⟨htells, hrest⟩ front look' rest hsplit
        rcases List.cons_eq_append_iff.1 hsplit with ⟨rfl, heq⟩ | ⟨front', rfl, hls⟩
        · cases heq
          rwa [List.append_nil]
        · have hknows := knows_see h ((printsChange_iff h look).2 htells)
          rw [List.append_cons]
          exact (ih hknows).1 hrest front' look' rest hls
      · intro hall
        have htells : Tells before look := by
          have hfirst := hall [] look ls rfl
          rwa [List.append_nil] at hfirst
        refine ⟨htells, (ih (knows_see h ((printsChange_iff h look).2 htells))).2 ?_⟩
        rintro front look' rest rfl
        rw [List.append_assoc]
        exact hall (look :: front) look' rest rfl

/-- eventRead prints a row for every change and for nothing else in exactly the runs in which, at every
look, the first word differs from that of the look before if and only if the total of the source has
changed. -/
theorem printsChanges_iff (minors : List UInt8) (kernels : List (UInt8 → UserEventLog w)) :
    PrintsChanges minors kernels ↔
      ∀ before look rest, allLooks minors kernels = before ++ look :: rest → Tells before look :=
  respects_printsChange_iff _ knows_init

/-- Two processes that have read a device, at two polls between which nothing happens: the second
poll prints both rows again. -/
theorem exists_not_printsChanges :
    ¬ ∀ (w : Nat) (minors : List UInt8) (kernels : List (UInt8 → UserEventLog w)),
      PrintsChanges minors kernels := by
  intro h
  have hrun := h 64 [3, END_MARK] [fun _ => twoReaders, fun _ => twoReaders]
  revert hrun
  decide +kernel

/-! ## A single source -/

/-- The count has not outgrown its first word. -/
def SafeCount.Small (c : SafeCount w) : Prop :=
  c.overflow_count = 0 ∧ c.overflow_overflow_count = 0

theorem SafeCount.total_eq_total_iff {c c' : SafeCount w} (h : c.Small) (h' : c'.Small) :
    c.total = c'.total ↔ c.count = c'.count := by
  rw [SafeCount.total, SafeCount.total, h.1, h.2, h'.1, h'.2]
  simp [BitVec.toNat_inj]

theorem SafeCount.total_eq_zero_iff {c : SafeCount w} (h : c.Small) :
    c.total = 0 ↔ c.count = 0 := by
  have hzero : (SafeCount.ofCount (0 : BitVec w)).total = 0 := by
    simp [SafeCount.total, SafeCount.ofCount]
  rw [← hzero, SafeCount.total_eq_total_iff h ⟨rfl, rfl⟩]
  rfl

/-- The looks are all of one source, with small counts. -/
theorem tells_of_oneSource {before : List (Look w)} {look : Look w}
    (hbefore : ∀ l ∈ before, l.source = look.source ∧ l.counts.Small) (hsmall : look.counts.Small) :
    Tells before look := by
  have hfilter : before.filter (fun l => l.source = look.source) = before :=
    List.filter_eq_self.2 fun l hl => decide_eq_true (hbefore l hl).1
  rw [Tells, lastCount, seenTotal, hfilter]
  cases hlast : before.getLast? with
  | none => exact not_congr (SafeCount.total_eq_zero_iff hsmall).symm
  | some last =>
      have hlastSmall := (hbefore last (List.mem_of_getLast? hlast)).2
      exact not_congr (SafeCount.total_eq_total_iff hsmall hlastSmall).symm

/-- With one device that one process reads, and a count that does not overflow, all is well. -/
theorem printsChanges_of_oneSource {minors : List UInt8} {kernels : List (UInt8 → UserEventLog w)}
    {source : UInt8 × Nat} (hlooks : ∀ look ∈ allLooks minors kernels,
      look.source = source ∧ look.counts.Small) : PrintsChanges minors kernels := by
  refine (respects_printsChange_iff _ knows_init).2 fun before look rest hsplit => ?_
  rw [hsplit] at hlooks
  rcases hlooks look (List.mem_append_right _ List.mem_cons_self) with ⟨hsource, hsmall⟩
  refine tells_of_oneSource (fun l hl => ?_) hsmall
  rcases hlooks l (List.mem_append_left _ hl) with ⟨hl, hlsmall⟩
  exact ⟨hl.trans hsource.symm, hlsmall⟩

end EventLog
end ResourceAccounting
