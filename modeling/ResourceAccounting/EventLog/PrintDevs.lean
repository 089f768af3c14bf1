import Mathlib.Data.Fin.Basic
import ResourceAccounting.C.Columns
import ResourceAccounting.EventLog.Kernel

/-!
# PrintDevs — the rows of eventRead

`print_devs` of eventRead.c asks the kernel for the log of a device and prints a row for each entry
whose count is not the one that it has printed last:

- `Look` — what one turn of its loop looks at, `Look.text` — the row that it may print;
- `Printer` — the static variable `prev` and the rows of `my_log`;
- `printDevs`, `eventRead` — the loop over the entries, and the main loop over polls and devices;
- `readBack_iff` — the rows from which events.py gets the time and the count.
-/

namespace ResourceAccounting
namespace EventLog

open Python C

variable {w : Nat}

/-! ## A row -/

/-- `"%ld.%06ld"` -/
def TimeVal.text (tv : TimeVal w) : Text :=
  decimal tv.tv_sec.toInt ++ '.' :: zeroFilled 6 tv.tv_usec.toInt

/-- `"%ld"` of an `unsigned long`. -/
def countText (count : BitVec w) : Text :=
  decimal count.toInt

/-- A turn of the loop in `print_devs`: an entry of the log of a device. -/
structure Look (w : Nat) where
  minor : UInt8
  log : UserEventLog w
  entry : Fin log.ncount
  deriving DecidableEq, Repr

namespace Look

/-- `log.event_consumed[i].counts` -/
def counts (look : Look w) : SafeCount w :=
  (look.log.consumed look.entry).counts

/-- `pname` -/
def pname (look : Look w) : Text :=
  if look.entry.val = 0 then look.log.name else []

/-- `time1` -/
def time1 (look : Look w) : Text :=
  snprintf 20 look.log.dev_opened_time.text

/-- `time2` -/
def time2 (look : Look w) : Text :=
  snprintf 20 look.log.avg.text

/-- `"%hd"` -/
def pidText (look : Look w) : Text :=
  decimal ((look.log.consumed look.entry).pid.setWidth 16).toInt

/-- The cells of the row after the name. -/
def cells (look : Look w) : List Text :=
  [look.time1, countText look.log.event_generated.count, countText look.log.event_dropped.count,
    look.pidText, countText look.counts.count, look.time2]

/-- `"%-20s%-20s%-20ld%-20ld%-20hd%-20ld%-20s\n"` -/
def text (look : Look w) : Text :=
  row 20 (look.pname :: look.cells)

end Look

/-! ## The loops -/

/-- The static `prev`, and the looks whose rows have been printed to `my_log`. -/
structure Printer (w : Nat) where
  prev : SafeCount w
  rows : List (Look w)

def Printer.init : Printer w where
  prev := SafeCount.ofCount 0
  rows := []

/-- The file `my_log` after the header. -/
def Printer.myLog (p : Printer w) : Text :=
  p.rows.flatMap Look.text

/-- The body of the loop in `print_devs`. -/
def Printer.see (p : Printer w) (look : Look w) : Printer w :=
  if look.counts.count ≠ p.prev.count then
    { prev := look.counts, rows := p.rows ++ [look] }
  else
    p

/-- The looks of one call of `print_devs`. -/
def looks (minor : UInt8) (log : UserEventLog w) : List (Look w) :=
  (List.finRange log.ncount).map (fun i => ⟨minor, log, i⟩)

/-- `print_devs`; `log` is what the kernel answers. -/
def printDevs (p : Printer w) (minor : UInt8) (log : UserEventLog w) : Printer w :=
  (looks minor log).foldl Printer.see p

/-- One turn of `while(1)` in `main`; `kernel` gives the log of each device. -/
def poll (minors : List UInt8) (p : Printer w) (kernel : UInt8 → UserEventLog w) : Printer w :=
  (devices minors).foldl (fun p minor => printDevs p minor (kernel minor)) p

/-- The main loop, over the answers of the kernel at each poll. -/
def eventRead (minors : List UInt8) (kernels : List (UInt8 → UserEventLog w)) : Printer w :=
  kernels.foldl (poll minors) Printer.init

/-- The rows that one call of `print_devs` prints. -/
def printed (p : Printer w) (minor : UInt8) (log : UserEventLog w) : List (Look w) :=
  (printDevs p minor log).rows.drop p.rows.length

theorem exists_rows_foldl_see (ls : List (Look w)) (p : Printer w) :
    ∃ rows, (ls.foldl Printer.see p).rows = p.rows ++ rows ∧ rows.Sublist ls := by
  induction ls generalizing p with
  | nil => exact ⟨[], by simp, List.Sublist.refl _⟩
  | cons look ls ih =>
      rcases ih (p.see look) with ⟨rows, hrows, hsub⟩
      rw [List.foldl_cons, hrows]
      by_cases hcount : look.counts.count ≠ p.prev.count
      · exact ⟨look :: rows, by simp [Printer.see, hcount], hsub.cons_cons look⟩
      · exact ⟨rows, by simp [Printer.see, hcount], hsub.cons look⟩

/-- A printed row is about an entry of the log. -/
theorem mem_printed {p : Printer w} {minor : UInt8} {log : UserEventLog w} {look : Look w}
    (h : look ∈ printed p minor log) : ∃ i : Fin log.ncount, look = ⟨minor, log, i⟩ := by
  rcases exists_rows_foldl_see (looks minor log) p with ⟨rows, hrows, hsub⟩
  rw [printed, printDevs, hrows, List.drop_left] at h
  rcases List.mem_map.1 (hsub.subset h) with ⟨i, -, rfl⟩
  exact ⟨i, rfl⟩

/-! ## Reading a row back -/

/-- `wholeline.strip().split()` of events.py. -/
def columns (look : Look w) : List Text :=
  split (strip look.text)

/-- Column 1 is the time at which the device was opened, and column 5 the consumed count. -/
def ReadBack (look : Look w) : Prop :=
  (columns look)[1]? = some look.log.dev_opened_time.text ∧
    (columns look)[5]? = some (Nat.toDigits 10 look.counts.count.toNat)

instance (look : Look w) : Decidable (ReadBack look) :=
  inferInstanceAs (Decidable (_ ∧ _))

/-- The row keeps its columns and its count: the entry is the first one, its time and its count fit
into their columns, and so do the counts of the device, with the top bit of the count clear.  If one
of the two counts of the device fills its column, the latency stands in the place of the count and
can be no other than it. -/
def KeepsColumns (look : Look w) : Prop :=
  look.entry.val = 0 ∧ look.log.dev_opened_time.text.length < 20 ∧
  (countText look.counts.count).length < 20 ∧
  ((countText look.log.event_generated.count).length < 20 ∧
      (countText look.log.event_dropped.count).length < 20 ∧ look.counts.count.msb = false ∨
    ((countText look.log.event_generated.count).length < 20 ↔
      ¬ (countText look.log.event_dropped.count).length < 20) ∧
      look.log.avg.text.take 19 = Nat.toDigits 10 look.counts.count.toNat)

instance (look : Look w) : Decidable (KeepsColumns look) :=
  inferInstanceAs (Decidable (_ ∧ _ ∧ _ ∧ _))

/-! ## The words of a row -/

theorem isWord_timeText (tv : TimeVal w) : IsWord tv.text :=
  isWord_append (isWord_decimal _) (isWord_cons (by decide) (isWord_zeroFilled _ _))

theorem dot_mem_timeText (tv : TimeVal w) : '.' ∈ tv.text := by
  simp [TimeVal.text]

theorem isWord_snprintf {s : Text} (hs : IsWord s) (size : Nat) : IsWord (snprintf size s) :=
  hs.sublist (List.take_sublist _ _)

theorem snprintf_ne_nil {s : Text} (hs : s ≠ []) : snprintf 20 s ≠ [] := by
  rcases List.exists_cons_of_ne_nil hs with ⟨c, s, rfl⟩
  simp [snprintf]

theorem timeText_ne_nil (tv : TimeVal w) : tv.text ≠ [] :=
  List.ne_nil_of_mem (dot_mem_timeText tv)

theorem dot_not_mem_decimal (n : Int) : '.' ∉ decimal n :=
  not_mem_decimal n (by decide) (by decide)

theorem length_pidText_lt (look : Look w) : look.pidText.length < 20 := by
  have hlow := ((look.log.consumed look.entry).pid.setWidth 16).le_toInt
  have hhigh := ((look.log.consumed look.entry).pid.setWidth 16).toInt_lt
  have hlength : look.pidText.length ≤ 6 := length_decimal_le (k := 5) (by decide) (by omega)
  omega

theorem isWord_cells (look : Look w) : ∀ s ∈ look.cells, IsWord s ∧ s ≠ [] := by
  intro s hs
  simp only [Look.cells, List.mem_cons, List.not_mem_nil, or_false] at hs
  rcases hs with rfl | rfl | rfl | rfl | rfl | rfl
  · exact ⟨isWord_snprintf (isWord_timeText _) _, snprintf_ne_nil (timeText_ne_nil _)⟩
  · exact ⟨isWord_decimal _, decimal_ne_nil _⟩
  · exact ⟨isWord_decimal _, decimal_ne_nil _⟩
  · exact ⟨isWord_decimal _, decimal_ne_nil _⟩
  · exact ⟨isWord_decimal _, decimal_ne_nil _⟩
  · exact ⟨isWord_snprintf (isWord_timeText _) _, snprintf_ne_nil (timeText_ne_nil _)⟩

/-- The first entry's row starts with the name. -/
theorem columns_of_first {look : Look w} (hfirst : look.entry.val = 0)
    (hword : IsWord look.log.name) (hne : look.log.name ≠ []) (hshort : look.log.name.length < 20) :
    columns look = look.log.name :: glue 20 look.cells := by
  have hcells : ∀ s ∈ look.log.name :: look.cells, IsWord s ∧ s ≠ [] := by
    intro s hs
    rcases List.mem_cons.1 hs with rfl | hs
    · exact ⟨hword, hne⟩
    · exact isWord_cells look s hs
  calc
    columns look = split (row 20 (look.pname :: look.cells)) := split_strip _
    _ = split (row 20 (look.log.name :: look.cells)) := by rw [Look.pname, if_pos hfirst]
    _ = glue 20 (look.log.name :: look.cells) := split_row 20 hcells
    _ = look.log.name :: glue 20 look.cells := glue_cons_of_lt hshort _

/-- The rows of the other entries start with blanks, which count for nothing. -/
theorem columns_of_not_first {look : Look w} (hfirst : look.entry.val ≠ 0) :
    columns look = glue 20 look.cells := by
  calc
    columns look = split (row 20 (look.pname :: look.cells)) := split_strip _
    _ = split (row 20 ([] :: look.cells)) := by rw [Look.pname, if_neg hfirst]
    _ = split (row 20 look.cells) := split_row_nil_cons 20 _
    _ = glue 20 look.cells := split_row 20 (isWord_cells look)

/-- Between the time and the consumed count stand three words, or one less for each count of the
device that fills its column. -/
theorem exists_front (look : Look w) : ∃ front : List Text,
    glue 20 look.cells =
      look.time1 :: (front ++ glue 20 [countText look.counts.count, look.time2]) ∧
    front.length = 1 + (if (countText look.log.event_generated.count).length < 20 then 1 else 0) +
      (if (countText look.log.event_dropped.count).length < 20 then 1 else 0) ∧
    ∀ s ∈ front, '.' ∉ s := by
  have htime : look.time1.length < 20 := length_snprintf_lt (by decide) _
  have hgen : '.' ∉ countText look.log.event_generated.count := dot_not_mem_decimal _
  have hdrop : '.' ∉ countText look.log.event_dropped.count := dot_not_mem_decimal _
  have hpid : '.' ∉ look.pidText := dot_not_mem_decimal _
  rw [Look.cells, glue_cons_of_lt htime]
  have hlast : glue 20 [look.pidText, countText look.counts.count, look.time2] =
      look.pidText :: glue 20 [countText look.counts.count, look.time2] :=
    glue_cons_of_lt (length_pidText_lt look) _
  by_cases hd : (countText look.log.event_dropped.count).length < 20
  · have hdropped := glue_cons_of_lt hd
      [look.pidText, countText look.counts.count, look.time2]
    rw [hlast] at hdropped
    by_cases hg : (countText look.log.event_generated.count).length < 20
    · refine ⟨[_, _, _], by rw [glue_cons_of_lt hg, hdropped]; rfl, by simp [hg, hd], ?_⟩
      simp [hgen, hdrop, hpid]
    · refine ⟨[_, _], by rw [glue_cons_of_le (not_lt.1 hg) hdropped]; rfl, by simp [hg, hd], ?_⟩
      simp [hgen, hdrop, hpid]
  · have hdropped := glue_cons_of_le (not_lt.1 hd) hlast
    by_cases hg : (countText look.log.event_generated.count).length < 20
    · refine ⟨[_, _], by rw [glue_cons_of_lt hg, hdropped]; rfl, by simp [hg, hd], ?_⟩
      simp [hgen, hdrop, hpid]
    · refine ⟨[_], by rw [glue_cons_of_le (not_lt.1 hg) hdropped]; rfl, by simp [hg, hd], ?_⟩
      simp [hgen, hdrop, hpid]

/-! ## The count -/

/-- A count is printed as a signed number. -/
theorem countText_eq_iff (count : BitVec w) :
    countText count = Nat.toDigits 10 count.toNat ↔ count.msb = false := by
  rw [← decimal_natCast, countText]
  constructor
  · intro h
    have heq : count.toInt = count.toNat := decimal_injective h
    rw [BitVec.msb_eq_toInt, heq]
    simp
  · intro h
    rw [BitVec.toInt_eq_toNat_of_msb h]

theorem countText_append_ne {count : BitVec w} {t : Text} (ht : t ≠ []) :
    countText count ++ t ≠ Nat.toDigits 10 count.toNat := by
  intro h
  cases hmsb : count.msb with
  | false =>
      rw [← (countText_eq_iff count).2 hmsb] at h
      exact ht (List.append_right_eq_self.1 h)
  | true =>
      -- no count has a sign
      have hneg : count.toInt < 0 := by
        rw [BitVec.msb_eq_toInt] at hmsb
        simpa using hmsb
      have hminus : '-' ∈ countText count ++ t :=
        List.mem_append_left t (minus_mem_decimal.2 hneg)
      rw [h] at hminus
      exact minus_not_mem_toDigits _ hminus

/-- What stands in column 5 of the first entry's row. -/
theorem column_five_iff {look : Look w} {front : List Text}
    (hlength : front.length =
      1 + (if (countText look.log.event_generated.count).length < 20 then 1 else 0) +
        (if (countText look.log.event_dropped.count).length < 20 then 1 else 0)) :
    (front ++ glue 20 [countText look.counts.count, look.time2])[3]? =
        some (Nat.toDigits 10 look.counts.count.toNat) ↔
      (countText look.counts.count).length < 20 ∧
      ((countText look.log.event_generated.count).length < 20 ∧
          (countText look.log.event_dropped.count).length < 20 ∧ look.counts.count.msb = false ∨
        ((countText look.log.event_generated.count).length < 20 ↔
          ¬ (countText look.log.event_dropped.count).length < 20) ∧
          look.log.avg.text.take 19 = Nat.toDigits 10 look.counts.count.toNat) := by
  have htime : look.log.avg.text.take 19 = look.time2 := rfl
  have hnot : countText look.counts.count ++ look.time2 ≠
      Nat.toDigits 10 look.counts.count.toNat :=
    countText_append_ne (snprintf_ne_nil (timeText_ne_nil _))
  have hwords : glue 20 [countText look.counts.count, look.time2] =
      if (countText look.counts.count).length < 20 then [countText look.counts.count, look.time2]
      else [countText look.counts.count ++ look.time2] := by
    by_cases hk : (countText look.counts.count).length < 20
    · rw [if_pos hk, glue_cons_of_lt hk, glue_singleton]
    · rw [if_neg hk, glue_cons_of_le (not_lt.1 hk) (glue_singleton _ _)]
  have hfront : front.length ≤ 3 := by
    split at hlength <;> split at hlength <;> omega
  rw [htime, hwords, List.getElem?_append_right hfront, ← countText_eq_iff, hlength]
  by_cases hg : (countText look.log.event_generated.count).length < 20 <;>
    by_cases hd : (countText look.log.event_dropped.count).length < 20 <;>
    by_cases hk : (countText look.counts.count).length < 20 <;>
    simp [hg, hd, hk, hnot]

theorem readBack_iff_keepsColumns {look : Look w} (hword : IsWord look.log.name)
    (hne : look.log.name ≠ []) (hshort : look.log.name.length < 20) :
    ReadBack look ↔ KeepsColumns look := by
  rcases exists_front look with ⟨front, hcells, hlength, hdot⟩
  by_cases hfirst : look.entry.val = 0
  · have htime : look.time1 = look.log.dev_opened_time.text ↔
        look.log.dev_opened_time.text.length < 20 := snprintf_eq_self_iff (by decide)
    rw [ReadBack, columns_of_first hfirst hword hne hshort, hcells, KeepsColumns]
    simp only [List.getElem?_cons_succ, List.getElem?_cons_zero, Option.some_inj, htime,
      column_five_iff hlength, hfirst, true_and]
  · -- column 1 is the generated count, which has no dot
    have hpos : 0 < front.length := by
      rw [hlength]
      omega
    have hcolumn : (columns look)[1]? = some front[0] := by
      rw [columns_of_not_first hfirst, hcells, List.getElem?_cons_succ,
        List.getElem?_append_left hpos, List.getElem?_eq_getElem hpos]
    constructor
    · rintro ⟨hone, -⟩
      rw [hcolumn, Option.some_inj] at hone
      exact absurd (hone ▸ dot_mem_timeText _) (hdot _ (List.getElem_mem hpos))
    · rintro ⟨hzero, -⟩
      exact absurd hzero hfirst

/-- Whatever has been printed before: events.py reads the time and the count back from a row of a
call of `print_devs` if and only if the row keeps its columns and its count. -/
theorem readBack_iff {log : UserEventLog w} (hword : IsWord log.name) (hne : log.name ≠ [])
    (hshort : log.name.length < 20) (p : Printer w) (minor : UInt8) {look : Look w}
    (hrow : look ∈ printed p minor log) : ReadBack look ↔ KeepsColumns look := by
  rcases mem_printed hrow with ⟨i, rfl⟩
  exact readBack_iff_keepsColumns hword hne hshort

/-- The row of the first process. -/
theorem readBack_iff_first : ReadBack ⟨3, twoReaders, ⟨0, by decide⟩⟩ :=
  (@readBack_iff 64 twoReaders (by decide) (by decide) (by decide) Printer.init 3 ⟨3, twoReaders, _⟩
    (by decide +kernel)).2 (by decide +kernel)

/-- The row of the second process has no name, so that column 1 is the generated count. -/
theorem exists_not_readBack :
    ¬ ∀ (w : Nat) (p : Printer w) (minor : UInt8) (log : UserEventLog w) (look : Look w),
      IsWord log.name → log.name ≠ [] → log.name.length < 20 → look ∈ printed p minor log →
        ReadBack look := by
  intro h
  have hsecond := h 64 Printer.init 3 twoReaders ⟨3, twoReaders, ⟨1, by decide⟩⟩ (by decide)
    (by decide) (by decide) (by decide +kernel)
  revert hsecond
  decide +kernel

end EventLog
end ResourceAccounting
