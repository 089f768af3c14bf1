import ResourceAccounting.Cgps.Endings
import ResourceAccounting.Cgps.Socket

/-!
# Responses — the records of cgps and the pieces of the stream

The main loop writes a record whenever `gps_read` returns, so also when it returns 0 because the
buffer holds an incomplete line.  The records are one for each report exactly when every piece that
`recv` delivers completes a line.

- `Client.turn`, `Client.run` — the main loop without its keys;
- `responses` — one record for each report, by the last TPV report up to it;
- `Client.owed`, `turn_owed` — the records that the loop writes: one for each line, and besides one
  for each piece without a line end.
-/

namespace ResourceAccounting
namespace Cgps

open Python Streams

/-! ## The main loop -/

/-- The text that `gps_unpack` sees. -/
def cString (s : Text) : Text :=
  s.takeWhile (fun c => decide (c ≠ '\x00'))

structure Client where
  priv : PrivData
  /-- `gpsdata.fix.mode` -/
  mode : Int
  sock : List Recv
  /-- The marks of the records that follow the 0 record. -/
  log : List Mark

/-- After `gps_open`: the buffer is as `malloc` has left it, the mode is `MODE_NOT_SEEN`. -/
def Client.init (garbage : Nat → Char) (sock : List Recv) : Client :=
  { priv := { buffer := garbage, waiting := 0 }, mode := 0, sock := sock, log := [] }

inductive Turn
  | fault
  /-- `gps_waiting` gives up, or `recv` waits, and nothing will come in. -/
  | idle
  | died
  | next (c : Client)

section Loop

-- What `gps_unpack` does with the mode: the mode of a TPV report, none for every other report.
variable (tpvMode : Text → Option Int)

/-- One turn of the main loop. -/
def Client.turn (c : Client) : Turn :=
  if c.priv.waiting = 0 ∧ c.sock = [] then
    .idle
  else
    match gpsSockRead c.priv c.sock with
    | .fault => .fault
    | .blocked => .idle
    | .failed => .died
    | .incomplete p sock =>
        -- `gps_read` has returned 0, which is not -1
        .next { c with priv := p, sock := sock, log := c.log ++ [updateMark c.mode] }
    | .response line p sock =>
        let mode := (tpvMode (cString line)).getD c.mode
        .next { priv := p, mode := mode, sock := sock, log := c.log ++ [updateMark mode] }

/-- The records when nothing comes in any more, within `n` turns; none after a fault. -/
def Client.run : Nat → Client → Option (List Mark)
  | 0, _ => none
  | n + 1, c =>
      match c.turn tpvMode with
      | .fault => none
      | .idle => some c.log
      | .died => some c.log
      | .next c => Client.run n c

/-- The mode of the last TPV report. -/
def lastMode (reports : List Text) : Int :=
  ((reports.filterMap (fun r => tpvMode (cString r))).getLast?).getD 0

/-- One record for each report: a fix if the last TPV report up to it has mode 2D or 3D. -/
def responses (reports : List Text) : List Mark :=
  (List.range reports.length).map (fun i => updateMark (lastMode tpvMode (reports.take (i + 1))))

/-- The log has exactly one record for each report. -/
def Responds (garbage : Nat → Char) (chunks reports : List Text) : Prop :=
  ∃ n, (Client.init garbage (chunks.map .data)).run tpvMode n = some (responses tpvMode reports)

variable {tpvMode}

theorem lastMode_concat (reports : List Text) (r : Text) :
    lastMode tpvMode (reports ++ [r]) = (tpvMode (cString r)).getD (lastMode tpvMode reports) := by
  cases h : tpvMode (cString r) with
  | none => simp [lastMode, h]
  | some mode => simp [lastMode, h]

theorem length_responses (reports : List Text) :
    (responses tpvMode reports).length = reports.length := by
  simp [responses]

theorem responses_concat (reports : List Text) (r : Text) :
    responses tpvMode (reports ++ [r]) =
      responses tpvMode reports ++ [updateMark (lastMode tpvMode (reports ++ [r]))] := by
  have hfront : (List.range reports.length).map
      (fun i => updateMark (lastMode tpvMode ((reports ++ [r]).take (i + 1)))) =
        responses tpvMode reports := by
    refine List.map_congr_left fun i hi => ?_
    rw [List.take_append_of_le_length (List.mem_range.1 hi)]
  have hlast : (reports ++ [r]).take (reports.length + 1) = reports ++ [r] :=
    List.take_of_length_le (by simp)
  rw [responses, List.length_append, List.length_singleton, List.range_succ, List.map_append, hfront]
  simp [hlast]

/-! ## One turn -/

/-- What is still to come are these pieces, and `recv` gives them as they are. -/
structure Client.Awaits (c : Client) (chunks : List Text) : Prop where
  clean : c.priv.Clean
  sock : c.sock = chunks.map .data
  ne_nil : ∀ chunk ∈ chunks, chunk ≠ []
  fits : Fits '\n' bufferSize c.priv.pending chunks

/-- The client after a line has been handed to `gps_unpack`. -/
def Client.responded (tpvMode : Text → Option Int) (c : Client) (line : Text) (p : PrivData)
    (sock : List Recv) : Client :=
  { priv := p
    mode := (tpvMode (cString line)).getD c.mode
    sock := sock
    log := c.log ++ [updateMark ((tpvMode (cString line)).getD c.mode)] }

/-- The turn takes the line. -/
def Client.Takes (c : Client) (line : Text) (p : PrivData) (sock : List Recv) : Prop :=
  ¬ (c.priv.waiting = 0 ∧ c.sock = []) ∧ gpsSockRead c.priv c.sock = .response line p sock

theorem Client.Takes.turn {c : Client} {line : Text} {p : PrivData} {sock : List Recv}
    (h : c.Takes line p sock) : c.turn tpvMode = .next (c.responded tpvMode line p sock) := by
  rw [Client.turn, if_neg h.1, h.2]
  rfl

/-- The next line is in the buffer, or the next piece completes it: the turn takes it. -/
theorem turn_of_line {c : Client} {chunks : List Text} (h : c.Awaits chunks)
    (heol : '\n' ∈ c.priv.pending ∨ ∃ chunk rest, chunks = chunk :: rest ∧ '\n' ∈ chunk) :
    ∃ line p chunks', '\n' ∉ line ∧ c.Takes line p (chunks'.map .data) ∧
      (c.responded tpvMode line p (chunks'.map .data)).Awaits chunks' ∧
      c.priv.pending ++ chunks.flatten = line ++ '\n' :: (p.pending ++ chunks'.flatten) ∧
      (chunks = chunks' ∨ ∃ chunk, chunks = chunk :: chunks' ∧ '\n' ∈ chunk) := by
  by_cases hbuffer : '\n' ∈ c.priv.pending
  · -- the line is in the buffer, and `recv` is not called
    rcases List.eq_append_cons_of_mem hbuffer with ⟨line, r, hsplit, hline⟩
    rcases gpsSockRead_of_line h.clean hsplit hline c.sock with ⟨p, hread, hpending, hp⟩
    have hbusy : ¬ (c.priv.waiting = 0 ∧ c.sock = []) := by
      rintro ⟨hzero, -⟩
      have hlen := congrArg List.length hsplit
      simp [hzero] at hlen
    have hfits : Fits '\n' bufferSize p.pending chunks := by
      rw [hpending]
      exact fits_of_append_cons (hsplit ▸ h.fits)
    refine ⟨line, p, chunks, hline, ⟨hbusy, ?_⟩, ⟨hp, rfl, h.ne_nil, hfits⟩, ?_, .inl rfl⟩
    · rw [hread, h.sock]
    · rw [hsplit, hpending, List.append_assoc, List.cons_append]
  · -- the next piece completes it
    rcases heol.resolve_left hbuffer with ⟨chunk, rest, rfl, hchunk⟩
    have hroom := fits_cons_of_not_mem hbuffer h.fits
    rw [PrivData.length_pending] at hroom
    rcases List.eq_append_cons_of_mem (List.mem_append_right c.priv.pending hchunk) with
      ⟨line, r, hsplit, hline⟩
    rcases gpsSockRead_of_recv_line h.clean hbuffer (List.ne_nil_of_mem hchunk) hroom.1 hsplit hline
      (rest.map .data) with ⟨p, hread, hpending, hp⟩
    have hsock : c.sock = .data chunk :: rest.map .data := h.sock
    have hfits : Fits '\n' bufferSize p.pending rest := by
      rw [hpending]
      exact fits_of_append_cons (hsplit ▸ hroom.2)
    refine ⟨line, p, rest, hline, ⟨by simp [hsock], by rw [hsock]; exact hread⟩,
      ⟨hp, rfl, fun d hd => h.ne_nil d (List.mem_cons_of_mem _ hd), hfits⟩, ?_,
      .inr ⟨chunk, rfl, hchunk⟩⟩
    rw [List.flatten_cons, ← List.append_assoc, hsplit, hpending, List.append_assoc, List.cons_append]

/-- With every piece completing a line, a turn takes the next report. -/
theorem turn_of_report {c : Client} {chunks : List Text} {report rest : Text} (h : c.Awaits chunks)
    (hreport : '\n' ∉ report) (hlines : ∀ chunk ∈ chunks, '\n' ∈ chunk)
    (htext : c.priv.pending ++ chunks.flatten = report ++ '\n' :: rest) :
    ∃ p chunks', c.Takes report p (chunks'.map .data) ∧
      (c.responded tpvMode report p (chunks'.map .data)).Awaits chunks' ∧
      (∀ chunk ∈ chunks', '\n' ∈ chunk) ∧ p.pending ++ chunks'.flatten = rest := by
  have heol : '\n' ∈ c.priv.pending ∨ ∃ chunk rest, chunks = chunk :: rest ∧ '\n' ∈ chunk := by
    cases chunks with
    | nil =>
        rw [List.flatten_nil, List.append_nil] at htext
        exact .inl (by simp [htext])
    | cons chunk chunks => exact .inr ⟨chunk, chunks, rfl, hlines chunk List.mem_cons_self⟩
  rcases turn_of_line h heol with ⟨line, p, chunks', hline, htakes, hnext, hsplit, hchunks⟩
  -- both texts are cut at the first line end
  rcases line_unique hline hreport (hsplit.symm.trans htext) with ⟨rfl, hrest⟩
  refine ⟨p, chunks', htakes, hnext, fun chunk hchunk => hlines chunk ?_, hrest⟩
  rcases hchunks with rfl | ⟨first, rfl, -⟩
  · exact hchunk
  · exact List.mem_cons_of_mem first hchunk

/-- The records that have been written, and those that the turns to come write: one for each line
and one for each piece without a line end. -/
def Client.owed (c : Client) (chunks : List Text) : Nat :=
  c.log.length + (c.priv.pending ++ chunks.flatten).count '\n' +
    (chunks.filter (fun chunk => decide ('\n' ∉ chunk))).length

/-- The piece completes no line: a record is written all the same. -/
theorem turn_of_fragment {c : Client} {chunk : Text} {chunks : List Text}
    (h : c.Awaits (chunk :: chunks)) (hbuffer : '\n' ∉ c.priv.pending) (hchunk : '\n' ∉ chunk) :
    c.turn tpvMode = .fault ∨ ∃ c', c.turn tpvMode = .next c' ∧ c'.Awaits chunks ∧
      c'.owed chunks = c.owed (chunk :: chunks) := by
  have hroom := fits_cons_of_not_mem hbuffer h.fits
  rw [PrivData.length_pending] at hroom
  have hsock : c.sock = .data chunk :: chunks.map .data := h.sock
  have hbusy : ¬ (c.priv.waiting = 0 ∧ c.sock = []) := by simp [hsock]
  rcases gpsSockRead_of_recv_partial h.clean hbuffer hchunk (h.ne_nil chunk List.mem_cons_self)
    hroom.1 (chunks.map .data) with hread | ⟨p, hread, hpending, hp⟩
  · exact .inl (by rw [Client.turn, if_neg hbusy, hsock, hread])
  · -- the record repeats the mode seen last
    refine .inr ⟨⟨p, c.mode, chunks.map .data, c.log ++ [updateMark c.mode]⟩, ?_,
      ⟨hp, rfl, ?_, ?_⟩, ?_⟩
    · rw [Client.turn, if_neg hbusy, hsock, hread]
    · exact fun d hd => h.ne_nil d (List.mem_cons_of_mem _ hd)
    · rw [hpending]
      exact hroom.2
    · simp [Client.owed, hpending, hchunk]
      omega

/-- Nothing is in the buffer that could be handed over, and nothing comes in any more. -/
theorem turn_of_nothing {c : Client} (h : c.Awaits []) (hbuffer : '\n' ∉ c.priv.pending) :
    c.turn tpvMode = .fault ∨ (c.turn tpvMode = .idle ∧ c.owed [] = c.log.length) := by
  have hsock : c.sock = [] := h.sock
  have howed : c.owed [] = c.log.length := by
    simp [Client.owed, List.count_eq_zero_of_not_mem hbuffer]
  by_cases hzero : c.priv.waiting = 0
  · exact .inr ⟨by simp [Client.turn, hzero, hsock], howed⟩
  · rcases Nat.lt_or_eq_of_le h.clean.waiting_le with hspace | hfull
    · have hread := gpsSockRead_nil h.clean hbuffer hspace
      exact .inr ⟨by simp [Client.turn, hzero, hsock, hread], howed⟩
    · -- the scan runs off the full buffer
      have hscan : c.priv.scanEol = none := by
        rw [PrivData.scanEol, PrivData.find?_eq_none_of_not_mem hbuffer]
        exact if_pos hfull
      exact .inl (by simp [Client.turn, hzero, gpsSockRead, hscan])

/-- A turn neither adds to what is owed nor takes from it. -/
theorem turn_owed {c : Client} {chunks : List Text} (h : c.Awaits chunks) :
    c.turn tpvMode = .fault ∨ (c.turn tpvMode = .idle ∧ c.owed chunks = c.log.length) ∨
      ∃ c' chunks', c.turn tpvMode = .next c' ∧ c'.Awaits chunks' ∧
        c'.owed chunks' = c.owed chunks := by
  by_cases heol : '\n' ∈ c.priv.pending ∨ ∃ chunk rest, chunks = chunk :: rest ∧ '\n' ∈ chunk
  · -- a record is written for the line end that is taken
    rcases turn_of_line h heol with ⟨line, p, chunks', hline, htakes, hnext, hsplit, hchunks⟩
    refine .inr (.inr ⟨_, chunks', htakes.turn, hnext, ?_⟩)
    have hcount : (c.priv.pending ++ chunks.flatten).count '\n' =
        (p.pending ++ chunks'.flatten).count '\n' + 1 := by
      rw [hsplit]
      simp [List.count_eq_zero_of_not_mem hline]
    have hpartial : (chunks.filter (fun chunk => decide ('\n' ∉ chunk))).length =
        (chunks'.filter (fun chunk => decide ('\n' ∉ chunk))).length := by
      rcases hchunks with rfl | ⟨chunk, rfl, hchunk⟩
      · rfl
      · simp [hchunk]
    rw [Client.owed, Client.owed, hcount, hpartial]
    simp [Client.responded]
    omega
  · rcases not_or.1 heol with ⟨hbuffer, hnone⟩
    cases chunks with
    | nil => exact (turn_of_nothing h hbuffer).imp_right .inl
    | cons chunk chunks =>
        -- a record for a piece that completes nothing
        have hchunk : '\n' ∉ chunk := fun hmem => hnone ⟨chunk, chunks, rfl, hmem⟩
        refine (turn_of_fragment h hbuffer hchunk).imp_right fun hnext => .inr ?_
        rcases hnext with ⟨c', hturn, hnext, howed⟩
        exact ⟨c', chunks, hturn, hnext, howed⟩

/-! ## Whole runs -/

/-- Nothing is left to be taken. -/
theorem idle_of_awaits {c : Client} {chunks : List Text} (h : c.Awaits chunks)
    (htext : c.priv.pending ++ chunks.flatten = []) : c.priv.waiting = 0 ∧ c.sock = [] := by
  rcases List.append_eq_nil_iff.1 htext with ⟨hpending, hflatten⟩
  have hchunks : chunks = [] := by
    refine List.eq_nil_iff_forall_not_mem.2 fun chunk hchunk => ?_
    exact h.ne_nil chunk hchunk (List.flatten_eq_nil_iff.1 hflatten chunk hchunk)
  refine ⟨?_, by simp [h.sock, hchunks]⟩
  rw [← PrivData.length_pending, hpending, List.length_nil]

theorem run_of_lines (reports : List Text) : ∀ (before : List Text) (c : Client)
    (chunks : List Text), c.Awaits chunks → c.mode = lastMode tpvMode before →
    c.log = responses tpvMode before → (∀ r ∈ reports, '\n' ∉ r) →
    (∀ chunk ∈ chunks, '\n' ∈ chunk) →
    c.priv.pending ++ chunks.flatten = reports.flatMap (· ++ ['\n']) →
      c.run tpvMode (reports.length + 1) = some (responses tpvMode (before ++ reports)) := by
  -- the log is that of the reports before, so every turn adds the record of one report
  induction reports with
  | nil =>
      intro before c chunks hc hmode hlog _ hlines htext
      have hidle := idle_of_awaits hc htext
      simp [Client.run, Client.turn, hidle, hlog]
  | cons report reports ih =>
      intro before c chunks hc hmode hlog hreports hlines htext
      have htext' : c.priv.pending ++ chunks.flatten =
          report ++ '\n' :: reports.flatMap (· ++ ['\n']) := by
        rw [htext]
        simp
      rcases turn_of_report hc (hreports report List.mem_cons_self) hlines htext' with
        ⟨p, chunks', htakes, hnext, hlines', hrest⟩
      have hmode' : (tpvMode (cString report)).getD c.mode = lastMode tpvMode (before ++ [report]) := by
        rw [lastMode_concat, hmode]
      have hlog' : c.log ++ [updateMark ((tpvMode (cString report)).getD c.mode)] =
          responses tpvMode (before ++ [report]) := by
        rw [responses_concat, hlog, hmode']
      have hrun := ih (before ++ [report]) _ chunks' hnext hmode' hlog'
        (fun r hr => hreports r (List.mem_cons_of_mem _ hr)) hlines' hrest
      rw [List.append_assoc, List.singleton_append] at hrun
      rw [List.length_cons, Client.run, htakes.turn]
      exact hrun

/-- A run that ends has written what was owed. -/
theorem length_run (n : Nat) : ∀ (c : Client) (chunks : List Text) (log : List Mark),
    c.Awaits chunks → c.run tpvMode n = some log → log.length = c.owed chunks := by
  induction n with
  | zero =>
      intro c chunks log _ hrun
      cases hrun
  | succ n ih =>
      intro c chunks log hc hrun
      rw [Client.run] at hrun
      rcases turn_owed hc with hturn | ⟨hturn, howed⟩ | ⟨c', chunks', hturn, hc', howed⟩
      · rw [hturn] at hrun
        cases hrun
      · rw [hturn] at hrun
        cases hrun
        exact howed.symm
      · rw [hturn] at hrun
        exact (ih c' chunks' log hc' hrun).trans howed

theorem count_newline_flatMap {reports : List Text} (h : ∀ r ∈ reports, '\n' ∉ r) :
    (reports.flatMap (· ++ ['\n'])).count '\n' = reports.length := by
  induction reports with
  | nil => rfl
  | cons r reports ih =>
      have hr : r.count '\n' = 0 := List.count_eq_zero_of_not_mem (h r List.mem_cons_self)
      have hrest := ih fun q hq => h q (List.mem_cons_of_mem _ hq)
      simp [hr, hrest]

theorem awaits_init {garbage : Nat → Char} (hgarbage : garbage 0 ≠ '\n') {chunks : List Text}
    (hne : ∀ chunk ∈ chunks, chunk ≠ []) (hfits : Fits '\n' bufferSize [] chunks) :
    (Client.init garbage (chunks.map .data)).Awaits chunks where
  clean := ⟨Nat.zero_le _, fun _ _ => hgarbage⟩
  sock := rfl
  ne_nil := hne
  fits := hfits

/-- A line end that `malloc` has left at the start of the buffer is taken for an empty line. -/
theorem run_of_garbage {garbage : Nat → Char} (h : garbage 0 = '\n') {sock : List Recv}
    (hsock : sock ≠ []) (n : Nat) : (Client.init garbage sock).run tpvMode n = none := by
  cases n with
  | zero => rfl
  | succ n =>
      have hscan : (Client.init garbage sock).priv.scanEol = some (some 0) := by
        simp [PrivData.scanEol, Client.init, h, bufferSize]
      have hread : gpsSockRead (Client.init garbage sock).priv (Client.init garbage sock).sock =
          .fault := by
        simp only [gpsSockRead, hscan]
        exact if_neg (lt_irrefl _)
      have hbusy : ¬ ((Client.init garbage sock).priv.waiting = 0 ∧
          (Client.init garbage sock).sock = []) := by
        simp [Client.init, hsock]
      rw [Client.run, Client.turn, if_neg hbusy, hread]

/-- With a piece that completes no line, the log cannot be one record for each report. -/
theorem newline_mem_of_responds {garbage : Nat → Char} {chunks reports : List Text}
    (hgarbage : garbage 0 ≠ '\n') (hreports : ∀ r ∈ reports, '\n' ∉ r)
    (hne : ∀ chunk ∈ chunks, chunk ≠ [])
    (htext : chunks.flatten = reports.flatMap (· ++ ['\n']))
    (hfits : Fits '\n' bufferSize [] chunks) (h : Responds tpvMode garbage chunks reports) :
    ∀ chunk ∈ chunks, '\n' ∈ chunk := by
  rcases h with ⟨n, hrun⟩
  have hlength := length_run n _ chunks _ (awaits_init hgarbage hne hfits) hrun
  have hpending : (Client.init garbage (chunks.map .data)).priv.pending = [] := rfl
  have hlog : (Client.init garbage (chunks.map .data)).log = [] := rfl
  rw [length_responses, Client.owed, hpending, hlog, List.nil_append, htext,
    count_newline_flatMap hreports] at hlength
  -- as many records as lines: no piece has added one
  have hfilter : chunks.filter (fun chunk => decide ('\n' ∉ chunk)) = [] := by
    apply List.eq_nil_of_length_eq_zero
    simp at hlength ⊢
    exact hlength
  intro chunk hchunk
  have hnot := List.filter_eq_nil_iff.1 hfilter chunk hchunk
  simpa using hnot

/-- The log has exactly one record for each report if and only if nothing was sent, or every piece
that `recv` delivers completes a line (and the fresh buffer does not start with a line end).  The
pieces fit because `recv` never gives more than it is asked for. -/
theorem responds_iff {garbage : Nat → Char} {chunks reports : List Text}
    (hreports : ∀ r ∈ reports, '\n' ∉ r) (hne : ∀ chunk ∈ chunks, chunk ≠ [])
    (htext : chunks.flatten = reports.flatMap (· ++ ['\n']))
    (hfits : Fits '\n' bufferSize [] chunks) :
    Responds tpvMode garbage chunks reports ↔
      chunks = [] ∨ (garbage 0 ≠ '\n' ∧ ∀ chunk ∈ chunks, '\n' ∈ chunk) := by
  constructor
  · intro h
    by_cases hchunks : chunks = []
    · exact Or.inl hchunks
    · by_cases hgarbage : garbage 0 = '\n'
      · rcases h with ⟨n, hrun⟩
        rw [run_of_garbage hgarbage (by simpa using hchunks)] at hrun
        cases hrun
      · exact Or.inr ⟨hgarbage, newline_mem_of_responds hgarbage hreports hne htext hfits h⟩
  · rintro (rfl | ⟨hgarbage, hlines⟩)
    · -- nothing was sent
      have hnil : reports = [] := by
        cases reports with
        | nil => rfl
        | cons r reports => simp at htext
      exact ⟨1, by simp [Client.run, Client.turn, Client.init, responses, hnil]⟩
    · exact ⟨_, run_of_lines reports [] (Client.init garbage (chunks.map .data)) chunks
        (awaits_init hgarbage hne hfits) rfl rfl hreports hlines htext⟩

end Loop

/-- The mode of the TPV reports that the tests below send. -/
def sampleMode (report : Text) : Option Int :=
  if report = "\x7b\"class\":\"TPV\",\"mode\":3\x7d".toList then some 3 else none

/-- Two reports in two pieces, cut inside the second report. -/
theorem responds_iff_twoPieces : Responds sampleMode (fun _ => '\x00')
    ["\x7b\"class\":\"TPV\",\"mode\":3\x7d\n\x7b\"class\":".toList, "\"SKY\"\x7d\n".toList]
    ["\x7b\"class\":\"TPV\",\"mode\":3\x7d".toList, "\x7b\"class\":\"SKY\"\x7d".toList] :=
  (responds_iff (by decide) (by decide) (by decide) (by decide)).2
    (Or.inr ⟨by decide, by decide⟩)

/-- One report in two pieces: two records are written. -/
theorem exists_not_responds :
    ¬ ∀ (tpvMode : Text → Option Int) (garbage : Nat → Char) (chunks reports : List Text),
      (∀ r ∈ reports, '\n' ∉ r) → (∀ chunk ∈ chunks, chunk ≠ []) →
      chunks.flatten = reports.flatMap (· ++ ['\n']) → Fits '\n' bufferSize [] chunks →
      Responds tpvMode garbage chunks reports := by
  intro h
  have hresponds := h sampleMode (fun _ => '\x00')
    ["\x7b\"class\":\"TPV\",".toList, "\"mode\":3\x7d\n".toList]
    ["\x7b\"class\":\"TPV\",\"mode\":3\x7d".toList] (by decide) (by decide) (by decide)
    (by decide)
  have hlines := newline_mem_of_responds (by decide) (by decide) (by decide) (by decide)
    (by decide) hresponds
  exact absurd (hlines _ List.mem_cons_self) (by decide)

end Cgps
end ResourceAccounting
