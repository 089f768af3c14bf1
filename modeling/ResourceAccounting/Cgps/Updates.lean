import ResourceAccounting.Cgps.Responses
import ResourceAccounting.Cgps.Unpack

/-!
# Updates — cgps with the data that it holds

`Responses` follows the mode only, by what a line does to it.  Here the main loop holds all of `struct
gps_data_t`, and a line is unpacked into it.  The mode is all that the records of cgps depend on, as
long as the lines hold objects that are read to their end.

- `Session.turn`, `Session.run` — the main loop without its keys;
- `handedOver` — the lines that `gps_sock_read` finds;
- `lineMode` — the mode that a line sets, if it sets one;
- `run_view` — the loop writes the records that `Responses` says;
- `run_jsonTpvDump` — the records of a client whose lines are written by gpsd.
-/

namespace ResourceAccounting
namespace Cgps

open Python Streams C Json Gpsd

/-! ## The main loop -/

structure Session (R : Type) where
  priv : PrivData
  /-- `gpsdata` -/
  data : GpsData R
  sock : List Recv
  /-- The marks of the records that follow the 0 record. -/
  log : List Mark

/-- After `gps_open`. -/
def Session.init {R : Type} (f : Floats R) (garbage : Nat → Char) (sock : List Recv) : Session R :=
  { priv := { buffer := garbage, waiting := 0 }, data := gpsOpen f, sock := sock, log := [] }

inductive SessionTurn (R : Type)
  | fault
  /-- A line is not taken to its end. -/
  | stuck
  | idle
  | died
  | next (s : Session R)

section

variable {R : Type} (lib : Library R)

/-- One turn of the main loop. -/
def Session.turn (s : Session R) : SessionTurn R :=
  if s.priv.waiting = 0 ∧ s.sock = [] then
    .idle
  else
    match gpsSockRead s.priv s.sock with
    | .fault => .fault
    | .blocked => .idle
    | .failed => .died
    | .incomplete p sock =>
        .next { s with priv := p, sock := sock, log := s.log ++ [updateMark s.data.fix.mode] }
    | .response line p sock =>
        match gpsUnpack lib line p s.data with
        | .fault => .fault
        | .stuck => .stuck
        | .data (p, data) =>
            .next { priv := p, data := data, sock := sock, log := s.log ++ [updateMark data.fix.mode] }

/-- The records when nothing comes in any more, within `n` turns; none after a fault. -/
def Session.run : Nat → Session R → Option (List Mark)
  | 0, _ => none
  | n + 1, s =>
      match s.turn lib with
      | .fault => none
      | .stuck => none
      | .idle => some s.log
      | .died => some s.log
      | .next s => Session.run n s

/-- The lines that `gps_sock_read` finds within `n` calls. -/
def handedOver : Nat → PrivData → List Recv → List Text
  | 0, _, _ => []
  | n + 1, p, sock =>
      if p.waiting = 0 ∧ sock = [] then
        []
      else
        match gpsSockRead p sock with
        | .incomplete p sock => handedOver n p sock
        | .response line p sock => line :: handedOver n p sock
        | _ => []

/-! ## The mode that a line sets -/

/-- The mode is the same for two that it has had before, if the line sets it. -/
def lineMode (line : Text) : Option Int :=
  let opened (mode : Int) : GpsData R :=
    { gpsOpen lib.floats with fix := { (gpsOpen lib.floats).fix with mode := mode } }
  match unpackLine lib line (opened 0), unpackLine lib line (opened 1) with
  | .data d, .data d' => if d.fix.mode = d'.fix.mode then some d.fix.mode else none
  | _, _ => none

variable {lib}

variable (lib) in
/-- The line is one of objects that are read to their end, whatever the data are. -/
def Taken (line : Text) : Prop :=
  line.head? = some '\x7b' ∧
    ∃ g, SetsMode g ∧ ∀ d, unpackLine lib (Cgps.cString line) d = .data (g d)

theorem Harmless.taken {line : Text} (h : Harmless line) : Taken lib line := by
  have hpart : Cgps.cString line <:+: line := cString_infix line
  rcases unpackLine_acts (h.known.of_infix hpart)
    (fun hmem => h.escape (hpart.subset hmem)) with ⟨g, hg, -, hacts⟩
  exact ⟨h.brace, g, hg, hacts⟩

/-- Unpacking a line is for the mode what `lineMode` says, and it leaves the buffer of the socket. -/
theorem gpsUnpack_mode {line : Text} (hline : Taken lib line) (p : PrivData) (d : GpsData R) :
    ∃ d', gpsUnpack lib line p d = .data (p, d') ∧
      d'.fix.mode = (lineMode lib (Cgps.cString line)).getD d.fix.mode := by
  rcases hline with ⟨hbrace, g, hg, hacts⟩
  refine ⟨g d, ?_, ?_⟩
  · have hunpack : unpackLine lib (Json.cString line) d = .data (g d) := hacts d
    rw [gpsUnpack_of_brace hbrace, hunpack]
    rfl
  · simp only [lineMode, hacts]
    rcases hg with ⟨n, hn⟩ | hkeep
    · rw [hn, hn, hn, if_pos rfl]
      rfl
    · rw [hkeep, hkeep, hkeep, if_neg (by exact zero_ne_one)]
      rfl

/-- A line without a TPV report. -/
theorem lineMode_eq_none {line : Text} (hline : Harmless line) (htpv : ¬ tpvTag <:+: line) :
    lineMode lib line = none := by
  rcases @unpackLine_acts R lib line hline.known hline.escape with ⟨g, -, hkeeps, hacts⟩
  simp only [lineMode, hacts, hkeeps htpv _]
  exact if_neg zero_ne_one

/-- The line that gpsd sends for a fix. -/
theorem lineMode_tpvText (hf : lib.floats.Printing) {d : GpsData R} (hd : d.Plain lib.floats) :
    lineMode lib (tpvText lib.floats d ++ "\x7d\r".toList) = some d.fix.mode := by
  simp only [lineMode, unpackLine_tpvText hf hd]
  exact if_pos trivial

/-! ## The view -/

/-- What `Responses` sees of a session. -/
def Session.view (s : Session R) : Client :=
  { priv := s.priv, mode := s.data.fix.mode, sock := s.sock, log := s.log }

def SessionTurn.view : SessionTurn R → Turn
  | .fault => .fault
  | .stuck => .fault
  | .idle => .idle
  | .died => .died
  | .next s => .next s.view

/-- The turn of a session is the turn of its view, if the line that it finds is taken, and the
lines to come are the same then. -/
theorem turn_view {s : Session R} {n : Nat}
    (h : ∀ line ∈ handedOver (n + 1) s.priv s.sock, Taken lib line) :
    s.view.turn (lineMode lib) = (s.turn lib).view ∧
      ∀ s', s.turn lib = .next s' → ∀ line ∈ handedOver n s'.priv s'.sock, Taken lib line := by
  have hpriv : s.view.priv = s.priv := rfl
  have hsock : s.view.sock = s.sock := rfl
  rw [handedOver] at h
  rw [Client.turn, Session.turn, hpriv, hsock]
  by_cases hidle : s.priv.waiting = 0 ∧ s.sock = []
  · rw [if_pos hidle, if_pos hidle]
    exact ⟨rfl, fun s' hs' => by cases hs'⟩
  · rw [if_neg hidle] at h ⊢
    rw [if_neg hidle]
    cases hread : gpsSockRead s.priv s.sock with
    | fault => exact ⟨rfl, fun s' hs' => by cases hs'⟩
    | blocked => exact ⟨rfl, fun s' hs' => by cases hs'⟩
    | failed => exact ⟨rfl, fun s' hs' => by cases hs'⟩
    | incomplete p sock =>
        rw [hread] at h
        refine ⟨rfl, fun s' hs' => ?_⟩
        cases hs'
        exact h
    | response line p sock =>
        rw [hread] at h
        rcases gpsUnpack_mode (h line List.mem_cons_self) p s.data with ⟨data, hdata, hmode⟩
        simp only [hdata]
        refine ⟨?_, fun s' hs' => ?_⟩
        · simp only [SessionTurn.view, Session.view, hmode]
        · cases hs'
          exact fun line' hline' => h line' (List.mem_cons_of_mem line hline')

/-- cgps writes the records that the mode alone gives, as long as the lines are taken. -/
theorem run_view (n : Nat) {s : Session R}
    (hs : ∀ line ∈ handedOver n s.priv s.sock, Taken lib line) :
    s.run lib n = s.view.run (lineMode lib) n := by
  induction n generalizing s with
  | zero => rfl
  | succ n ih =>
      rcases turn_view hs with ⟨hturn, hnext⟩
      rw [Session.run, Client.run, hturn]
      cases hs' : s.turn lib with
      | fault => rfl
      | stuck => rfl
      | idle => rfl
      | died => rfl
      | next s' => exact ih (hnext s' hs')

/-- The same from the start: cgps as a whole does what `Responses` follows, if every line is one of
objects that are read into other data than the union, without backslashes. -/
theorem run_init (garbage : Nat → Char) (sock : List Recv) (n : Nat)
    (hlines : ∀ line ∈ handedOver n { buffer := garbage, waiting := 0 } sock, Harmless line) :
    (Session.init lib.floats garbage sock).run lib n =
      (Client.init garbage sock).run (lineMode lib) n :=
  run_view n fun line hline => (hlines line hline).taken

/-- A line in two pieces, and the end of the stream. -/
theorem run_init_twoPieces :
    (Session.init wholeFloats (fun _ => '\x00') [.data "\x7b\"class\":\"TPV\",".toList,
        .data "\"mode\":3\x7d\n".toList, .closed]).run wholeLibrary 5 =
      (Client.init (fun _ => '\x00') [.data "\x7b\"class\":\"TPV\",".toList,
        .data "\"mode\":3\x7d\n".toList, .closed]).run (lineMode wholeLibrary) 5 := by
  have hlines : handedOver 5 { buffer := fun _ => '\x00', waiting := 0 }
      [.data "\x7b\"class\":\"TPV\",".toList, .data "\"mode\":3\x7d\n".toList, .closed] =
        ["\x7b\"class\":\"TPV\",\"mode\":3\x7d".toList] := by decide +kernel
  refine run_init _ _ 5 fun line hline => ?_
  rw [hlines] at hline
  cases List.mem_singleton.1 hline
  exact ⟨rfl, by decide +kernel, by decide⟩

/-! ## What gpsd sends -/

/-- A line from gpsd. -/
inductive Sent (R : Type)
  /-- The fix of a device. -/
  | tpv (d : GpsData R)
  /-- Any other report. -/
  | other (line : Text)

namespace Sent

variable (f : Floats R)

/-- The line without its end, as `gps_unpack` gets it. -/
def line : Sent R → Text
  | .tpv d => tpvText f d ++ "\x7d\r".toList
  | .other line => line

/-- What is written for the line; none if the writer leaves its buffer. -/
def reply (replylen : Nat) : Sent R → Option Text
  | .tpv d => jsonTpvDump f d replylen
  | .other line => some (line ++ ['\n'])

/-- The mode that a client has from the line. -/
def mode : Sent R → Option Int
  | .tpv d => some d.fix.mode
  | .other _ => none

/-- The texts of a fix are plain, and any other line is harmless. -/
def Plain : Sent R → Prop
  | .tpv d => d.Plain f ∧ '\n' ∉ d.tag ∧ '\n' ∉ d.dev.path
  | .other line => Harmless line ∧ ¬ tpvTag <:+: line ∧ '\x00' ∉ line ∧ '\n' ∉ line

variable {f}

theorem reply_eq_some {replylen : Nat} (hsize : 16 ≤ replylen) (hmax : replylen < 2 ^ 63) {s : Sent R}
    {reply : Text} (h : s.reply f replylen = some reply) : reply = s.line f ++ ['\n'] := by
  cases s with
  | tpv d =>
      rw [jsonTpvDump_eq_some f hsize hmax h, line, List.append_assoc]
      rfl
  | other line => exact (Option.some.inj h).symm

theorem not_mem_line (hf : f.Printing) {s : Sent R} (hs : s.Plain f) {c : Char}
    (hc : c ∈ ['\x00', '\n']) : c ∉ s.line f := by
  cases s with
  | tpv d =>
      have hparts : c ∉ d.tag ∧ c ∉ d.dev.path ∧ c ∉ "\x7d\r".toList := by
        rcases hs with ⟨hd, htag, hpath⟩
        simp only [List.mem_cons, List.not_mem_nil, or_false] at hc
        rcases hc with rfl | rfl
        · exact ⟨hd.tag_nul, hd.path_nul, by decide⟩
        · exact ⟨htag, hpath, by decide⟩
      rw [line, List.mem_append, not_or]
      exact ⟨not_mem_tpvText hf (List.mem_cons_of_mem _ hc) hparts.1 hparts.2.1, hparts.2.2⟩
  | other line =>
      simp only [List.mem_cons, List.not_mem_nil, or_false] at hc
      rcases hc with rfl | rfl
      · exact hs.2.2.1
      · exact hs.2.2.2

end Sent

/-- What gpsd sends for a fix is taken as well. -/
theorem taken_line (hf : lib.floats.Printing) {s : Sent R} (hs : s.Plain lib.floats) :
    Taken lib (s.line lib.floats) := by
  cases s with
  | tpv d =>
      have hnul : '\x00' ∉ tpvText lib.floats d ++ "\x7d\r".toList :=
        Sent.not_mem_line hf hs (show '\x00' ∈ ['\x00', '\n'] by decide)
      have hline : Cgps.cString (tpvText lib.floats d ++ "\x7d\r".toList) =
          tpvText lib.floats d ++ "\x7d\r".toList := cString_eq_self hnul
      refine ⟨rfl, fun c => { c with
        fix := d.fix.received lib.host lib.floats
        dev := { c.dev with path := d.dev.path }
        tag := if d.tag = [] then ['-'] else d.tag }, .inl ⟨d.fix.mode, fun _ => rfl⟩, fun c => ?_⟩
      rw [Sent.line, hline, unpackLine_tpvText hf hs.1]
  | other line => exact hs.1.taken

/-- `lineMode` is right about what gpsd sends. -/
theorem lineMode_line (hf : lib.floats.Printing) {s : Sent R} (hs : s.Plain lib.floats) :
    lineMode lib (Cgps.cString (s.line lib.floats)) = s.mode := by
  have hnul := Sent.not_mem_line hf hs (show '\x00' ∈ ['\x00', '\n'] by decide)
  have hline : Cgps.cString (s.line lib.floats) = s.line lib.floats := cString_eq_self hnul
  rw [hline]
  cases s with
  | tpv d => exact lineMode_tpvText hf hs.1
  | other line => exact lineMode_eq_none hs.1 hs.2.1

/-- The records of a client by the modes of the fixes that gpsd sends: each says whether the last fix
up to it was one in two or three dimensions. -/
def fixMarks (sent : List (Sent R)) : List Mark :=
  (List.range sent.length).map fun i =>
    updateMark (((sent.take (i + 1)).filterMap Sent.mode).getLast?.getD 0)

theorem responses_line (hf : lib.floats.Printing) {sent : List (Sent R)}
    (hsent : ∀ s ∈ sent, s.Plain lib.floats) :
    responses (lineMode lib) (sent.map (Sent.line lib.floats)) = fixMarks sent := by
  rw [responses, fixMarks, List.length_map]
  refine List.map_congr_left fun i _ => ?_
  rw [lastMode, ← List.map_take, List.filterMap_map]
  congr 3
  refine List.filterMap_congr fun s hs => ?_
  exact lineMode_line hf (hsent s (List.mem_of_mem_take hs))

theorem flatten_replies {f : Floats R} {replylen : Nat} (hsize : 16 ≤ replylen)
    (hmax : replylen < 2 ^ 63) {sent : List (Sent R)} {replies : List Text}
    (h : sent.map (Sent.reply f replylen) = replies.map some) :
    replies.flatten = (sent.map (Sent.line f)).flatMap (· ++ ['\n']) := by
  induction sent generalizing replies with
  | nil =>
      rw [List.map_nil, eq_comm, List.map_eq_nil_iff] at h
      rw [h]
      rfl
  | cons s sent ih =>
      cases replies with
      | nil => cases h
      | cons reply replies =>
          rw [List.map_cons, List.map_cons, List.cons_eq_cons] at h
          rw [List.flatten_cons, ih h.2, Sent.reply_eq_some hsize hmax h.1]
          rfl

/-- With every piece completing a line, the lines that `gps_sock_read` finds are those of the stream. -/
theorem handedOver_of_lines (lines : List Text) : ∀ (c : Client) (chunks : List Text),
    c.Awaits chunks → (∀ line ∈ lines, '\n' ∉ line) → (∀ chunk ∈ chunks, '\n' ∈ chunk) →
    c.priv.pending ++ chunks.flatten = lines.flatMap (· ++ ['\n']) →
      handedOver (lines.length + 1) c.priv c.sock = lines := by
  induction lines with
  | nil => exact fun c chunks hc _ _ htext => if_pos (idle_of_awaits hc htext)
  | cons line lines ih =>
      intro c chunks hc hnewline hlines htext
      have htext' : c.priv.pending ++ chunks.flatten =
          line ++ '\n' :: lines.flatMap (· ++ ['\n']) := by
        rw [htext]
        simp
      rcases @turn_of_report (fun _ => none) c chunks line _ hc (hnewline line List.mem_cons_self) hlines
        htext' with ⟨p, chunks', ⟨hbusy, hread⟩, hnext, hlines', hrest⟩
      have hlater := ih _ chunks' hnext (fun l hl => hnewline l (List.mem_cons_of_mem line hl)) hlines'
        hrest
      rw [List.length_cons, handedOver, if_neg hbusy, hread]
      exact congrArg (line :: ·) hlater

/-- From the fixes of gpsd's devices to the records of cgps: if gpsd writes its reports within its
buffer, and every piece of the stream that `recv` gives completes a line, cgps writes one record for
each report, and it says whether the last fix up to there was one in two or three dimensions. -/
theorem run_jsonTpvDump (hf : lib.floats.Printing) {sent : List (Sent R)}
    (hsent : ∀ s ∈ sent, s.Plain lib.floats) {replylen : Nat} (hsize : 16 ≤ replylen)
    (hmax : replylen < 2 ^ 63) {replies : List Text}
    (hreplies : sent.map (Sent.reply lib.floats replylen) = replies.map some)
    {garbage : Nat → Char} (hgarbage : garbage 0 ≠ '\n') {chunks : List Text}
    (hne : ∀ chunk ∈ chunks, chunk ≠ []) (hfits : Fits '\n' bufferSize [] chunks)
    (hlines : ∀ chunk ∈ chunks, '\n' ∈ chunk) (hstream : chunks.flatten = replies.flatten) :
    (Session.init lib.floats garbage (chunks.map .data)).run lib (sent.length + 1) =
      some (fixMarks sent) := by
  have hreports := flatten_replies hsize hmax hreplies
  have hnewline : ∀ r ∈ sent.map (Sent.line lib.floats), '\n' ∉ r := by
    intro r hr
    rcases List.mem_map.1 hr with ⟨s, hs, rfl⟩
    exact Sent.not_mem_line hf (hsent s hs) (by decide)
  have hawaits := awaits_init hgarbage hne hfits
  -- every line that is handed over is one that gpsd has sent
  have htaken : ∀ line ∈ handedOver (sent.length + 1)
      (Session.init lib.floats garbage (chunks.map .data)).priv
      (Session.init lib.floats garbage (chunks.map .data)).sock, Taken lib line := by
    intro line hline
    have hfound := handedOver_of_lines (sent.map (Sent.line lib.floats)) _ chunks hawaits hnewline hlines
      (hstream.trans hreports)
    rw [List.length_map] at hfound
    have hmem : line ∈ sent.map (Sent.line lib.floats) := hfound ▸ hline
    rcases List.mem_map.1 hmem with ⟨s, hs, rfl⟩
    exact taken_line hf (hsent s hs)
  have hrun : (Client.init garbage (chunks.map .data)).run (lineMode lib)
      ((sent.map (Sent.line lib.floats)).length + 1) =
        some (responses (lineMode lib) (sent.map (Sent.line lib.floats))) :=
    run_of_lines (sent.map (Sent.line lib.floats)) [] _ chunks hawaits rfl rfl hnewline hlines
      (hstream.trans hreports)
  rw [List.length_map, responses_line hf hsent] at hrun
  calc
    (Session.init lib.floats garbage (chunks.map .data)).run lib (sent.length + 1) =
        (Session.init lib.floats garbage (chunks.map .data)).view.run (lineMode lib)
          (sent.length + 1) := run_view _ htaken
    _ = some (fixMarks sent) := hrun

/-- A fix in three dimensions, and a satellite report behind it, in one piece. -/
theorem run_jsonTpvDump_whole :
    (Session.init wholeFloats (fun _ => '\x00')
      [.data (tpvText wholeFloats wholeData ++ "\x7d\r\n".toList ++
        "\x7b\"class\":\"SKY\"\x7d\n".toList)]).run wholeLibrary 3 = some [.fix, .fix] := by
  have hplain : ∀ s ∈ [Sent.tpv wholeData, .other "\x7b\"class\":\"SKY\"\x7d".toList],
      s.Plain wholeFloats := by
    intro s hs
    rcases List.mem_cons.1 hs with rfl | hs
    · exact ⟨⟨by decide, by decide, by decide, by decide, by decide, by decide, by decide,
        by decide +kernel⟩, by decide, by decide⟩
    · cases List.mem_singleton.1 hs
      exact ⟨⟨rfl, by decide +kernel, by decide⟩, by decide +kernel, by decide, by decide⟩
  have hdump : jsonTpvDump wholeFloats wholeData 4096 =
      some (tpvText wholeFloats wholeData ++ "\x7d\r\n".toList) :=
    jsonTpvDump_of_lt wholeFloats (by decide) (by decide +kernel)
  have hreplies : [Sent.tpv wholeData, .other "\x7b\"class\":\"SKY\"\x7d".toList].map
      (Sent.reply wholeFloats 4096) = [tpvText wholeFloats wholeData ++ "\x7d\r\n".toList,
        "\x7b\"class\":\"SKY\"\x7d\n".toList].map some := by
    rw [List.map_cons, Sent.reply, hdump]
    rfl
  have hstream : [tpvText wholeFloats wholeData ++ "\x7d\r\n".toList ++
      "\x7b\"class\":\"SKY\"\x7d\n".toList].flatten = [tpvText wholeFloats wholeData ++ "\x7d\r\n".toList,
        "\x7b\"class\":\"SKY\"\x7d\n".toList].flatten := by
    simp only [List.flatten_cons, List.flatten_nil, List.append_nil]
  have hrun : (Session.init wholeLibrary.floats (fun _ => '\x00')
      ([tpvText wholeFloats wholeData ++ "\x7d\r\n".toList ++
        "\x7b\"class\":\"SKY\"\x7d\n".toList].map .data)).run wholeLibrary (2 + 1) =
          some (fixMarks [Sent.tpv wholeData, .other "\x7b\"class\":\"SKY\"\x7d".toList]) :=
    @run_jsonTpvDump (Option Int) wholeLibrary wholeFloats_printing _ hplain 4096 (by decide) (by decide)
      _ hreplies _ (by decide) _ (by decide +kernel) (by decide +kernel) (by decide +kernel) hstream
  have hmarks : fixMarks [Sent.tpv wholeData, .other "\x7b\"class\":\"SKY\"\x7d".toList] =
      [Mark.fix, Mark.fix] := by decide
  rw [hmarks] at hrun
  exact hrun

end

end Cgps
end ResourceAccounting
