import ResourceAccounting.Accounting.Server
import ResourceAccounting.C.Printf

/-!
# Codec — the messages from gpsd to the accounting server

`send_to_server` of gpsd prints the type, the port and the time of a record, separated by `|`, and
`main` of measurement.py splits the text and converts the time:

- `sendBuff` — the text, as `snprintf` puts it into the buffer;
- `nowTime?` — the time that `main` reads from a text;
- `sendBuff_lossless` — type, port and time come through, whatever they are.
-/

namespace ResourceAccounting
namespace Accounting

open Python C

/-! ## The encoder -/

/-- `struct timespec` -/
structure Timespec where
  tv_sec : Int64
  tv_nsec : Int64
  deriving DecidableEq, Repr

namespace Timespec

/-- A time that a clock shows: not before the epoch, with less than a second of nanoseconds. -/
def Normal (tm : Timespec) : Prop :=
  0 ≤ tm.tv_sec ∧ 0 ≤ tm.tv_nsec ∧ tm.tv_nsec < 1000000000

instance (tm : Timespec) : Decidable tm.Normal :=
  inferInstanceAs (Decidable (_ ∧ _))

/-- The time in seconds. -/
def seconds (tm : Timespec) : ℚ :=
  tm.tv_sec.toInt + tm.tv_nsec.toInt / 1000000000

/-- The order of the times, second by second and then by nanoseconds. -/
def Before (tm tm' : Timespec) : Prop :=
  tm.tv_sec < tm'.tv_sec ∨ tm.tv_sec = tm'.tv_sec ∧ tm.tv_nsec < tm'.tv_nsec

end Timespec

/-- `"%d|%d|%lld.%.9ld"` -/
def messageText (type : Int32) (port : UInt16) (tm : Timespec) : Text :=
  decimal type.toInt ++ '|' :: (decimal port.toNat ++ '|' ::
    (decimal tm.tv_sec.toInt ++ '.' :: precise 9 tm.tv_nsec.toInt))

/-- `sendBuff` of `send_to_server`; all of it is written to the socket. -/
def sendBuff (type : Int32) (port : UInt16) (tm : Timespec) : Text :=
  snprintf 1024 (messageText type port tm)

/-! ## The decoder -/

/-- `nowTime` of `main`, without rounding. -/
def nowTime? (receiveStr : Text) : Option PyFloat := do
  let (_, _, tmStr) ← fields? receiveStr
  convertTime id tmStr

/-! ## Normal times -/

namespace Timespec

theorem Normal.bounds {tm : Timespec} (h : tm.Normal) :
    0 ≤ tm.tv_sec.toInt ∧ 0 ≤ tm.tv_nsec.toInt ∧ tm.tv_nsec.toInt < 10 ^ 9 := by
  rcases h with ⟨hsec, hnsec, hlt⟩
  rw [Int64.le_iff_toInt_le] at hsec hnsec
  rw [Int64.lt_iff_toInt_lt] at hlt
  exact ⟨hsec, hnsec, hlt⟩

/-- The digits of a normal time. -/
theorem Normal.exists_nat {tm : Timespec} (h : tm.Normal) :
    ∃ sec nsec : Nat, tm.tv_sec.toInt = sec ∧ tm.tv_nsec.toInt = nsec ∧ nsec < 10 ^ 9 := by
  rcases h.bounds with ⟨hsec, hnsec, hlt⟩
  refine ⟨tm.tv_sec.toInt.toNat, tm.tv_nsec.toInt.toNat, ?_, ?_, ?_⟩ <;> omega

/-- The time in nanoseconds. -/
theorem seconds_mul (tm : Timespec) :
    tm.seconds * 10 ^ 9 = tm.tv_sec.toInt * 10 ^ 9 + tm.tv_nsec.toInt := by
  rw [seconds]
  ring

theorem seconds_lt_seconds_iff {tm tm' : Timespec} (h : tm.Normal) (h' : tm'.Normal) :
    tm.seconds < tm'.seconds ↔ tm.Before tm' := by
  rcases h.bounds with ⟨-, hnsec, hlt⟩
  rcases h'.bounds with ⟨-, hnsec', hlt'⟩
  have hscaled : tm.seconds < tm'.seconds ↔
      tm.tv_sec.toInt * 10 ^ 9 + tm.tv_nsec.toInt <
        tm'.tv_sec.toInt * 10 ^ 9 + tm'.tv_nsec.toInt := by
    have hpos : (0 : ℚ) < 10 ^ 9 := by norm_num
    rw [← mul_lt_mul_iff_left₀ hpos, seconds_mul, seconds_mul, ← Int.cast_lt (R := ℚ)]
    push_cast
    rfl
  rw [hscaled, Before, Int64.lt_iff_toInt_lt, Int64.lt_iff_toInt_lt, ← Int64.toInt_inj]
  omega

theorem seconds_injective {tm tm' : Timespec} (h : tm.Normal) (h' : tm'.Normal)
    (heq : tm.seconds = tm'.seconds) : tm = tm' := by
  have hnot := mt (seconds_lt_seconds_iff h h').2 heq.not_lt
  have hnot' := mt (seconds_lt_seconds_iff h' h).2 heq.symm.not_lt
  simp only [Before, Int64.lt_iff_toInt_lt, ← Int64.toInt_inj] at hnot hnot'
  have hsec : tm.tv_sec = tm'.tv_sec := Int64.toInt_inj.1 (by omega)
  have hnsec : tm.tv_nsec = tm'.tv_nsec := Int64.toInt_inj.1 (by omega)
  cases tm
  cases tm'
  simp_all

end Timespec

/-! ## The text in the buffer -/

/-- The buffer is large enough for every message. -/
theorem length_messageText_lt (type : Int32) (port : UInt16) {tm : Timespec} (h : tm.Normal) :
    (messageText type port tm).length < 1024 := by
  rcases h.exists_nat with ⟨sec, nsec, hsec, hnsec, hlt⟩
  have htypeLow := type.le_toInt
  have htypeHigh := type.toInt_lt
  have hsecHigh := tm.tv_sec.toInt_lt
  have hportHigh := port.toNat_lt
  have htype : (decimal type.toInt).length ≤ 11 :=
    length_decimal_le (k := 10) (by decide) (by omega)
  have hport : (decimal port.toNat).length ≤ 6 := length_decimal_le (k := 5) (by decide) (by omega)
  have hseconds : (decimal tm.tv_sec.toInt).length ≤ 20 :=
    length_decimal_le (k := 19) (by decide) (by omega)
  have hnanoseconds : (precise 9 tm.tv_nsec.toInt).length = 9 := by
    rw [hnsec, precise_natCast, length_zeroPad (by decide) hlt]
  simp only [messageText, List.length_append, List.length_cons, hnanoseconds]
  omega

theorem sendBuff_eq (type : Int32) (port : UInt16) {tm : Timespec} (h : tm.Normal) :
    sendBuff type port tm = messageText type port tm :=
  snprintf_of_length_lt (length_messageText_lt type port h)

/-- The third field of a message. -/
def timeText (tm : Timespec) : Text :=
  decimal tm.tv_sec.toInt ++ '.' :: precise 9 tm.tv_nsec.toInt

theorem bar_not_mem_timeText {tm : Timespec} (h : tm.Normal) : '|' ∉ timeText tm := by
  rcases h.exists_nat with ⟨sec, nsec, -, hnsec, -⟩
  have hseconds := not_mem_decimal tm.tv_sec.toInt (c := '|') (by decide) (by decide)
  have hnanoseconds := not_mem_zeroPad 9 nsec (d := '|') (by decide)
  rw [timeText, hnsec, precise_natCast]
  simp [hseconds, hnanoseconds]

theorem splitOn_sendBuff (type : Int32) (port : UInt16) {tm : Timespec} (h : tm.Normal) :
    (sendBuff type port tm).splitOn '|' =
      [decimal type.toInt, decimal port.toNat, timeText tm] := by
  have htype := not_mem_decimal type.toInt (c := '|') (by decide) (by decide)
  have hport := not_mem_decimal port.toNat (c := '|') (by decide) (by decide)
  calc
    (sendBuff type port tm).splitOn '|' =
        (decimal type.toInt ++ '|' :: (decimal port.toNat ++ '|' :: timeText tm)).splitOn '|' := by
      rw [sendBuff_eq type port h]
      rfl
    _ = decimal type.toInt :: (decimal port.toNat ++ '|' :: timeText tm).splitOn '|' :=
      List.splitOn_append_cons_self_of_not_mem htype _
    _ = decimal type.toInt :: decimal port.toNat :: (timeText tm).splitOn '|' := by
      rw [List.splitOn_append_cons_self_of_not_mem hport]
    _ = [decimal type.toInt, decimal port.toNat, timeText tm] := by
      rw [List.splitOn_eq_singleton (bar_not_mem_timeText h)]

/-- `convert_time` undoes the printing of the time. -/
theorem convertTime_timeText {tm : Timespec} (h : tm.Normal) :
    convertTime id (timeText tm) = some (.finite tm.seconds) := by
  rcases h.exists_nat with ⟨sec, nsec, hsec, hnsec, hlt⟩
  let m : Message := ⟨0, 0, sec, nsec, hlt⟩
  have hne : zeroPad 9 nsec ≠ [] := by
    refine List.ne_nil_of_length_pos ?_
    rw [length_zeroPad (by decide) hlt]
    decide
  have hconvert := m.convertTime_digits id hne fun _ hc => isDigit_of_mem_zeroPad hc
  rw [ofDigitChars_zeroPad] at hconvert
  have hseconds : addTimes id (.finite m.sec) (.finite m.nsec) = .finite tm.seconds := by
    rw [Timespec.seconds, hsec, hnsec]
    simp [addTimes, PyFloat.add, PyFloat.divNat, m]
  rw [timeText, hsec, hnsec, decimal_natCast, precise_natCast, ← hseconds]
  exact hconvert

theorem nowTime?_sendBuff (type : Int32) (port : UInt16) {tm : Timespec} (h : tm.Normal) :
    nowTime? (sendBuff type port tm) = some (.finite tm.seconds) := by
  simp [nowTime?, fields?, splitOn_sendBuff type port h, convertTime_timeText h]

/-- The messages that the server's loop is about are those of `send_to_server`. -/
theorem sendBuff_eq_text (m : Message) {type : Int32} {port : UInt16} {tm : Timespec}
    (htype : type.toInt = m.recordType) (hport : port.toNat = m.port)
    (hsec : tm.tv_sec.toInt = m.sec) (hnsec : tm.tv_nsec.toInt = m.nsec) :
    sendBuff type port tm = m.text := by
  have hlt := m.nsec_lt
  have hnormal : tm.Normal := by
    simp only [Timespec.Normal, Int64.le_iff_toInt_le, Int64.lt_iff_toInt_lt, hsec, hnsec]
    refine ⟨Int.natCast_nonneg _, Int.natCast_nonneg _, ?_⟩
    have hbillion : (1000000000 : Int64).toInt = 10 ^ 9 := by decide
    rw [hbillion]
    exact_mod_cast hlt
  rw [sendBuff_eq type port hnormal, messageText, htype, hport, hsec, hnsec]
  simp [decimal_natCast, precise_natCast, Message.text, Message.front]

/-- A message has three fields, of which the first two are the type and the port and the third
converts to the sent time; so the server tells any two times apart and keeps their order. -/
theorem sendBuff_lossless (type : Int32) (port : UInt16) {tm : Timespec} (h : tm.Normal) :
    (∃ tmStr, (sendBuff type port tm).splitOn '|' =
        [decimal type.toInt, decimal port.toNat, tmStr] ∧
      convertTime id tmStr = some (.finite tm.seconds)) ∧
    ∀ (type' : Int32) (port' : UInt16) (tm' : Timespec), tm'.Normal →
      ∃ t t' : ℚ, nowTime? (sendBuff type port tm) = some (.finite t) ∧
        nowTime? (sendBuff type' port' tm') = some (.finite t') ∧
        (t = t' ↔ tm = tm') ∧ (t < t' ↔ tm.Before tm') := by
  refine ⟨⟨timeText tm, splitOn_sendBuff type port h, convertTime_timeText h⟩, ?_⟩
  intro type' port' tm' h'
  refine ⟨tm.seconds, tm'.seconds, nowTime?_sendBuff type port h, nowTime?_sendBuff type' port' h',
    ⟨Timespec.seconds_injective h h', ?_⟩, Timespec.seconds_lt_seconds_iff h h'⟩
  rintro rfl
  rfl

/-- The nanoseconds are printed with their zeros. -/
theorem sendBuff_lossless_zeros :
    ∃ tmStr, (sendBuff 1 4242 ⟨12, 5000⟩).splitOn '|' =
        [decimal (1 : Int32).toInt, decimal (4242 : UInt16).toNat, tmStr] ∧
      convertTime id tmStr = some (.finite (Timespec.seconds ⟨12, 5000⟩)) :=
  (@sendBuff_lossless 1 4242 ⟨12, 5000⟩ (by decide)).1

end Accounting
end ResourceAccounting
