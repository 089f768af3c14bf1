import ResourceAccounting.Python.Rounding
import ResourceAccounting.Streams.Lines

/-!
# Server — the accounting server of measurement.py

`main` accepts one connection after the other, takes one `recv(1024)` from each, and appends a
record to the socket log.  Any exception on the way leaves through two handlers: the first closes
the listening socket, the second stops the measuring thread.

- `handleConnection` — from the received text to the record, `none` for an exception;
- `serve` — the accept loop;
- `Message` — what `send_to_server` of gpsd writes;
- `Prompt` — the messages that the server takes, with the rounding of its floats;
- `served_iff` — the connections that leave the server intact and the log complete.
-/

namespace ResourceAccounting
namespace Accounting

open Python Streams

/-! ## A connection -/

/-- `conn`: the pieces in which its bytes arrive before it is closed. -/
structure Connection where
  pieces : List Text
  deriving DecidableEq, Repr

/-- `conn.recv(1024)`: at most 1024 bytes of the first piece; empty if the peer has closed. -/
def Connection.recv (conn : Connection) : Text :=
  (conn.pieces.headD []).take 1024

/-- Everything that the peer sends. -/
def Connection.delivered (conn : Connection) : Text :=
  conn.pieces.flatten

/-- `recordType, port, tmStr = receiveStr.split("|")` -/
def fields? (receiveStr : Text) : Option (Text × Text × Text) :=
  match receiveStr.splitOn '|' with
  | [recordType, port, tmStr] => some (recordType, port, tmStr)
  | _ => none

section ConvertTime

-- What becomes of the exact value of an operation.
variable (round : PyFloat → PyFloat)

/-- `tm[0] + (tm[1]+0.0)/1000000000` -/
def addTimes (sec nsec : PyFloat) : PyFloat :=
  round (sec.add (round ((round (nsec.add (.finite 0))).divNat 1000000000)))

/-- `convert_time` -/
def convertTime (tmStr : Text) : Option PyFloat := do
  let tmList := tmStr.splitOn '.'
  let sec ← float? (← tmList[0]?)
  -- a fraction that has been cut short counts as so many nanoseconds
  let nsec ← float? (← tmList[1]?)
  some (addTimes round (round sec) (round nsec))

end ConvertTime

section Lsof

-- The output of `lsof -i :port`.
variable (lsof : Text → Text)

/-- The loop over the lines of the output: the first process that is not gpsd or bash. -/
def findProcess : List Text → Option (Text × Text)
  | [] => some ([], [])
  | line :: lines =>
      match split line with
      | tname :: tid :: _ =>
          if tname = "gpsd".toList ∨ tname = "bash".toList then
            findProcess lines
          else
            some (tname, tid)
      -- `tname, tid= cols[:2]` needs two columns
      | _ => none

/-- `getProcessName` -/
def getProcessName (port : Text) : Option (Text × Text) :=
  let lines := splitlines (lsof port)
  if 2 < lines.length then
    findProcess lines.tail
  else
    match lines[1]?.map split with
    | some (processName :: pid :: _) => some (processName, pid)
    | _ => some ([], [])

/-- `saveRecords_socket`: the text it appends. -/
def recordText (strTime recordType process pid : Text) : Text :=
  strTime ++ ' ' :: recordType ++ ' ' :: process ++ ' ' :: pid ++ ['\n']

/-- From `receiveStr` to the record; `reference_time` is 0. -/
def handleConnection (receiveStr : Text) : Option Text := do
  let (recordType, port, tmStr) ← fields? receiveStr
  let (process, pid) ← getProcessName lsof port
  let nowTime ← convertTime PyFloat.round tmStr
  some (recordText ((nowTime.sub (.finite 0)).round.fmt 6) recordType process pid)

/-! ## The accept loop -/

/-- The header that `main` writes, without a line end. -/
def socketHeader : Text :=
  "#time #0-reqest from apps/1-respond from gpsd to the app #app name  #app PID".toList

structure Server where
  /-- The content of the socket log. -/
  log : Text
  /-- `mySocket` is open and the loop runs. -/
  listening : Bool
  /-- `thread_measure` has not been stopped. -/
  measuring : Bool
  deriving DecidableEq, Repr

def Server.init : Server :=
  { log := socketHeader, listening := true, measuring := true }

/-- One turn of the accept loop. -/
def Server.accept (s : Server) (conn : Connection) : Server :=
  if s.listening then
    match handleConnection lsof conn.recv with
    | some r => { s with log := s.log ++ r }
    -- the handler inside the loop closes the socket, the one outside stops the thread
    | none => { s with listening := false, measuring := false }
  else
    s

/-- The connections in the order in which they are accepted. -/
def serve (conns : List Connection) : Server :=
  conns.foldl (Server.accept lsof) Server.init

/-! ## Messages -/

/-- A message of `send_to_server`. -/
structure Message where
  recordType : Nat
  port : Nat
  sec : Nat
  nsec : Nat
  nsec_lt : nsec < 10 ^ 9
  deriving DecidableEq, Repr

namespace Message

/-- The message up to the dot of the time. -/
def front (m : Message) : Text :=
  Nat.toDigits 10 m.recordType ++ '|' :: (Nat.toDigits 10 m.port ++ '|' ::
    (Nat.toDigits 10 m.sec ++ ['.']))

/-- `"%d|%d|%lld.%.9ld"` -/
def text (m : Message) : Text :=
  m.front ++ zeroPad 9 m.nsec

/-- The sent time, in seconds. -/
def time (m : Message) : ℚ :=
  m.sec + m.nsec / 1000000000

/-- The record for the message; none if `getProcessName` fails. -/
def record (m : Message) : Option Text :=
  (getProcessName lsof (Nat.toDigits 10 m.port)).map
    (fun p => recordText (percentF 6 m.time) (Nat.toDigits 10 m.recordType) p.1 p.2)

end Message

/-- The message that a text is, if it is one. -/
def message? (w : Text) : Option Message := do
  let (recordType, port, tmStr) ← fields? w
  match tmStr.splitOn '.' with
  | [sec, nsec] => do
      let recordType ← digits? recordType
      let port ← digits? port
      let sec ← digits? sec
      let nsec ← digits? nsec
      if h : nsec < 10 ^ 9 then
        let m : Message := ⟨recordType, port, sec, nsec, h⟩
        if m.text = w then some m else none
      else
        none
  | _ => none

/-- The record that a connection is to leave. -/
def expectedRecord (conn : Connection) : Option Text :=
  (message? conn.delivered).bind (Message.record lsof)

/-- The server and the measuring thread go on, and the log has received one record for each
connection that delivers a complete message, in accept order, and no other text. -/
def Served (conns : List Connection) : Prop :=
  (serve lsof conns).listening = true ∧ (serve lsof conns).measuring = true ∧
    (serve lsof conns).log = socketHeader ++ (conns.filterMap (expectedRecord lsof)).flatten

instance (conns : List Connection) : Decidable (Served lsof conns) :=
  inferInstanceAs (Decidable (_ ∧ _))

variable {lsof}

/-! ## Splitting a message -/

theorem splitOn_cases (d : Char) (t : Text) :
    (d ∉ t ∧ t.splitOn d = [t]) ∨
      ∃ l r, t = l ++ d :: r ∧ d ∉ l ∧ t.splitOn d = l :: r.splitOn d := by
  by_cases h : d ∈ t
  · rcases List.eq_append_cons_of_mem h with ⟨l, r, rfl, hl⟩
    exact Or.inr ⟨l, r, rfl, hl, List.splitOn_append_cons_self_of_not_mem hl r⟩
  · exact Or.inl ⟨h, List.splitOn_eq_singleton h⟩

theorem fields?_eq_some {w a b c : Text} (h : fields? w = some (a, b, c)) :
    w = a ++ '|' :: (b ++ '|' :: c) ∧ '|' ∉ a ∧ '|' ∉ b := by
  rcases splitOn_cases '|' w with ⟨-, hw⟩ | ⟨l, r, rfl, hl, hw⟩
  · simp [fields?, hw] at h
  · rcases splitOn_cases '|' r with ⟨-, hr⟩ | ⟨l', r', rfl, hl', hr⟩
    · -- two fields only
      simp [fields?, hw, hr] at h
    · rcases splitOn_cases '|' r' with ⟨-, hr'⟩ | ⟨l'', r'', rfl, hl'', hr'⟩
      · simp only [fields?, hw, hr, hr', Option.some.injEq, Prod.mk.injEq] at h
        rcases h with ⟨rfl, rfl, rfl⟩
        exact ⟨rfl, hl, hl'⟩
      · -- a fourth field
        rcases List.exists_cons_of_ne_nil (List.splitOn_ne_nil '|' r'') with ⟨f, fs, hfs⟩
        simp [fields?, hw, hr, hr', hfs] at h

theorem fields?_of_not_mem {a b c : Text} (ha : '|' ∉ a) (hb : '|' ∉ b) (hc : '|' ∉ c) :
    fields? (a ++ '|' :: (b ++ '|' :: c)) = some (a, b, c) := by
  simp only [fields?, List.splitOn_append_cons_self_of_not_mem ha,
    List.splitOn_append_cons_self_of_not_mem hb, List.splitOn_eq_singleton hc]

theorem not_mem_of_isDigit {s : Text} {d : Char} (hs : ∀ c ∈ s, c.isDigit = true)
    (hd : d.isDigit = false) : d ∉ s := by
  intro h
  rw [hs d h] at hd
  cases hd

theorem not_mem_toDigits (n : Nat) {d : Char} (hd : d.isDigit = false) :
    d ∉ Nat.toDigits 10 n :=
  not_mem_of_isDigit (fun _ hc => isDigit_of_mem_toDigits hc) hd

theorem not_mem_zeroPad (w n : Nat) {d : Char} (hd : d.isDigit = false) : d ∉ zeroPad w n :=
  not_mem_of_isDigit (fun _ hc => isDigit_of_mem_zeroPad hc) hd

namespace Message

/-- The time of the message when only these digits of the nanoseconds have been received: the float
that is nearest to the sum of those nearest to the seconds and to the part of a second. -/
def cutTime (m : Message) (digits : Text) : PyFloat :=
  ((PyFloat.finite m.sec).round.add
    (PyFloat.finite ((Nat.ofDigitChars 10 digits 0 : ℚ) / 1000000000)).round).round

theorem fields?_front (m : Message) {digits : Text} (hdigits : ∀ c ∈ digits, c.isDigit = true) :
    fields? (m.front ++ digits) = some (Nat.toDigits 10 m.recordType, Nat.toDigits 10 m.port,
      Nat.toDigits 10 m.sec ++ '.' :: digits) := by
  have htime : '|' ∉ Nat.toDigits 10 m.sec ++ '.' :: digits := by
    have hsec := not_mem_toDigits m.sec (d := '|') (by decide)
    have hnot := not_mem_of_isDigit hdigits (d := '|') (by decide)
    simp [hsec, hnot]
  have hfields := fields?_of_not_mem (not_mem_toDigits m.recordType (d := '|') (by decide))
    (not_mem_toDigits m.port (d := '|') (by decide)) htime
  simpa [front] using hfields

theorem convertTime_digits (round : PyFloat → PyFloat) (m : Message) {digits : Text} (hne : digits ≠ [])
    (hdigits : ∀ c ∈ digits, c.isDigit = true) :
    convertTime round (Nat.toDigits 10 m.sec ++ '.' :: digits) =
      some (addTimes round (round (.finite m.sec))
        (round (.finite (Nat.ofDigitChars 10 digits 0 : ℚ)))) := by
  have hsplit : (Nat.toDigits 10 m.sec ++ '.' :: digits).splitOn '.' =
      [Nat.toDigits 10 m.sec, digits] := by
    rw [List.splitOn_append_cons_self_of_not_mem (not_mem_toDigits m.sec (by decide)),
      List.splitOn_eq_singleton (not_mem_of_isDigit hdigits (by decide))]
  have hsec : float? (Nat.toDigits 10 m.sec) = some (.finite m.sec) := by
    rw [float?_digits Nat.toDigits_ne_nil (fun _ hc => isDigit_of_mem_toDigits hc),
      Nat.ofDigitChars_ten_toDigits]
  have hnsec := float?_digits hne hdigits
  simp [convertTime, hsplit, hsec, hnsec]

/-- Nine digits are few enough for a float. -/
theorem addTimes_digits (m : Message) {digits : Text} (hdigits : ∀ c ∈ digits, c.isDigit = true)
    (hlength : digits.length ≤ 9) :
    addTimes PyFloat.round (PyFloat.finite m.sec).round
      (PyFloat.finite (Nat.ofDigitChars 10 digits 0 : ℚ)).round = m.cutTime digits := by
  have hlt : Nat.ofDigitChars 10 digits 0 < 2 ^ 53 := by
    calc
      Nat.ofDigitChars 10 digits 0 < 10 ^ digits.length := ofDigitChars_lt hdigits
      _ ≤ 10 ^ 9 := Nat.pow_le_pow_right (by decide) hlength
      _ < 2 ^ 53 := by decide
  have hkept := PyFloat.round_natCast hlt
  have hsum : (PyFloat.finite (Nat.ofDigitChars 10 digits 0 : ℚ)).add (.finite 0) =
      .finite (Nat.ofDigitChars 10 digits 0 : ℚ) := by
    rw [PyFloat.add, add_zero]
  rw [addTimes, hkept, hsum, hkept]
  rfl

/-- What has been received up to some digit of the nanoseconds becomes a record. -/
theorem handleConnection_front (m : Message) {digits : Text} (hne : digits ≠ [])
    (hdigits : ∀ c ∈ digits, c.isDigit = true) (hlength : digits.length ≤ 9) :
    handleConnection lsof (m.front ++ digits) =
      (getProcessName lsof (Nat.toDigits 10 m.port)).map (fun p =>
        recordText ((m.cutTime digits).fmt 6) (Nat.toDigits 10 m.recordType) p.1 p.2) := by
  have hfields := m.fields?_front hdigits
  have htime := m.convertTime_digits PyFloat.round hne hdigits
  rw [m.addTimes_digits hdigits hlength] at htime
  have hreference : ((m.cutTime digits).sub (.finite 0)).round = m.cutTime digits := by
    have hkept : (m.cutTime digits).round = m.cutTime digits := PyFloat.round_round _
    rw [PyFloat.sub_zero, hkept]
  cases hprocess : getProcessName lsof (Nat.toDigits 10 m.port) with
  | none => simp [handleConnection, hfields, hprocess]
  | some p => simp [handleConnection, hfields, hprocess, htime, hreference]

theorem isDigit_take_zeroPad (m : Message) (k : Nat) :
    ∀ c ∈ (zeroPad 9 m.nsec).take k, c.isDigit = true :=
  fun _ hc => isDigit_of_mem_zeroPad (List.mem_of_mem_take hc)

/-- What is received of a message without an exception reaches into the nanoseconds. -/
theorem cut_of_handleConnection (m : Message) {received r : Text} (hfront : received <+: m.text)
    (h : handleConnection lsof received = some r) :
    ∃ k, 0 < k ∧ received = m.front ++ (zeroPad 9 m.nsec).take k := by
  simp only [handleConnection, Option.bind_eq_bind, Option.bind_eq_some_iff, Prod.exists] at h
  rcases h with ⟨recordType, port, tmStr, hfields, -, -, -, nowTime, htime, -⟩
  rcases fields?_eq_some hfields with ⟨rfl, htype, hport⟩
  simp only [convertTime, Option.bind_eq_bind, Option.bind_eq_some_iff] at htime
  rcases htime with ⟨-, -, -, -, second, hsecond, nsec, hnsec, -⟩
  rcases hfront with ⟨rest, hrest⟩
  -- the fields are those of the message, one after the other
  have htext : m.text = Nat.toDigits 10 m.recordType ++ '|' :: (Nat.toDigits 10 m.port ++ '|' ::
      (Nat.toDigits 10 m.sec ++ '.' :: zeroPad 9 m.nsec)) := by
    simp [text, front]
  rw [htext, List.append_assoc, List.cons_append] at hrest
  rcases line_unique htype (not_mem_toDigits m.recordType (by decide)) hrest with ⟨rfl, hrestPort⟩
  rw [List.append_assoc, List.cons_append] at hrestPort
  rcases line_unique hport (not_mem_toDigits m.port (by decide)) hrestPort with ⟨rfl, hrestTime⟩
  rcases splitOn_cases '.' tmStr with ⟨-, hsplit⟩ | ⟨sec, digits, rfl, hsec, hsplit⟩
  · simp [hsplit] at hsecond
  · rw [List.append_assoc, List.cons_append] at hrestTime
    rcases line_unique hsec (not_mem_toDigits m.sec (by decide)) hrestTime with ⟨rfl, hrestDigits⟩
    have hdigits : digits = (zeroPad 9 m.nsec).take digits.length := by
      rw [← hrestDigits, List.take_left]
    have hnot : '.' ∉ digits := fun hmem => not_mem_zeroPad 9 m.nsec (d := '.') (by decide)
      (List.mem_of_mem_take (hdigits ▸ hmem))
    rw [hsplit, List.splitOn_eq_singleton hnot] at hsecond
    have hsecond : digits = second := by simpa using hsecond
    refine ⟨digits.length, ?_, ?_⟩
    · -- `float('')` raises
      refine List.length_pos_iff.2 fun hnil => ?_
      have hempty : float? [] = none := by decide
      rw [← hsecond, hnil, hempty] at hnsec
      cases hnsec
    · rw [← hdigits]
      simp [front]

end Message

/-! ## Recognising a message -/

theorem message?_text (m : Message) : message? m.text = some m := by
  have hdigits : ∀ c ∈ zeroPad 9 m.nsec, c.isDigit = true := fun _ hc => isDigit_of_mem_zeroPad hc
  have hfields := m.fields?_front hdigits
  have hsplit : (Nat.toDigits 10 m.sec ++ '.' :: zeroPad 9 m.nsec).splitOn '.' =
      [Nat.toDigits 10 m.sec, zeroPad 9 m.nsec] := by
    rw [List.splitOn_append_cons_self_of_not_mem (not_mem_toDigits m.sec (by decide)),
      List.splitOn_eq_singleton (not_mem_zeroPad 9 m.nsec (by decide))]
  have hnsec : digits? (zeroPad 9 m.nsec) = some m.nsec := by
    have hall : (zeroPad 9 m.nsec).all Char.isDigit = true :=
      List.all_eq_true.2 fun c hc => isDigit_of_mem_zeroPad hc
    have hne : zeroPad 9 m.nsec ≠ [] := by
      refine List.ne_nil_of_length_pos ?_
      rw [length_zeroPad (by decide) m.nsec_lt]
      decide
    simp [digits?, hall, hne, ofDigitChars_zeroPad]
  simp only [message?, Message.text, hfields, Option.bind_eq_bind, Option.bind_some, hsplit,
    digits?_toDigits, hnsec, m.nsec_lt, dif_pos, if_true]

theorem text_of_message? {w : Text} {m : Message} (h : message? w = some m) : m.text = w := by
  simp only [message?, Option.bind_eq_bind, Option.bind_eq_some_iff, Prod.exists] at h
  rcases h with ⟨recordType, port, tmStr, -, h⟩
  split at h
  · simp only [Option.bind_eq_some_iff] at h
    rcases h with ⟨recordType, -, port, -, sec, -, nsec, -, h⟩
    split at h
    · split at h
      · rename_i htext
        cases h
        exact htext
      · cases h
    · cases h
  · cases h

/-! ## Runs of the server -/

theorem accept_of_some {s : Server} {conn : Connection} {r : Text} (hs : s.listening = true)
    (h : handleConnection lsof conn.recv = some r) :
    s.accept lsof conn = { s with log := s.log ++ r } := by
  simp [Server.accept, hs, h]

theorem accept_of_none {s : Server} {conn : Connection}
    (h : handleConnection lsof conn.recv = none) : (s.accept lsof conn).listening = false := by
  cases hs : s.listening with
  | true => simp [Server.accept, hs, h]
  | false => simp [Server.accept, hs]

/-- Once the listening socket is closed it stays closed. -/
theorem listening_foldl_accept (conns : List Connection) {s : Server}
    (h : (conns.foldl (Server.accept lsof) s).listening = true) :
    s.listening = true ∧ ∀ conn ∈ conns, (handleConnection lsof conn.recv).isSome = true := by
  induction conns generalizing s with
  | nil => exact ⟨h, by simp⟩
  | cons conn conns ih =>
      rcases ih h with ⟨hstep, hrest⟩
      cases hhandle : handleConnection lsof conn.recv with
      | none =>
          rw [accept_of_none hhandle] at hstep
          cases hstep
      | some r =>
          have hs : s.listening = true := by
            by_contra hs
            simp [Server.accept, hs] at hstep
          exact ⟨hs, by simpa [hhandle] using hrest⟩

theorem foldl_accept (conns : List Connection) {s : Server} (hs : s.listening = true)
    (h : ∀ conn ∈ conns, (handleConnection lsof conn.recv).isSome = true) :
    conns.foldl (Server.accept lsof) s = { s with
      log := s.log ++ (conns.filterMap (fun conn => handleConnection lsof conn.recv)).flatten } := by
  induction conns generalizing s with
  | nil => simp
  | cons conn conns ih =>
      rcases Option.isSome_iff_exists.1 (h conn List.mem_cons_self) with ⟨r, hr⟩
      have hrest := fun c hc => h c (List.mem_cons_of_mem conn hc)
      rw [List.foldl_cons, accept_of_some hs hr,
        ih (s := { s with log := s.log ++ r }) hs hrest]
      simp [hr]

theorem eq_of_filterMap_eq {α β : Type*} {f g : α → Option β} {l : List α}
    (hf : ∀ a ∈ l, (f a).isSome = true) (h : l.filterMap f = l.filterMap g) :
    ∀ a ∈ l, f a = g a := by
  have hlength : (l.filterMap g).length = l.length := by
    rw [← h]
    exact List.filterMap_length_eq_length.2 hf
  have hg := List.filterMap_length_eq_length.1 hlength
  clear hlength
  induction l with
  | nil => simp
  | cons a l ih =>
      rcases Option.isSome_iff_exists.1 (hf a List.mem_cons_self) with ⟨b, hb⟩
      rcases Option.isSome_iff_exists.1 (hg a List.mem_cons_self) with ⟨c, hc⟩
      rw [List.filterMap_cons_some hb, List.filterMap_cons_some hc] at h
      have hparts := List.cons.inj h
      intro x hx
      rcases List.mem_cons.1 hx with rfl | hx
      · rw [hb, hc, hparts.1]
      · exact ih (fun y hy => hf y (List.mem_cons_of_mem _ hy)) hparts.2
          (fun y hy => hg y (List.mem_cons_of_mem _ hy)) x hx

/-! ## Records -/

theorem exists_of_handleConnection {receiveStr r : Text} (h : handleConnection lsof receiveStr = some r) :
    ∃ w, r = w ++ ['\n'] := by
  simp only [handleConnection, Option.bind_eq_bind, Option.bind_eq_some_iff, Prod.exists,
    Option.some.injEq, recordText] at h
  rcases h with ⟨recordType, port, tmStr, -, process, pid, -, nowTime, -, rfl⟩
  exact ⟨_, rfl⟩

/-- The words of `lsof` are in the record, or nothing. -/
theorem isWord_of_getProcessName {port : Text} {p : Text × Text}
    (h : getProcessName lsof port = some p) : IsWord p.1 ∧ IsWord p.2 := by
  have hcols : ∀ {line tname tid : Text} {cols : List Text}, split line = tname :: tid :: cols →
      IsWord tname ∧ IsWord tid := by
    intro line tname tid cols hsplit
    exact ⟨isWord_of_mem_split (s := line) (by simp [hsplit]),
      isWord_of_mem_split (s := line) (by simp [hsplit])⟩
  have hempty : IsWord ([] : Text) := by decide
  have hfind : ∀ {lines : List Text}, findProcess lines = some p → IsWord p.1 ∧ IsWord p.2 := by
    intro lines hlines
    induction lines with
    | nil =>
        cases hlines
        exact ⟨hempty, hempty⟩
    | cons line lines ih =>
        rw [findProcess] at hlines
        split at hlines
        · next hsplit =>
            split at hlines
            · exact ih hlines
            · cases hlines
              exact hcols hsplit
        · cases hlines
  unfold getProcessName at h
  dsimp only at h
  split at h
  · exact hfind h
  · -- a single line
    split at h
    · next hsplit =>
        cases h
        rcases Option.map_eq_some_iff.1 hsplit with ⟨line, -, hline⟩
        exact hcols hline
    · cases h
      exact ⟨hempty, hempty⟩

theorem isLine_of_expectedRecord {conn : Connection} {r : Text}
    (h : expectedRecord lsof conn = some r) : IsLine r := by
  rcases Option.bind_eq_some_iff.1 h with ⟨m, -, hrecord⟩
  rcases Option.map_eq_some_iff.1 hrecord with ⟨p, hp, rfl⟩
  rcases isWord_of_getProcessName hp with ⟨hprocess, hpid⟩
  refine ⟨percentF 6 m.time ++ ' ' :: Nat.toDigits 10 m.recordType ++ ' ' :: p.1 ++ ' ' :: p.2,
    by simp [recordText], ?_⟩
  have htime := (isWord_percentF 6 m.time).newline_not_mem
  have htype := (isWord_toDigits m.recordType).newline_not_mem
  simp [htime, htype, hprocess.newline_not_mem, hpid.newline_not_mem]

theorem served_iff_forall (conns : List Connection) :
    Served lsof conns ↔ ∀ conn ∈ conns, (handleConnection lsof conn.recv).isSome = true ∧
      handleConnection lsof conn.recv = expectedRecord lsof conn := by
  constructor
  · -- a socket that is still open has seen no exception
    rintro ⟨hlistening, -, hlog⟩
    have hall := (listening_foldl_accept conns hlistening).2
    rw [serve, foldl_accept conns rfl hall] at hlog
    have htexts := List.append_cancel_left hlog
    have hclosed : ∀ r ∈ conns.filterMap (fun conn => handleConnection lsof conn.recv),
        ∃ w, r = w ++ ['\n'] := by
      intro r hr
      rcases List.mem_filterMap.1 hr with ⟨conn, -, hhandle⟩
      exact exists_of_handleConnection hhandle
    have hlines : ∀ r ∈ conns.filterMap (expectedRecord lsof), IsLine r := by
      intro r hr
      rcases List.mem_filterMap.1 hr with ⟨conn, -, hexpected⟩
      exact isLine_of_expectedRecord hexpected
    -- every connection has left a text, so no fewer than there are records
    have hlength : (conns.filterMap (expectedRecord lsof)).length ≤
        (conns.filterMap (fun conn => handleConnection lsof conn.recv)).length := by
      rw [List.filterMap_length_eq_length.2 hall]
      exact List.length_filterMap_le _ _
    have heq := eq_of_filterMap_eq hall (eq_of_flatten_eq hclosed hlines hlength htexts)
    exact fun conn hconn => ⟨hall conn hconn, heq conn hconn⟩
  · intro h
    have hserve := foldl_accept (s := Server.init) conns rfl fun conn hconn => (h conn hconn).1
    have hcongr := List.filterMap_congr fun conn hconn => (h conn hconn).2
    rw [Served, serve, hserve, hcongr]
    exact ⟨rfl, rfl, rfl⟩

theorem recv_prefix_delivered (conn : Connection) : conn.recv <+: conn.delivered := by
  rcases conn with ⟨pieces⟩
  cases pieces with
  | nil => exact List.nil_prefix
  | cons piece pieces => exact (List.take_prefix _ _).trans (List.prefix_append _ _)

/-- The first `recv` gives the message up to some digit of the nanoseconds with which the float of the
time has the six decimals of the sent time, and `getProcessName` does not fail. -/
def Prompt (lsof : Text → Text) (conn : Connection) (m : Message) : Prop :=
  (∃ k, 0 < k ∧ conn.recv = m.front ++ (zeroPad 9 m.nsec).take k ∧
    (m.cutTime ((zeroPad 9 m.nsec).take k)).fmt 6 = percentF 6 m.time) ∧
  (getProcessName lsof (Nat.toDigits 10 m.port)).isSome = true

theorem take_zeroPad_ne_nil (m : Message) {k : Nat} (hk : 0 < k) :
    (zeroPad 9 m.nsec).take k ≠ [] := by
  refine List.ne_nil_of_length_pos ?_
  rw [List.length_take, length_zeroPad (by decide) m.nsec_lt]
  omega

theorem length_take_zeroPad_le (m : Message) (k : Nat) : ((zeroPad 9 m.nsec).take k).length ≤ 9 := by
  rw [List.length_take, length_zeroPad (by decide) m.nsec_lt]
  omega

theorem handleConnection_eq_expectedRecord_iff (conn : Connection) :
    ((handleConnection lsof conn.recv).isSome = true ∧
      handleConnection lsof conn.recv = expectedRecord lsof conn) ↔
      ∃ m : Message, conn.delivered = m.text ∧ Prompt lsof conn m := by
  constructor
  · rintro ⟨hsome, heq⟩
    rcases Option.isSome_iff_exists.1 hsome with ⟨r, hr⟩
    rw [hr, expectedRecord] at heq
    rcases Option.bind_eq_some_iff.1 heq.symm with ⟨m, hm, hrecord⟩
    have htext : conn.delivered = m.text := (text_of_message? hm).symm
    have hfront : conn.recv <+: m.text := htext ▸ recv_prefix_delivered conn
    rcases m.cut_of_handleConnection hfront hr with ⟨k, hk, hrecv⟩
    rw [hrecv, m.handleConnection_front (take_zeroPad_ne_nil m hk) (m.isDigit_take_zeroPad k)
      (length_take_zeroPad_le m k)] at hr
    rcases Option.map_eq_some_iff.1 hr with ⟨p, hp, hrp⟩
    rcases Option.map_eq_some_iff.1 hrecord with ⟨q, hq, hrq⟩
    have hpq : p = q := Option.some_inj.1 (hp.symm.trans hq)
    subst hpq
    refine ⟨m, htext, ⟨k, hk, hrecv, ?_⟩, by rw [hp]; rfl⟩
    -- the records differ in the time at most
    have hrecords := hrp.trans hrq.symm
    simpa [recordText] using hrecords
  · rintro ⟨m, htext, ⟨k, hk, hrecv, htime⟩, hprocess⟩
    rcases Option.isSome_iff_exists.1 hprocess with ⟨p, hp⟩
    have hhandle : handleConnection lsof (m.front ++ (zeroPad 9 m.nsec).take k) = _ :=
      m.handleConnection_front (take_zeroPad_ne_nil m hk) (m.isDigit_take_zeroPad k)
        (length_take_zeroPad_le m k)
    have hexpected : expectedRecord lsof conn = m.record lsof := by
      rw [expectedRecord, htext, message?_text, Option.bind_some]
    rw [hrecv, hhandle, hexpected, Message.record, hp, htime]
    exact ⟨rfl, rfl⟩

/-- The server goes on and logs every message, and nothing else, if and only if every connection
delivers a complete message and delivers it promptly. -/
theorem served_iff (conns : List Connection) :
    Served lsof conns ↔
      ∀ conn ∈ conns, ∃ m : Message, conn.delivered = m.text ∧ Prompt lsof conn m := by
  rw [served_iff_forall]
  exact forall_congr' fun conn =>
    forall_congr' fun _ => handleConnection_eq_expectedRecord_iff conn

/-- Whether a time is rounded up to the microsecond does not depend on less than a nanosecond. -/
theorem percentF_eq_time {m : Message} {q : ℚ} (hq : 0 ≤ q) (hnsec : m.nsec % 1000 ≠ 500)
    (h : |q - m.time| < 1 / 10 ^ 9) : percentF 6 q = percentF 6 m.time := by
  have htime : 0 ≤ m.time := by
    rw [Message.time]
    positivity
  -- the microseconds that are nearest, and what is left of the nanoseconds
  have hdivmod := Nat.div_add_mod (m.sec * 10 ^ 9 + m.nsec + 500) 1000
  have hrest : 0 < (m.sec * 10 ^ 9 + m.nsec + 500) % 1000 := by omega
  have hrest' : (m.sec * 10 ^ 9 + m.nsec + 500) % 1000 ≤ 999 := by omega
  generalize (m.sec * 10 ^ 9 + m.nsec + 500) / 1000 = micros at hdivmod
  generalize (m.sec * 10 ^ 9 + m.nsec + 500) % 1000 = rest at hdivmod hrest hrest'
  have hscaled : m.time * 10 ^ 6 - micros = (rest - 500) / 1000 := by
    have hcast : (1000 * micros + rest : ℚ) = m.sec * 10 ^ 9 + m.nsec + 500 := by
      exact_mod_cast hdivmod
    rw [Message.time]
    linarith
  have hlow : (1 : ℚ) ≤ rest := by exact_mod_cast hrest
  have hhigh : (rest : ℚ) ≤ 999 := by exact_mod_cast hrest'
  have hnear : ∀ {p : ℚ}, 0 ≤ p → |p - m.time| < 1 / 10 ^ 9 → percentF 6 p = fixedDigits 6 micros := by
    intro p hp hclose
    rw [abs_lt] at hclose
    have hround : roundHalfEven (p * 10 ^ 6) = micros := by
      refine roundHalfEven_eq (mul_nonneg hp (by norm_num)) ?_
      rw [abs_lt]
      constructor <;> linarith
    rw [percentF, if_neg (not_lt.2 hp), abs_of_nonneg hp, hround, List.nil_append]
  rw [hnear hq h, hnear htime (by rw [sub_self, abs_zero]; norm_num)]

/-- In the first 97 days of a clock the six decimals of a time are those of its float, unless the next
three digits are 500. -/
theorem fmt_cutTime {m : Message} (hsec : m.sec < 2 ^ 23) (hnsec : m.nsec % 1000 ≠ 500) :
    (m.cutTime (zeroPad 9 m.nsec)).fmt 6 = percentF 6 m.time := by
  have hpart : (0 : ℚ) ≤ m.nsec / 1000000000 ∧ (m.nsec : ℚ) / 1000000000 < 2 ^ (0 : Int) := by
    refine ⟨by positivity, ?_⟩
    rw [zpow_zero, div_lt_one (by norm_num)]
    exact_mod_cast m.nsec_lt
  have htime : m.time = m.sec + (m.nsec : ℚ) / 1000000000 := rfl
  have hcut : m.cutTime (zeroPad 9 m.nsec) = ((PyFloat.finite m.sec).round.add
      (PyFloat.finite ((m.nsec : ℚ) / 1000000000)).round).round := by
    rw [Message.cutTime, ofDigitChars_zeroPad]
  -- the part of a second
  have hfirst := abs_le.1 (abs_roundDouble_sub_le_of_lt hpart.1 hpart.2 (by decide))
  have hpart_nonneg := roundDouble_nonneg hpart.1
  generalize (m.nsec : ℚ) / 1000000000 = part at *
  rw [zpow_zero] at hpart
  have hpart_le : roundDouble part ≤ 2 := by
    norm_num at hfirst
    linarith
  -- the sum
  have hsec' : (m.sec : ℚ) + 1 ≤ 2 ^ 23 := by exact_mod_cast hsec
  have hsum : (0 : ℚ) ≤ m.sec + roundDouble part ∧ m.sec + roundDouble part < 2 ^ (24 : Int) := by
    refine ⟨by positivity, ?_⟩
    norm_num at hsec' ⊢
    linarith
  have hsecond := abs_le.1 (abs_roundDouble_sub_le_of_lt hsum.1 hsum.2 (by decide))
  have hfloat : m.cutTime (zeroPad 9 m.nsec) = .finite (roundDouble (m.sec + roundDouble part)) := by
    have hbound : m.sec + roundDouble part ≤ ((2 ^ 24 : Nat) : ℚ) := by exact_mod_cast hsum.2.le
    rw [hcut, PyFloat.round_natCast (by omega), PyFloat.round_finite_of_le (n := 1) hpart.1
      (by simpa using hpart.2.le) (by decide), PyFloat.add,
      PyFloat.round_finite_of_le hsum.1 hbound (by decide)]
  rw [hfloat]
  refine percentF_eq_time (roundDouble_nonneg hsum.1) hnsec ?_
  rw [htime, abs_lt]
  norm_num at hfirst hsecond ⊢
  constructor <;> linarith

/-- A message that arrives in one piece is served, if `getProcessName` finds its process. -/
theorem prompt_of_onePiece {conn : Connection} {m : Message} (hpieces : conn.pieces = [m.text])
    (hlength : m.text.length ≤ 1024) (hsec : m.sec < 2 ^ 23) (hnsec : m.nsec % 1000 ≠ 500)
    (hprocess : (getProcessName lsof (Nat.toDigits 10 m.port)).isSome = true) :
    conn.delivered = m.text ∧ Prompt lsof conn m := by
  have hpad : (zeroPad 9 m.nsec).take 9 = zeroPad 9 m.nsec :=
    List.take_of_length_le (length_zeroPad (by decide) m.nsec_lt).le
  refine ⟨by simp [Connection.delivered, hpieces], ⟨9, by decide, ?_, ?_⟩, hprocess⟩
  · have hrecv : conn.recv = m.text := by
      rw [Connection.recv, hpieces]
      exact List.take_of_length_le hlength
    rw [hpad, hrecv]
    rfl
  · rw [hpad]
    exact fmt_cutTime hsec hnsec

/-- A message whose last five digits arrive late: the time is logged without them. -/
theorem exists_not_served :
    ¬ ∀ (lsof : Text → Text) (conns : List Connection), Served lsof conns := by
  intro h
  exact absurd (h (fun _ => []) [⟨["0|4242|12.5000".toList, "00000".toList]⟩]) (by decide +kernel)

end Lsof

end Accounting
end ResourceAccounting
