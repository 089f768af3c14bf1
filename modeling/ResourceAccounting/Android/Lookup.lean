import ResourceAccounting.C.Memory
import ResourceAccounting.EventLog.PrintDevs

/-!
# Lookup — the native code of the Android application reads process names

`get_name_from_pid` of helper.c reads a name from a file of /proc into a buffer of 100 bytes and
copies it to a block of its own.  `getReading` and `getProcessName` of resource_usage.c copy it once
more, for the Java side.

- `getNameFromPid` — the name of a process, or NULL;
- `copyName` — the copy that both callers make;
- `getReading`, `getProcessName` — the callers;
- `not_staysInside` — for no outcome of `open` and `read` are all accesses in range.
-/

namespace ResourceAccounting
namespace Android

open Python C EventLog

/-! ## The native functions -/

/-- What `open` and then `read(fd,name,100)` give for a file. -/
inductive ProcFile
  /-- `open` fails. -/
  | missing
  /-- `read` returns -1. -/
  | unreadable
  | delivers (bytes : List UInt8) (length_le : bytes.length ≤ 100)
  deriving DecidableEq, Repr

/-- The bytes of an ASCII text. -/
def bytesOf (t : Text) : List UInt8 :=
  t.map (fun c => UInt8.ofNat c.toNat)

/-- `NewStringUTF`, of ASCII bytes. -/
def newStringUTF (b : Block) : Except Fault Text := do
  let bytes ← loadString b
  .ok (bytes.map (fun v => Char.ofNat v.toNat))

/-- `int n = sprintf(buf, …); buf[n]='\0'`, for a buffer of `size` bytes. -/
def sprintf (size : Nat) (t : Text) : Except Fault Block := do
  let buf ← storeAll (malloc size) 0 (bytesOf t ++ [0])
  store buf t.length 0

/-- `"%s%d//comm"` -/
def commPath (dir : Text) (pid : BitVec 32) : Text :=
  dir ++ (decimal pid.toInt ++ "//comm".toList)

/-- `"//proc//%d//task//"` -/
def taskDir (pid_system_server : BitVec 32) : Text :=
  "//proc//".toList ++ (decimal pid_system_server.toInt ++ "//task//".toList)

/-- What `get_name_from_pid` does after `len = read(fd,name,100)`. -/
def copyOut (name : Block) (len : Int) : Except Fault (Option Block) :=
  if len = 0 then
    .ok none
  else do
    let name ← store name (len - 1) 0
    let pres ← strcpy (malloc len.toNat) name
    .ok (some pres)

section Proc

-- The files of /proc.
variable (proc : Text → ProcFile)

/-- `get_name_from_pid` -/
def getNameFromPid (dir : Text) (pid : BitVec 32) : Except Fault (Option Block) := do
  let _file_path ← sprintf 100 (commPath dir pid)
  match proc (commPath dir pid) with
  | .missing => .ok none
  | .unreadable => copyOut (malloc 100) (-1)
  | .delivers bytes _ => copyOut (bytes.map some ++ malloc (100 - bytes.length)) bytes.length

/-- `for(j=0;j<len_pname;j++){ temp[j]=*pname; pname++; }`, with `n` turns to go. -/
def copyLoop (pname : Block) : Nat → Nat → Block → Except Fault Block
  | 0, _, temp => .ok temp
  | n + 1, j, temp => do
      let c ← load pname j
      let temp ← store temp j c
      copyLoop pname n (j + 1) temp

/-- From `temp = malloc(len_pname*sizeof(char))` to `temp[j] = '\0'`.  `bzero` gets the size of the
pointer. -/
def copyName (sizeofPointer : Nat) (pname : Block) (len_pname : Nat) : Except Fault Block := do
  let temp ← bzero (malloc len_pname) sizeofPointer
  let temp ← copyLoop pname len_pname 0 temp
  store temp len_pname 0

/-- A row of the table that the application shows. -/
structure OutputTableRow where
  minor : Nat
  log_name : Text
  time1 : Text
  log_event_generated_count : BitVec 64
  log_event_dropped_count : BitVec 64
  processName : Text
  log_event_consumed_count : BitVec 64
  time2 : Text
  deriving DecidableEq, Repr

/-- `log.event_consumed[i]`; `i` stays 0. -/
def firstConsumer {w : Nat} (log : UserEventLog w) : ConsumeEventCounts w :=
  log.event_consumed.get ⟨0, by decide⟩

variable (sizeofPointer : Nat)

/-- `getReading`, from the log that `ioctl` has given on. -/
def getReading {w : Nat} (pid_system_server : BitVec 32) (log : UserEventLog w) :
    Except Fault OutputTableRow := do
  let _dir ← sprintf 100 (taskDir pid_system_server)
  let found ← getNameFromPid proc (taskDir pid_system_server) (firstConsumer log).pid
  -- `strlen` comes before the comparison with NULL
  let pname ← deref found
  let len_pname ← strlen pname
  let temp ← copyName sizeofPointer pname len_pname
  let jpname ← newStringUTF temp
  .ok {
    minor := 0
    log_name := log.name
    time1 := snprintf 20 log.dev_opened_time.text
    log_event_generated_count := log.event_generated.count.setWidth 64
    log_event_dropped_count := log.event_dropped.count.setWidth 64
    processName := jpname
    log_event_consumed_count := (firstConsumer log).counts.count.setWidth 64
    time2 := snprintf 20 log.avg.text }

/-- `getProcessName` -/
def getProcessName (pid : BitVec 32) : Except Fault (Option Text) := do
  match ← getNameFromPid proc "//proc//".toList pid with
  | none => .ok none
  | some pname =>
      let len_pname ← strlen pname
      let temp ← copyName sizeofPointer pname len_pname
      let jpname ← newStringUTF temp
      .ok (some jpname)

/-- No access of `getReading` or `getProcessName`, or of the lookup that they call, is out of
range, and neither uses a NULL name. -/
def StaysInside {w : Nat} (pid_system_server : BitVec 32) (log : UserEventLog w) (pid : BitVec 32) :
    Prop :=
  (∃ row, getReading proc sizeofPointer pid_system_server log = .ok row) ∧
    ∃ name, getProcessName proc sizeofPointer pid = .ok name

end Proc

/-! ## The path -/

theorem length_bytesOf (t : Text) : (bytesOf t).length = t.length :=
  List.length_map _

theorem exists_sprintf {size : Nat} {t : Text} (h : t.length < size) :
    ∃ buf, sprintf size t = .ok buf := by
  rcases @exists_storeAll (malloc size) (bytesOf t ++ [0])
    (by rw [length_malloc, List.length_append, length_bytesOf]; exact h) with ⟨buf, hbuf, hlength⟩
  rw [length_malloc] at hlength
  exact ⟨_, by rw [sprintf, hbuf, ok_bind, store_of_lt (by omega)]⟩

/-- A number of 32 bits takes eleven characters at most. -/
theorem length_decimal_toInt_le (n : BitVec 32) : (decimal n.toInt).length ≤ 11 := by
  have hlt := n.toInt_lt
  have hle := n.le_toInt
  exact length_decimal_le (by decide) (by omega)

theorem length_commPath_le (dir : Text) (pid : BitVec 32) :
    (commPath dir pid).length ≤ dir.length + 17 := by
  have hpid := length_decimal_toInt_le pid
  have hcomm : "//comm".toList.length = 6 := rfl
  rw [commPath, List.length_append, List.length_append, hcomm]
  omega

theorem length_taskDir (pid_system_server : BitVec 32) :
    (taskDir pid_system_server).length = 8 + ((decimal pid_system_server.toInt).length + 8) := by
  unfold taskDir
  -- the number is long to evaluate
  generalize decimal pid_system_server.toInt = digits
  have hproc : "//proc//".toList.length = 8 := rfl
  have htask : "//task//".toList.length = 8 := rfl
  rw [List.length_append, List.length_append, hproc, htask]

theorem length_taskDir_le (pid_system_server : BitVec 32) :
    (taskDir pid_system_server).length ≤ 27 := by
  have hlength := length_taskDir pid_system_server
  have hpid := length_decimal_toInt_le pid_system_server
  omega

/-! ## The lookup -/

/-- -1 for the length: the terminator goes two bytes before the buffer. -/
theorem copyOut_neg_one (name : Block) :
    copyOut name (-1) = .error (.outOfRange name.length (-2)) := by
  have hstore := store_of_neg (b := name) (i := -2) (by decide) 0
  simp [copyOut, hstore]

/-- A name as `get_name_from_pid` leaves it: some bytes and a terminator. -/
def IsName (pres : Block) : Prop :=
  ∃ (s : List UInt8) (rest : Block), pres = s.map some ++ some 0 :: rest ∧ 0 ∉ s

theorem copyOut_succ {name name' pres : Block} {n : Nat} (hstore : store name n 0 = .ok name')
    (hcopy : strcpy (malloc (n + 1)) name' = .ok pres) :
    copyOut name ((n + 1 : Nat) : Int) = .ok (some pres) := by
  have hne : ((n + 1 : Nat) : Int) ≠ 0 := by omega
  have hindex : ((n + 1 : Nat) : Int) - 1 = n := by omega
  rw [copyOut, if_neg hne, hindex, hstore, ok_bind, Int.toNat_natCast, hcopy]
  rfl

/-- The last byte that has been read makes room for the terminator. -/
theorem copyOut_concat (bytes : List UInt8) (last : UInt8) (free : Block) :
    ∃ pres, copyOut ((bytes ++ [last]).map some ++ free) (bytes ++ [last]).length =
      .ok (some pres) ∧ IsName pres := by
  have hstore : store ((bytes ++ [last]).map some ++ free) bytes.length 0 =
      .ok ((bytes ++ [0]).map some ++ free) := by
    have happend := set_append_cons (bytes.map some) 0 (some last) free
    rw [List.length_map] at happend
    rw [store_of_lt (by simp)]
    simp [happend]
  have hmem : (0 : UInt8) ∈ bytes ++ [0] := by simp
  rcases exists_loadString hmem free with ⟨s, hload, hlength, hs⟩
  have hroom : s.length < (malloc (bytes.length + 1)).length := by
    simpa [length_malloc] using hlength
  have hcopy := strcpy_of_loadString hload hroom
  rw [List.length_append, List.length_singleton]
  exact ⟨_, copyOut_succ hstore hcopy, s, _, rfl, hs⟩

section Proc

variable {proc : Text → ProcFile} {dir : Text} {pid : BitVec 32}

/-- What the path buffer takes does not change the lookup. -/
theorem getNameFromPid_eq (hdir : dir.length ≤ 80) :
    getNameFromPid proc dir pid = match proc (commPath dir pid) with
      | .missing => .ok none
      | .unreadable => copyOut (malloc 100) (-1)
      | .delivers bytes _ =>
          copyOut (bytes.map some ++ malloc (100 - bytes.length)) bytes.length := by
  have hpath := length_commPath_le dir pid
  rcases exists_sprintf (t := commPath dir pid) (show _ < 100 by omega) with ⟨buf, hbuf⟩
  rw [getNameFromPid, hbuf]
  rfl

/-- The file has no name: it cannot be opened, or is empty. -/
def ProcFile.Nameless : ProcFile → Prop
  | .missing => True
  | .unreadable => False
  | .delivers bytes _ => bytes = []

/-- The lookup: an access before the buffer, NULL, or a name. -/
theorem getNameFromPid_cases (proc : Text → ProcFile) (hdir : dir.length ≤ 80) (pid : BitVec 32) :
    (proc (commPath dir pid) = .unreadable ∧
        getNameFromPid proc dir pid = .error (.outOfRange 100 (-2))) ∨
      ((proc (commPath dir pid)).Nameless ∧ getNameFromPid proc dir pid = .ok none) ∨
      (¬ (proc (commPath dir pid)).Nameless ∧
        ∃ pres, getNameFromPid proc dir pid = .ok (some pres) ∧ IsName pres) := by
  rw [getNameFromPid_eq hdir]
  cases proc (commPath dir pid) with
  | missing => exact Or.inr (Or.inl ⟨trivial, rfl⟩)
  | unreadable => exact Or.inl ⟨rfl, copyOut_neg_one _⟩
  | delivers bytes _ =>
      rcases List.eq_nil_or_concat' bytes with rfl | ⟨front, last, rfl⟩
      · exact Or.inr (Or.inl ⟨rfl, rfl⟩)
      · exact Or.inr (Or.inr ⟨by simp [ProcFile.Nameless], copyOut_concat front last _⟩)

end Proc

/-! ## The copy -/

/-- The loop stores the bytes of the name one after the other. -/
theorem copyLoop_eq_storeAll {s : List UInt8} (rest : Block) {n j : Nat} (h : j + n = s.length)
    (temp : Block) : copyLoop (s.map some ++ rest) n j temp = storeAll temp j (s.drop j) := by
  induction n generalizing j temp with
  | zero =>
      rw [List.drop_of_length_le (by omega)]
      rfl
  | succ n ih =>
      have hj : j < s.length := by omega
      have hload : load (s.map some ++ rest) j = .ok s[j] := by
        simp [load, List.getElem?_append_left, hj]
      rw [copyLoop, hload, List.drop_eq_getElem_cons hj, storeAll, ok_bind]
      cases store temp j s[j] with
      | error fault => rfl
      | ok temp => exact ih (by omega) temp

/-- The block has no room for the terminator. -/
theorem copyName_eq_error (sizeofPointer : Nat) (s : List UInt8) (rest : Block) :
    copyName sizeofPointer (s.map some ++ rest) s.length =
      .error (.outOfRange s.length s.length) := by
  by_cases hsize : sizeofPointer ≤ s.length
  · -- everything but the terminator fits
    rcases @exists_storeAll (malloc s.length) (List.replicate sizeofPointer 0)
      (by rwa [length_malloc, List.length_replicate]) with ⟨cleared, hzero, hcleared⟩
    rw [length_malloc] at hcleared
    rcases exists_storeAll (b := cleared) hcleared.ge with ⟨temp, hcopy, htemp⟩
    rw [hcleared] at htemp
    rw [copyName, bzero, hzero, ok_bind, copyLoop_eq_storeAll rest (Nat.zero_add _), List.drop_zero,
      hcopy, ok_bind, store_of_le htemp.le, htemp]
  · -- `bzero` writes the size of the pointer, whatever the size of the block
    have hzero := @storeAll_of_lt (malloc s.length) 0 (List.replicate sizeofPointer 0)
      (Nat.zero_le _) (by simp [length_malloc]; omega)
    rw [length_malloc] at hzero
    rw [copyName, bzero, hzero]
    rfl

/-! ## The callers -/

section Proc

variable {proc : Text → ProcFile}

theorem strlen_of_isName {s : List UInt8} (hs : 0 ∉ s) (rest : Block) :
    strlen (s.map some ++ some 0 :: rest) = .ok s.length := by
  rw [strlen, loadString_map_append hs]
  rfl

/-- `getProcessName` goes well only where there is no name to return. -/
theorem exists_getProcessName_iff (sizeofPointer : Nat) (pid : BitVec 32) :
    (∃ name, getProcessName proc sizeofPointer pid = .ok name) ↔
      (proc (commPath "//proc//".toList pid)).Nameless := by
  have hdir : "//proc//".toList.length ≤ 80 := by decide
  rcases getNameFromPid_cases proc hdir pid with
    ⟨hread, hlookup⟩ | ⟨hnameless, hlookup⟩ | ⟨hnamed, pres, hlookup, s, rest, rfl, hs⟩
  · rw [getProcessName, hlookup, error_bind, hread]
    simp [ProcFile.Nameless]
  · rw [getProcessName, hlookup, ok_bind]
    exact iff_of_true ⟨none, rfl⟩ hnameless
  · rw [getProcessName, hlookup, ok_bind]
    refine iff_of_false ?_ hnamed
    simp only [strlen_of_isName hs, ok_bind, copyName_eq_error, error_bind]
    rintro ⟨name, hname⟩
    cases hname

/-- `getReading` goes wrong for every outcome: in the lookup, with the NULL that it returns, or with
the terminator of the copy. -/
theorem getReading_cases {w : Nat} (proc : Text → ProcFile) (sizeofPointer : Nat)
    (pid_system_server : BitVec 32) (log : UserEventLog w) :
    ∃ fault, getReading proc sizeofPointer pid_system_server log = .error fault ∧
      (fault = .outOfRange 100 (-2) ∨ fault = .null ∨ ∃ n : Nat, fault = .outOfRange n n) := by
  have hlength := length_taskDir_le pid_system_server
  rcases exists_sprintf (t := taskDir pid_system_server) (show _ < 100 by omega) with ⟨buf, hbuf⟩
  rw [getReading, hbuf, ok_bind]
  have hdir : (taskDir pid_system_server).length ≤ 80 := by omega
  rcases getNameFromPid_cases proc hdir (firstConsumer log).pid with
    ⟨-, hlookup⟩ | ⟨-, hlookup⟩ | ⟨-, pres, hlookup, s, rest, rfl, hs⟩
  · rw [hlookup]
    exact ⟨_, rfl, Or.inl rfl⟩
  · rw [hlookup]
    exact ⟨_, rfl, Or.inr (Or.inl rfl)⟩
  · simp only [hlookup, ok_bind, deref, strlen_of_isName hs, copyName_eq_error, error_bind]
    exact ⟨_, rfl, Or.inr (Or.inr ⟨_, rfl⟩)⟩

/-- For no outcome of `open` and `read` do all accesses stay inside their buffers. -/
theorem not_staysInside {w : Nat} (proc : Text → ProcFile) (sizeofPointer : Nat)
    (pid_system_server : BitVec 32) (log : UserEventLog w) (pid : BitVec 32) :
    ¬ StaysInside proc sizeofPointer pid_system_server log pid := by
  rintro ⟨⟨row, hrow⟩, -⟩
  rcases getReading_cases proc sizeofPointer pid_system_server log with ⟨fault, hfault, -⟩
  cases hrow.symm.trans hfault

/-- A name of four bytes, with pointers of four bytes: the terminator of the copy is the fifth. -/
theorem exists_not_staysInside :
    ¬ ∀ (proc : Text → ProcFile) (sizeofPointer : Nat) (pid_system_server : BitVec 32)
      (log : UserEventLog 64) (pid : BitVec 32),
      StaysInside proc sizeofPointer pid_system_server log pid := by
  intro h
  rcases h (fun _ => .delivers (bytesOf "cgps\n".toList) (by decide)) 4 312 twoReaders 977 with
    ⟨-, name, hname⟩
  have herror : getProcessName (fun _ => .delivers (bytesOf "cgps\n".toList) (by decide)) 4 977 =
      .error (.outOfRange 4 4) := by decide +kernel
  cases hname.symm.trans herror

end Proc

end Android
end ResourceAccounting
