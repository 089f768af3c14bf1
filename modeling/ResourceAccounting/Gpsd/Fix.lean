import ResourceAccounting.Gpsd.Data

/-!
# Fix — the position of a device, as JSON

gpsd writes a fix as a TPV object.  What is not a number is left out, and so are the numbers that the
mode of the fix does not support.  A client reads the object back.

- `jsonTpvDump`, `jsonTpvRead` — the functions of gpsd_json.c and libgps_json.c;
- `Fix.received` — the fix that the client has then;
- `jsonTpvDump_eq_none_iff` — when the writer leaves its buffer;
- `jsonTpvRead_jsonTpvDump` — the fix comes back.
-/

namespace ResourceAccounting
namespace Gpsd

open Python C Json

/-! ## The writer -/

section

variable {R : Type} (f : Floats R)

/-- `if (isnan(x) == 0)`, and `"\"name\":%.kf,"`. -/
def printNumber (name : String) (k : Nat) (x : R) : Bool × Text :=
  (!f.isnan x, '"' :: (name.toList ++ '"' :: ':' :: (f.fixed k x ++ [','])))

/-- The bytes of a pointer, which is what `sizeof(reply)` gives. -/
def sizeofReply : Nat := wordBits / 8

/-- `strlcat(reply, "}\r\n", sizeof(reply) - strlen(reply))` in a buffer of `replylen` bytes; none if
that writes behind the buffer. -/
def closeReply (replylen : Nat) (reply : Text) : Option Text :=
  -- the difference is a `size_t`
  match strlcat ((sizeofReply + (2 ^ wordBits - reply.length)) % 2 ^ wordBits) reply "\x7d\r\n".toList with
  | none => none
  | some closed => if closed.length < replylen then some closed else none

/-- What is printed of every fix. -/
def tpvHead (d : GpsData R) : List (Bool × Text) :=
  [(true, "\"tag\":\"".toList ++ (if d.tag = [] then ['-'] else d.tag) ++ "\",".toList),
    (decide (d.dev.path ≠ []), "\"device\":\"".toList ++ d.dev.path ++ "\",".toList),
    (true, "\"mode\":".toList ++ decimal d.fix.mode ++ [',']),
    (!f.isnan d.fix.time, "\"time\":\"".toList ++ f.unix_to_iso8601 d.fix.time ++ "\",".toList),
    printNumber f "ept" 3 d.fix.ept]

/-- What is printed if the quality of the fix supports it. -/
def tpvBody (d : GpsData R) : List (Bool × Text) :=
  let mode3d (item : Bool × Text) : Bool × Text := (decide (MODE_3D ≤ d.fix.mode) && item.1, item.2)
  [printNumber f "lat" 9 d.fix.latitude,
    printNumber f "lon" 9 d.fix.longitude,
    mode3d (printNumber f "alt" 3 d.fix.altitude),
    printNumber f "epx" 3 d.fix.epx,
    printNumber f "epy" 3 d.fix.epy,
    mode3d (printNumber f "epv" 3 d.fix.epv),
    printNumber f "track" 4 d.fix.track,
    printNumber f "speed" 3 d.fix.speed,
    mode3d (printNumber f "climb" 3 d.fix.climb),
    printNumber f "epd" 4 d.fix.epd,
    printNumber f "eps" 2 d.fix.eps,
    mode3d (printNumber f "epc" 2 d.fix.epc)]

/-- `json_tpv_dump` -/
def jsonTpvDump (d : GpsData R) (replylen : Nat) : Option Text :=
  let reply := strlcpy replylen "\x7b\"class\":\"TPV\",".toList
  let reply := sprintfFlags replylen (tpvHead f d) reply
  let reply := if MODE_2D ≤ d.fix.mode then sprintfFlags replylen (tpvBody f d) reply else reply
  closeReply replylen (trimComma reply)

end

/-! ## The reader -/

/-- `json_attrs_1` of `json_tpv_read`; the default of a number is `NAN`. -/
def tpvAttrs {R : Type} (nan : R) : List (Attr Empty (GpsData R) R) :=
  [{ name := "class".toList, kind := .check "TPV".toList },
    { name := "device".toList,
      kind := .string (fun s d => { d with dev := { d.dev with path := s } }) GPS_PATH_MAX },
    { name := "tag".toList, kind := .string (fun s d => { d with tag := s }) (MAXTAGLEN + 1) },
    { name := "time".toList, kind := .time (fun x d => { d with fix := { d.fix with time := x } }) nan },
    { name := "time".toList, kind := .real (fun x d => { d with fix := { d.fix with time := x } }) nan },
    { name := "ept".toList, kind := .real (fun x d => { d with fix := { d.fix with ept := x } }) nan },
    { name := "lon".toList,
      kind := .real (fun x d => { d with fix := { d.fix with longitude := x } }) nan },
    { name := "lat".toList,
      kind := .real (fun x d => { d with fix := { d.fix with latitude := x } }) nan },
    { name := "alt".toList,
      kind := .real (fun x d => { d with fix := { d.fix with altitude := x } }) nan },
    { name := "epx".toList, kind := .real (fun x d => { d with fix := { d.fix with epx := x } }) nan },
    { name := "epy".toList, kind := .real (fun x d => { d with fix := { d.fix with epy := x } }) nan },
    { name := "epv".toList, kind := .real (fun x d => { d with fix := { d.fix with epv := x } }) nan },
    { name := "track".toList,
      kind := .real (fun x d => { d with fix := { d.fix with track := x } }) nan },
    { name := "speed".toList,
      kind := .real (fun x d => { d with fix := { d.fix with speed := x } }) nan },
    { name := "climb".toList,
      kind := .real (fun x d => { d with fix := { d.fix with climb := x } }) nan },
    { name := "epd".toList, kind := .real (fun x d => { d with fix := { d.fix with epd := x } }) nan },
    { name := "eps".toList, kind := .real (fun x d => { d with fix := { d.fix with eps := x } }) nan },
    { name := "epc".toList, kind := .real (fun x d => { d with fix := { d.fix with epc := x } }) nan },
    { name := "mode".toList,
      kind := .integer (fun n d => { d with fix := { d.fix with mode := n } }) MODE_NOT_SEEN }]

/-- `json_tpv_read`.  The template has no arrays. -/
def jsonTpvRead {R : Type} (host : Host R) (nan : R) (buf : Text) (d : GpsData R) :
    Outcome × GpsData R :=
  readFlat host (tpvAttrs nan) .none buf d

/-! ## The object that is written -/

section

variable {R : Type} (f : Floats R)

/-- A number as a field, if `shown` and it is one. -/
def numberItem (shown : Bool) (name : String) (k : Nat) (x : R) : Bool × Json.Field :=
  (shown && !f.isnan x, ⟨name.toList, .token (f.fixed k x)⟩)

/-- The fields behind the first one, each with its condition. -/
def tpvItems (d : GpsData R) : List (Bool × Json.Field) :=
  let mode2d := decide (MODE_2D ≤ d.fix.mode)
  let mode3d := mode2d && decide (MODE_3D ≤ d.fix.mode)
  [(true, ⟨"tag".toList, .ofText (if d.tag = [] then ['-'] else d.tag)⟩),
    (decide (d.dev.path ≠ []), ⟨"device".toList, .ofText d.dev.path⟩),
    (true, ⟨"mode".toList, .token (decimal d.fix.mode)⟩),
    (!f.isnan d.fix.time, ⟨"time".toList, .ofText (f.unix_to_iso8601 d.fix.time)⟩),
    numberItem f true "ept" 3 d.fix.ept,
    numberItem f mode2d "lat" 9 d.fix.latitude,
    numberItem f mode2d "lon" 9 d.fix.longitude,
    numberItem f mode3d "alt" 3 d.fix.altitude,
    numberItem f mode2d "epx" 3 d.fix.epx,
    numberItem f mode2d "epy" 3 d.fix.epy,
    numberItem f mode3d "epv" 3 d.fix.epv,
    numberItem f mode2d "track" 4 d.fix.track,
    numberItem f mode2d "speed" 3 d.fix.speed,
    numberItem f mode3d "climb" 3 d.fix.climb,
    numberItem f mode2d "epd" 4 d.fix.epd,
    numberItem f mode2d "eps" 2 d.fix.eps,
    numberItem f mode3d "epc" 2 d.fix.epc]

def tpvFields (d : GpsData R) : List Json.Field :=
  ⟨"class".toList, .ofText "TPV".toList⟩ :: flagFields (tpvItems f d)

/-- The object without its closing brace. -/
def tpvText (d : GpsData R) : Text :=
  '\x7b' :: fieldsText (tpvFields f d)

theorem numberItem_text (shown : Bool) (name : String) (k : Nat) (x : R) :
    ((numberItem f shown name k x).1, (numberItem f shown name k x).2.text ++ [',']) =
      (shown && (printNumber f name k x).1, (printNumber f name k x).2) := by
  simp [numberItem, printNumber, Field.text]

/-- The items print as the fields. -/
theorem map_tpvItems (d : GpsData R) :
    (tpvItems f d).map (fun item => (item.1, item.2.text ++ [','])) =
      tpvHead f d ++
        (tpvBody f d).map fun item => (decide (MODE_2D ≤ d.fix.mode) && item.1, item.2) := by
  have htext : ∀ name t : Text, (⟨name, .ofText t⟩ : Json.Field).text ++ [','] =
      '"' :: (name ++ '"' :: ':' :: '"' :: (t ++ ['"', ','])) := by
    intro name t
    simp [Field.text]
  rw [tpvItems, tpvHead, tpvBody]
  simp only [List.map_cons, List.map_nil, List.cons_append, List.nil_append, numberItem_text, htext,
    Bool.and_assoc, Bool.true_and]
  simp [Field.text]

/-- `json_tpv_dump` prints the object, and then takes back its last comma. -/
theorem jsonTpvDump_def (d : GpsData R) (replylen : Nat) :
    jsonTpvDump f d replylen =
      closeReply replylen (trimComma (snprintf replylen (tpvText f d ++ [',']))) := by
  have hopen : strlcpy replylen "\x7b\"class\":\"TPV\",".toList =
      snprintf replylen "\x7b\"class\":\"TPV\",".toList := rfl
  have hclass : ['\x7b'] ++ ((⟨"class".toList, .ofText "TPV".toList⟩ : Json.Field).text ++ [',']) =
      "\x7b\"class\":\"TPV\",".toList := by decide
  have hitems : (tpvItems f d).flatMap (fun item => if item.1 then item.2.text ++ [','] else []) =
      ((tpvItems f d).map fun item => (item.1, item.2.text ++ [','])).flatMap
        fun item => if item.1 then item.2 else [] := by
    rw [List.flatMap_map]
  have htext : tpvText f d ++ [','] = "\x7b\"class\":\"TPV\",".toList ++
      (tpvHead f d).flatMap (fun item => if item.1 then item.2 else []) ++
        if MODE_2D ≤ d.fix.mode then
          (tpvBody f d).flatMap (fun item => if item.1 then item.2 else []) else [] := by
    calc
      tpvText f d ++ [','] = ['\x7b'] ++ fieldsText (tpvFields f d) ++ [','] := rfl
      _ = "\x7b\"class\":\"TPV\",".toList ++
            (tpvItems f d).flatMap fun item => if item.1 then item.2.text ++ [','] else [] := by
          rw [tpvFields, append_fieldsText, hclass]
      _ = _ := by
          rw [hitems, map_tpvItems, List.flatMap_append, flatMap_and, List.append_assoc]
          simp only [decide_eq_true_eq]
  rw [jsonTpvDump, hopen, sprintfFlags_snprintf, htext]
  by_cases hmode : MODE_2D ≤ d.fix.mode
  · simp only [if_pos hmode, sprintfFlags_snprintf]
  · simp only [if_neg hmode, List.append_nil]

/-! ## The room that the writer needs -/

/-- The close is appended wherever the buffer ends, as the size that `strlcat` is told wraps around. -/
theorem closeReply_eq {replylen : Nat} {reply : Text} (hlong : sizeofReply < reply.length)
    (hshort : reply.length < 2 ^ 63) :
    closeReply replylen reply =
      if reply.length + 3 < replylen then some (reply ++ "\x7d\r\n".toList) else none := by
  have hclose : "\x7d\r\n".toList.length = 3 := rfl
  have height : sizeofReply = 8 := rfl
  have hbits : wordBits = 64 := rfl
  have hsize : (sizeofReply + (2 ^ wordBits - reply.length)) % 2 ^ wordBits =
      sizeofReply + (2 ^ wordBits - reply.length) := Nat.mod_eq_of_lt (by rw [hbits]; omega)
  have hcat : strlcat (sizeofReply + (2 ^ wordBits - reply.length)) reply "\x7d\r\n".toList =
      some (reply ++ "\x7d\r\n".toList) := strlcat_of_length_lt (by rw [hbits]; omega)
  rw [closeReply, hsize, hcat]
  simp only [List.length_append, hclose]

theorem lt_length_tpvText (d : GpsData R) : 13 < (tpvText f d).length := by
  have hclass : (⟨"class".toList, .ofText "TPV".toList⟩ : Json.Field) ∈ tpvFields f d :=
    List.mem_cons_self
  have hlength := length_text_le hclass
  have htext : (⟨"class".toList, .ofText "TPV".toList⟩ : Json.Field).text.length = 13 := rfl
  rw [htext] at hlength
  exact Nat.lt_succ_of_le hlength

theorem jsonTpvDump_of_lt {d : GpsData R} {replylen : Nat} (hmax : replylen < 2 ^ 63)
    (hroom : (tpvText f d).length + 3 < replylen) :
    jsonTpvDump f d replylen = some (tpvText f d ++ "\x7d\r\n".toList) := by
  have hlong := lt_length_tpvText f d
  rw [jsonTpvDump_def, snprintf_of_length_lt (by rw [List.length_append, List.length_singleton]; omega),
    trimComma_concat, closeReply_eq (by unfold sizeofReply wordBits; omega) (by omega), if_pos hroom]

/-- The text is cut off, and the close goes behind the buffer. -/
theorem jsonTpvDump_of_le {d : GpsData R} {replylen : Nat} (hsize : 16 ≤ replylen)
    (hmax : replylen < 2 ^ 63) (hroom : replylen ≤ (tpvText f d).length + 3) :
    jsonTpvDump f d replylen = none := by
  have hlong := lt_length_tpvText f d
  rw [jsonTpvDump_def]
  by_cases hfits : (tpvText f d).length + 1 < replylen
  · rw [snprintf_of_length_lt (by rw [List.length_append, List.length_singleton]; omega),
      trimComma_concat, closeReply_eq (by unfold sizeofReply wordBits; omega) (by omega), if_neg (by omega)]
  · have hcut : snprintf replylen (tpvText f d ++ [',']) = (tpvText f d).take (replylen - 1) := by
      rw [snprintf, List.take_append_of_le_length (by omega)]
    have hlength : ((tpvText f d).take (replylen - 1)).length = replylen - 1 := by
      rw [List.length_take]
      omega
    have htrim : replylen - 2 ≤ (trimComma ((tpvText f d).take (replylen - 1))).length ∧
        (trimComma ((tpvText f d).take (replylen - 1))).length ≤ replylen - 1 := by
      rw [trimComma]
      split
      · rw [List.length_dropLast, hlength]
        omega
      · rw [hlength]
        omega
    rw [hcut, closeReply_eq (by unfold sizeofReply wordBits; omega) (by omega), if_neg (by omega)]

/-- `json_tpv_dump` writes behind its buffer exactly if the object and the line end do not fit. -/
theorem jsonTpvDump_eq_none_iff (d : GpsData R) {replylen : Nat} (hsize : 16 ≤ replylen)
    (hmax : replylen < 2 ^ 63) :
    jsonTpvDump f d replylen = none ↔ replylen ≤ (tpvText f d).length + 3 := by
  constructor
  · intro h
    by_contra hroom
    rw [jsonTpvDump_of_lt f hmax (Nat.lt_of_not_le hroom)] at h
    cases h
  · exact jsonTpvDump_of_le f hsize hmax

/-- There is no room for a fix in 64 bytes. -/
theorem jsonTpvDump_eq_none_iff_whole : jsonTpvDump wholeFloats wholeData 64 = none :=
  (jsonTpvDump_eq_none_iff wholeFloats wholeData (by decide) (by decide)).2 (by decide +kernel)

/-- What `json_tpv_dump` writes if it stays within its buffer. -/
theorem jsonTpvDump_eq_some {d : GpsData R} {replylen : Nat} (hsize : 16 ≤ replylen)
    (hmax : replylen < 2 ^ 63) {reply : Text} (h : jsonTpvDump f d replylen = some reply) :
    reply = tpvText f d ++ "\x7d\r\n".toList := by
  have hroom : (tpvText f d).length + 3 < replylen := by
    by_contra hfull
    rw [jsonTpvDump_of_le f hsize hmax (Nat.le_of_not_lt hfull)] at h
    cases h
  rw [jsonTpvDump_of_lt f hmax hroom] at h
  exact (Option.some.inj h).symm

/-- The names of the numbers in the object. -/
def tpvNumbers : List String :=
  ["ept", "lat", "lon", "alt", "epx", "epy", "epv", "track", "speed", "climb", "epd", "eps", "epc"]

/-- What is in the object whatever the fix is. -/
def tpvWords : List String :=
  ["class", "TPV", "tag", "-", "device", "mode", "time"] ++ tpvNumbers

/-- What only the tag, the path and the date can bring into the object. -/
def Foreign (c : Char) : Prop :=
  c ∉ "\x7b\":,-.inf".toList ∧ c.isDigit = false ∧ ∀ word ∈ tpvWords, c ∉ word.toList

theorem Foreign.ne {c : Char} (hc : Foreign c) {x : Char} (hx : x ∈ "\x7b\":,-.inf".toList) : c ≠ x :=
  fun h => hc.1 (h ▸ hx)

theorem Foreign.not_mem_field {c : Char} (hc : Foreign c) {name : String} (hname : name ∈ tpvWords)
    {value : Value} (hvalue : c ∉ value.text) : c ∉ (⟨name.toList, value⟩ : Json.Field).text :=
  Field.not_mem_text ⟨hc.ne (by decide), hc.ne (by decide)⟩ (hc.2.2 name hname) hvalue

theorem Foreign.not_mem_numberItem {f : Floats R} (hf : f.Printing) {c : Char} (hc : Foreign c)
    {shown : Bool} {name : String} {k : Nat} {x : R} (hname : name ∈ tpvNumbers)
    (hshown : (numberItem f shown name k x).1 = true) : c ∉ (numberItem f shown name k x).2.text := by
  have hboth := (Bool.and_eq_true _ _).mp hshown
  refine hc.not_mem_field (List.mem_append_right _ hname) fun hmem => ?_
  rcases hf.fixed_number k x (by simpa using hboth.2) c hmem with h | h
  · rw [hc.2.1] at h
    cases h
  · exact hc.1 (List.mem_append_right "\x7b\":,".toList h)

theorem Foreign.not_mem_tpvFields {f : Floats R} (hf : f.Printing) {d : GpsData R} {c : Char}
    (hc : Foreign c) (htag : c ∉ d.tag) (hpath : c ∉ d.dev.path)
    (hdate : f.isnan d.fix.time = false → c ∉ f.unix_to_iso8601 d.fix.time) :
    ∀ g ∈ tpvFields f d, c ∉ g.text := by
  have hofText : ∀ t : Text, c ∉ t → c ∉ (Value.ofText t).text :=
    fun t ht => Value.not_mem_text_ofText (hc.ne (by decide)) ht
  intro g hg
  rcases List.mem_cons.1 hg with rfl | hg
  · exact hc.not_mem_field (by decide) (hofText _ (hc.2.2 "TPV" (by decide)))
  · rcases mem_flagFields hg with ⟨item, hitem, hshown, rfl⟩
    simp only [tpvItems, List.mem_cons, List.not_mem_nil, or_false] at hitem
    rcases hitem with rfl | rfl | rfl | rfl | rfl | rfl | rfl | rfl | rfl | rfl | rfl | rfl | rfl |
      rfl | rfl | rfl | rfl
    · -- the tag
      refine hc.not_mem_field (by decide) (hofText _ ?_)
      split
      · exact hc.2.2 "-" (by decide)
      · exact htag
    · exact hc.not_mem_field (by decide) (hofText _ hpath)
    · -- the mode
      refine hc.not_mem_field (by decide) fun hmem => ?_
      rcases mem_decimal hmem with h | h
      · exact hc.ne (by decide) h
      · rw [hc.2.1] at h
        cases h
    · exact hc.not_mem_field (by decide) (hofText _ (hdate (by simpa using hshown)))
    all_goals exact hc.not_mem_numberItem hf (by decide) hshown

/-- Neither is a line end in the object, nor an escape, nor its end. -/
theorem not_mem_tpvText {f : Floats R} (hf : f.Printing) {d : GpsData R} {c : Char}
    (hc : c ∈ ['\\', '\x00', '\n']) (htag : c ∉ d.tag) (hpath : c ∉ d.dev.path) :
    c ∉ tpvText f d := by
  simp only [List.mem_cons, List.not_mem_nil, or_false] at hc
  have hforeign : Foreign c := by
    unfold Foreign
    rcases hc with rfl | rfl | rfl <;> decide
  have hdate : f.isnan d.fix.time = false → c ∉ f.unix_to_iso8601 d.fix.time := by
    intro hnan
    rcases hf.date _ hnan with ⟨-, hbackslash, hnul, hend⟩
    rcases hc with rfl | rfl | rfl
    · exact hbackslash
    · exact hnul
    · exact hend
  rw [tpvText, List.mem_cons]
  rintro (h | h)
  · exact hforeign.ne (by decide) h
  · exact not_mem_fieldsText (hforeign.ne (by decide))
      (hforeign.not_mem_tpvFields hf htag hpath hdate) h

end

/-! ## The fix comes back -/

section

variable {R : Type} (host : Host R) (f : Floats R)

/-- What a client has of a number that is printed with `k` places if `shown`. -/
def Floats.received (shown : Bool) (k : Nat) (x : R) : R :=
  if shown && !f.isnan x then host.atof (f.fixed k x) else f.nan

/-- What a client has of a fix. -/
def Fix.received (fix : Fix R) : Fix R :=
  let mode2d := decide (MODE_2D ≤ fix.mode)
  let mode3d := mode2d && decide (MODE_3D ≤ fix.mode)
  { time := if !f.isnan fix.time then host.iso8601_to_unix (f.unix_to_iso8601 fix.time) else f.nan
    mode := fix.mode
    ept := f.received host true 3 fix.ept
    latitude := f.received host mode2d 9 fix.latitude
    epy := f.received host mode2d 3 fix.epy
    longitude := f.received host mode2d 9 fix.longitude
    epx := f.received host mode2d 3 fix.epx
    altitude := f.received host mode3d 3 fix.altitude
    epv := f.received host mode3d 3 fix.epv
    track := f.received host mode2d 4 fix.track
    epd := f.received host mode2d 4 fix.epd
    speed := f.received host mode2d 3 fix.speed
    eps := f.received host mode2d 2 fix.eps
    climb := f.received host mode3d 3 fix.climb
    epc := f.received host mode3d 2 fix.epc }

/-- What the data of a device is like that a client can read. -/
structure GpsData.Plain (d : GpsData R) : Prop where
  tag : '"' ∉ d.tag ∧ '\\' ∉ d.tag
  tag_nul : '\x00' ∉ d.tag
  tag_length : d.tag.length ≤ MAXTAGLEN
  path : '"' ∉ d.dev.path ∧ '\\' ∉ d.dev.path
  path_nul : '\x00' ∉ d.dev.path
  path_length : d.dev.path.length < GPS_PATH_MAX
  mode : -2 ^ 31 ≤ d.fix.mode ∧ d.fix.mode < 2 ^ 31
  /-- No number is longer than what the reader takes. -/
  length : ∀ item ∈ tpvItems f d, item.1 = true → item.2.value.content.length ≤ JSON_VAL_MAX

/-- The fields of the object and what they do to the data, each with its condition. -/
def tpvStores (d : GpsData R) : List (Bool × Json.Field × (Bool → GpsData R → GpsData R)) :=
  let mode2d := decide (MODE_2D ≤ d.fix.mode)
  let mode3d := mode2d && decide (MODE_3D ≤ d.fix.mode)
  let number (shown : Bool) (name : String) (k : Nat) (x : R)
      (store : (R → R) → GpsData R → GpsData R) :
      Bool × Json.Field × (Bool → GpsData R → GpsData R) :=
    ((numberItem f shown name k x).1, (numberItem f shown name k x).2,
      fun b => store fun y => if b then host.atof (f.fixed k x) else y)
  [(true, ⟨"tag".toList, .ofText (if d.tag = [] then ['-'] else d.tag)⟩,
      fun b c => { c with tag := if b then (if d.tag = [] then ['-'] else d.tag) else c.tag }),
    (decide (d.dev.path ≠ []), ⟨"device".toList, .ofText d.dev.path⟩,
      fun b c => { c with dev := { c.dev with path := if b then d.dev.path else c.dev.path } }),
    (true, ⟨"mode".toList, .token (decimal d.fix.mode)⟩,
      fun b c => { c with fix := { c.fix with mode := if b then d.fix.mode else c.fix.mode } }),
    (!f.isnan d.fix.time, ⟨"time".toList, .ofText (f.unix_to_iso8601 d.fix.time)⟩,
      fun b c => { c with fix := { c.fix with
        time := if b then host.iso8601_to_unix (f.unix_to_iso8601 d.fix.time) else c.fix.time } }),
    number true "ept" 3 d.fix.ept fun x c => { c with fix := { c.fix with ept := x c.fix.ept } },
    number mode2d "lat" 9 d.fix.latitude
      fun x c => { c with fix := { c.fix with latitude := x c.fix.latitude } },
    number mode2d "lon" 9 d.fix.longitude
      fun x c => { c with fix := { c.fix with longitude := x c.fix.longitude } },
    number mode3d "alt" 3 d.fix.altitude
      fun x c => { c with fix := { c.fix with altitude := x c.fix.altitude } },
    number mode2d "epx" 3 d.fix.epx fun x c => { c with fix := { c.fix with epx := x c.fix.epx } },
    number mode2d "epy" 3 d.fix.epy fun x c => { c with fix := { c.fix with epy := x c.fix.epy } },
    number mode3d "epv" 3 d.fix.epv fun x c => { c with fix := { c.fix with epv := x c.fix.epv } },
    number mode2d "track" 4 d.fix.track
      fun x c => { c with fix := { c.fix with track := x c.fix.track } },
    number mode2d "speed" 3 d.fix.speed
      fun x c => { c with fix := { c.fix with speed := x c.fix.speed } },
    number mode3d "climb" 3 d.fix.climb
      fun x c => { c with fix := { c.fix with climb := x c.fix.climb } },
    number mode2d "epd" 4 d.fix.epd fun x c => { c with fix := { c.fix with epd := x c.fix.epd } },
    number mode2d "eps" 2 d.fix.eps fun x c => { c with fix := { c.fix with eps := x c.fix.eps } },
    number mode3d "epc" 2 d.fix.epc fun x c => { c with fix := { c.fix with epc := x c.fix.epc } }]

variable {host f}

/-- No other name than `time` stands twice in the template. -/
theorem count_tpvAttrs (nan : R) {name : Text}
    (hname : name ∈ ["device", "tag", "ept", "lon", "lat", "alt", "epx", "epy", "epv", "track", "speed",
      "climb", "epd", "eps", "epc", "mode"].map String.toList) :
    ((tpvAttrs nan).map Attr.name).count name ≤ 1 := by
  have hnames : (tpvAttrs nan).map Attr.name =
      ["class", "device", "tag", "time", "time", "ept", "lon", "lat", "alt", "epx", "epy", "epv",
        "track", "speed", "climb", "epd", "eps", "epc", "mode"].map String.toList := rfl
  rw [hnames]
  revert name
  decide

/-- A number is stored where its name says. -/
theorem putField_number (hf : f.Printing) (name : String) {shown : Bool} {k : Nat} {x : R}
    (hname : name.toList ∈ ["device", "tag", "ept", "lon", "lat", "alt", "epx", "epy", "epv", "track",
      "speed", "climb", "epd", "eps", "epc", "mode"].map String.toList)
    {cursor : Cursor Empty (GpsData R) R}
    (hfind : findAttr name.toList (tpvAttrs f.nan) = some cursor) (hmap : cursor.attr.map = none)
    (addr : R → GpsData R → GpsData R) (hkind : cursor.attr.kind = .real addr f.nan)
    (hshown : (numberItem f shown name k x).1 = true) (c : GpsData R) :
    putField host (tpvAttrs f.nan) .none (numberItem f shown name k x).2 c =
      .ok (addr (host.atof (f.fixed k x)) c) := by
  have hnumber : f.isnan x = false := by
    have hboth := (Bool.and_eq_true _ _).mp hshown
    simpa using hboth.2
  have hnul : '\x00' ∉ f.fixed k x := by
    intro hmem
    rcases hf.fixed_number k x hnumber _ hmem with h | h <;> exact absurd h (by decide)
  exact putField_real (count_tpvAttrs f.nan hname) hfind hmap addr hkind hnul c

/-- What is written of the tag. -/
theorem GpsData.Plain.writtenTag {d : GpsData R} (hd : d.Plain f) :
    let tag := if d.tag = [] then ['-'] else d.tag
    ('"' ∉ tag ∧ '\\' ∉ tag) ∧ '\x00' ∉ tag ∧ tag.length ≤ MAXTAGLEN := by
  dsimp only
  split
  · decide
  · exact ⟨hd.tag, hd.tag_nul, hd.tag_length⟩

theorem putField_tpvStores (hf : f.Printing) {d : GpsData R} (hd : d.Plain f) :
    ∀ item ∈ tpvStores host f d, ∀ c,
      (item.1 = true → putField host (tpvAttrs f.nan) .none item.2.1 c = .ok (item.2.2 true c)) ∧
        item.2.2 false c = c := by
  have htag := hd.writtenTag.2
  have htime : f.isnan d.fix.time = false → ∀ c,
      putField host (tpvAttrs f.nan) .none ⟨"time".toList, .ofText (f.unix_to_iso8601 d.fix.time)⟩ c =
        .ok { c with fix := { c.fix with
          time := host.iso8601_to_unix (f.unix_to_iso8601 d.fix.time) } } := by
    intro hnumber c
    -- the first of the two specifications is for quoted values
    have hput : putField host (tpvAttrs f.nan) .none
        ⟨"time".toList, .ofText (f.unix_to_iso8601 d.fix.time)⟩ c =
          .ok { c with fix := { c.fix with
            time := host.iso8601_to_unix (cString (Value.ofText (f.unix_to_iso8601 d.fix.time)).content) } } :=
      rfl
    rw [hput, Value.content_ofText, cString_eq_self (hf.date _ hnumber).2.2.1]
  intro item hitem c
  simp only [tpvStores, List.mem_cons, List.not_mem_nil, or_false] at hitem
  rcases hitem with rfl | rfl | rfl | rfl | rfl | rfl | rfl | rfl | rfl | rfl | rfl | rfl | rfl | rfl |
    rfl | rfl | rfl
  · exact ⟨fun _ => putField_string (count_tpvAttrs f.nan (by decide)) rfl rfl
      (fun s c => { c with tag := s }) rfl rfl htag.1 (Nat.lt_succ_of_le htag.2) c, rfl⟩
  · exact ⟨fun _ => putField_string (count_tpvAttrs f.nan (by decide)) rfl rfl
      (fun s c => { c with dev := { c.dev with path := s } }) rfl rfl hd.path_nul hd.path_length c, rfl⟩
  · exact ⟨fun _ => putField_integer (count_tpvAttrs f.nan (by decide)) rfl rfl
      (fun n c => { c with fix := { c.fix with mode := n } }) rfl hd.mode.1 hd.mode.2 c, rfl⟩
  · exact ⟨fun h => htime (by simpa using h) c, rfl⟩
  · refine ⟨fun h => ?_, rfl⟩
    have hshown : (numberItem f true "ept" 3 d.fix.ept).1 = true := h
    exact putField_number hf "ept" (by decide) rfl rfl _ rfl hshown c
  · exact ⟨fun h => putField_number hf "lat" (by decide) rfl rfl _ rfl h c, rfl⟩
  · exact ⟨fun h => putField_number hf "lon" (by decide) rfl rfl _ rfl h c, rfl⟩
  · exact ⟨fun h => putField_number hf "alt" (by decide) rfl rfl _ rfl h c, rfl⟩
  · exact ⟨fun h => putField_number hf "epx" (by decide) rfl rfl _ rfl h c, rfl⟩
  · exact ⟨fun h => putField_number hf "epy" (by decide) rfl rfl _ rfl h c, rfl⟩
  · exact ⟨fun h => putField_number hf "epv" (by decide) rfl rfl _ rfl h c, rfl⟩
  · exact ⟨fun h => putField_number hf "track" (by decide) rfl rfl _ rfl h c, rfl⟩
  · exact ⟨fun h => putField_number hf "speed" (by decide) rfl rfl _ rfl h c, rfl⟩
  · exact ⟨fun h => putField_number hf "climb" (by decide) rfl rfl _ rfl h c, rfl⟩
  · exact ⟨fun h => putField_number hf "epd" (by decide) rfl rfl _ rfl h c, rfl⟩
  · exact ⟨fun h => putField_number hf "eps" (by decide) rfl rfl _ rfl h c, rfl⟩
  · exact ⟨fun h => putField_number hf "epc" (by decide) rfl rfl _ rfl h c, rfl⟩

/-- The fields of the object, stored in data that hold the defaults. -/
theorem putFields_tpvFields (hf : f.Printing) {d : GpsData R} (hd : d.Plain f) (c : GpsData R) :
    putFields host (tpvAttrs f.nan) .none (tpvFields f d) (setDefaults .none (tpvAttrs f.nan) c).2 =
      (none, { c with
        fix := d.fix.received host f
        dev := { c.dev with path := d.dev.path }
        tag := if d.tag = [] then ['-'] else d.tag }) := by
  have hfields : tpvFields f d = ⟨"class".toList, .ofText "TPV".toList⟩ ::
      flagFields ((tpvStores host f d).map fun item => (item.1, item.2.1)) := rfl
  have hitems := putFields_flagFields host (tpvAttrs f.nan) .none (tpvStores host f d)
    (putField_tpvStores hf hd) (setDefaults .none (tpvAttrs f.nan) c).2
  have hfold : (tpvStores host f d).foldl (fun m item => item.2.2 item.1 m)
      (setDefaults .none (tpvAttrs f.nan) c).2 =
        { c with
          fix := d.fix.received host f
          dev := { c.dev with path := if decide (d.dev.path ≠ []) then d.dev.path else [] }
          tag := if d.tag = [] then ['-'] else d.tag } := rfl
  have hpath : (if decide (d.dev.path ≠ []) then d.dev.path else []) = d.dev.path := by
    by_cases hpath : d.dev.path = []
    · rw [hpath]
      rfl
    · exact if_pos (decide_eq_true hpath)
  rw [hfields]
  refine hitems.trans (congrArg (Prod.mk none) ?_)
  rw [hfold, hpath]

theorem fits_numberItem (hf : f.Printing) {d : GpsData R} (hd : d.Plain f) {shown : Bool}
    {name : String} {k : Nat} {x : R} {cursor : Cursor Empty (GpsData R) R}
    (hitem : numberItem f shown name k x ∈ tpvItems f d)
    (hshown : (numberItem f shown name k x).1 = true)
    (hfind : findAttr name.toList (tpvAttrs f.nan) = some cursor)
    (hname : '"' ∉ name.toList ∧ name.toList.length < JSON_ATTR_MAX)
    (harray : cursor.attr.kind.isArray = none) (hlimit : 0 ≤ cursor.attr.limit 0) :
    (numberItem f shown name k x).2.Fits (tpvAttrs f.nan) := by
  have hboth := (Bool.and_eq_true _ _).mp hshown
  exact Field.fits_of_find hfind hname (fits_number cursor (hf.fixed_ne_nil k x)
    (hf.fixed_number k x (by simpa using hboth.2)) (hd.length _ hitem hshown)) hlimit harray

/-- The fields fit the buffers of the reader. -/
theorem fits_tpvFields (hf : f.Printing) {d : GpsData R} (hd : d.Plain f) :
    ∀ g ∈ tpvFields f d, g.Fits (tpvAttrs f.nan) := by
  rcases hd.writtenTag with ⟨htag, -, htaglength⟩
  have hmode : d.fix.mode.natAbs < 10 ^ 100 := by
    have hrange := hd.mode
    omega
  intro g hg
  rcases List.mem_cons.1 hg with rfl | hg
  · exact Field.fits_check rfl (by decide) rfl (by decide) (by decide)
  · rcases mem_flagFields hg with ⟨item, hmem, hshown, rfl⟩
    have hitem := hmem
    simp only [tpvItems, List.mem_cons, List.not_mem_nil, or_false] at hitem
    rcases hitem with rfl | rfl | rfl | rfl | rfl | rfl | rfl | rfl | rfl | rfl | rfl | rfl | rfl |
      rfl | rfl | rfl | rfl
    · exact Field.fits_string rfl (by decide) rfl htag (Nat.lt_succ_of_le htaglength)
        (htaglength.trans (by decide))
    · exact Field.fits_string rfl (by decide) rfl hd.path hd.path_length
        ((Nat.le_of_lt hd.path_length).trans (by decide))
    · exact Field.fits_of_find rfl (by decide) (fits_decimal _ hmode) le_rfl
    · have hnumber : f.isnan d.fix.time = false := by simpa using hshown
      have hdate := hf.date _ hnumber
      have hlength := (hf.length_date d.fix.time).trans (show 24 ≤ JSON_VAL_MAX by decide)
      exact Field.fits_of_find rfl (by decide) (fits_ofText ⟨hdate.1, hdate.2.1⟩ hlength (by
        have hlimit : (JSON_VAL_MAX : Int) ≤ JSON_VAL_MAX + 1 := by decide
        exact (Int.ofNat_le.2 hlength).trans hlimit)) (Int.natCast_nonneg _)
    all_goals exact fits_numberItem hf hd hmem hshown rfl (by decide) rfl le_rfl

/-- `json_tpv_read` on the object of a fix. -/
theorem jsonTpvRead_tpvText (hf : f.Printing) {d : GpsData R} (hd : d.Plain f) (c : GpsData R)
    (text : Text) :
    jsonTpvRead host f.nan (tpvText f d ++ '\x7d' :: text) c =
      (.done (text.dropWhile isSpace), { c with
        fix := d.fix.received host f
        dev := { c.dev with path := d.dev.path }
        tag := if d.tag = [] then ['-'] else d.tag }) := by
  have htext : objectText (tpvFields f d) ++ text = tpvText f d ++ '\x7d' :: text := by
    simp [objectText, tpvText]
  rw [← htext]
  exact readFlat_objectText (List.cons_ne_nil _ _) (fits_tpvFields hf hd) (putFields_tpvFields hf hd c)
    text

/-- What gpsd writes of the data of a device is read by a client as the same fix, with the numbers as
they are printed, and no numbers for what the mode does not support.  Nothing else changes but the tag
and the path of the device. -/
theorem jsonTpvRead_jsonTpvDump (hf : f.Printing) {d : GpsData R} (hd : d.Plain f) {replylen : Nat}
    (hmax : replylen < 2 ^ 63) (hroom : (tpvText f d).length + 3 < replylen) (c : GpsData R) :
    ∃ reply, jsonTpvDump f d replylen = some reply ∧
      jsonTpvRead host f.nan reply c = (.done [], { c with
        fix := d.fix.received host f
        dev := { c.dev with path := d.dev.path }
        tag := if d.tag = [] then ['-'] else d.tag }) :=
  ⟨_, jsonTpvDump_of_lt f hmax hroom, jsonTpvRead_tpvText hf hd c ['\r', '\n']⟩

theorem jsonTpvRead_jsonTpvDump_whole : ∃ reply, jsonTpvDump wholeFloats wholeData 4096 = some reply ∧
    jsonTpvRead (⟨fun _ => some 7, fun _ => some 12, '?'⟩ : Host (Option Int)) none reply wholeData =
      (.done [], { wholeData with
        fix := wholeData.fix.received ⟨fun _ => some 7, fun _ => some 12, '?'⟩ wholeFloats
        tag := ['-'] }) := by
  have hplain : wholeData.Plain wholeFloats :=
    ⟨by decide, by decide, by decide, by decide, by decide, by decide, by decide, by decide +kernel⟩
  exact jsonTpvRead_jsonTpvDump wholeFloats_printing hplain (by decide) (by decide +kernel) wholeData

end

end Gpsd
end ResourceAccounting
