import ResourceAccounting.Gpsd.Watch

/-!
# Stream — how a client asks gpsd to be sent reports

`gps_stream` puts a WATCH request together in a buffer of 80 characters.  What does not fit is cut off,
and gpsd does not refuse a request that is cut off.

- `WatchFlags`, `gpsStream`, `gpsSend` — the functions of libgps_sock.c;
- `streamFields` — the object of the request;
- `jsonWatchRead_gpsStream` — the policy that gpsd has after a request that fits;
- `devpath_gpsStream` — what gpsd makes of the device that cgps asks for, however long its name is.
-/

namespace ResourceAccounting
namespace Cgps

open Python C Json Gpsd

def GPS_JSON_COMMAND_MAX : Nat := 80

/-- `BUFSIZ` -/
def BUFSIZ : Nat := 8192

/-- The bits of `flags` that `gps_stream` looks at. -/
structure WatchFlags where
  /-- `WATCH_DISABLE` -/
  disable : Bool := false
  json : Bool := false
  nmea : Bool := false
  /-- Packets in hex. -/
  rare : Bool := false
  raw : Bool := false
  scaled : Bool := false
  timing : Bool := false
  device : Bool := false
  oldstyle : Bool := false
  deriving DecidableEq, Repr

/-- JSON is what a client gets that asks for nothing. -/
def WatchFlags.orJson (flags : WatchFlags) : WatchFlags :=
  if flags.json || flags.oldstyle || flags.nmea || flags.raw then flags
  else { flags with json := true }

/-- `if (flags & …) strlcat(buf, …, sizeof(buf))`, one after the other. -/
def catFlags (items : List (Bool × Text)) (buf : Text) : Option Text :=
  items.foldlM (fun buf item =>
    if item.1 then strlcat GPS_JSON_COMMAND_MAX buf item.2 else some buf) buf

/-- The command that `gps_stream` gives to `gps_send`; `d` is the device. -/
def gpsStream (flags : WatchFlags) (d : Text) : Option Text := do
  let flags := flags.orJson
  if flags.disable then
    if flags.oldstyle then
      catFlags [(flags.nmea, "r-".toList)] (strlcpy GPS_JSON_COMMAND_MAX "w-".toList)
    else
      let buf ← catFlags
        [(flags.json, "\"json\":false,".toList),
          (flags.nmea, "\"nmea\":false,".toList),
          (flags.raw, "\"raw\":1,".toList),
          (flags.rare, "\"raw\":0,".toList),
          (flags.scaled, "\"scaled\":false,".toList),
          (flags.timing, "\"timing\":false,".toList)]
        (strlcpy GPS_JSON_COMMAND_MAX "?WATCH=\x7b\"enable\":false,".toList)
      strlcat GPS_JSON_COMMAND_MAX (trimComma buf) "\x7d;".toList
  else
    if flags.oldstyle then
      catFlags [(flags.nmea, "r+".toList)] (strlcpy GPS_JSON_COMMAND_MAX "w+x".toList)
    else
      let buf ← catFlags
        [(flags.json, "\"json\":true,".toList),
          (flags.nmea, "\"nmea\":true,".toList),
          (flags.rare, "\"raw\":1,".toList),
          (flags.raw, "\"raw\":2,".toList),
          (flags.scaled, "\"scaled\":true,".toList),
          (flags.timing, "\"timing\":true,".toList)]
        (strlcpy GPS_JSON_COMMAND_MAX "?WATCH=\x7b\"enable\":true,".toList)
      let buf :=
        if flags.device then
          sprintfAt GPS_JSON_COMMAND_MAX buf ("\"device\":\"".toList ++ d ++ "\",".toList)
        else buf
      strlcat GPS_JSON_COMMAND_MAX (trimComma buf) "\x7d;".toList

/-- What `gps_send` writes to the socket; `format` is what `vsnprintf` makes of a format without
arguments. -/
def gpsSend (format : Text → Text) (fmt : Text) : Option Text :=
  let buf := snprintf (BUFSIZ - 2) (format fmt)
  if buf.getLast? = some '\n' then some buf else strlcat BUFSIZ buf ['\n']

/-! ## The object of a request -/

/-- The fields of a request that is not in the old style. -/
def streamFields (flags : WatchFlags) (d : Text) : List Field :=
  let flags := flags.orJson
  if flags.disable then
    ⟨"enable".toList, .token "false".toList⟩ ::
      flagFields
        [(flags.json, ⟨"json".toList, .token "false".toList⟩),
          (flags.nmea, ⟨"nmea".toList, .token "false".toList⟩),
          (flags.raw, ⟨"raw".toList, .token "1".toList⟩),
          (flags.rare, ⟨"raw".toList, .token "0".toList⟩),
          (flags.scaled, ⟨"scaled".toList, .token "false".toList⟩),
          (flags.timing, ⟨"timing".toList, .token "false".toList⟩)]
  else
    ⟨"enable".toList, .token "true".toList⟩ ::
      flagFields
        [(flags.json, ⟨"json".toList, .token "true".toList⟩),
          (flags.nmea, ⟨"nmea".toList, .token "true".toList⟩),
          (flags.rare, ⟨"raw".toList, .token "1".toList⟩),
          (flags.raw, ⟨"raw".toList, .token "2".toList⟩),
          (flags.scaled, ⟨"scaled".toList, .token "true".toList⟩),
          (flags.timing, ⟨"timing".toList, .token "true".toList⟩),
          (flags.device, ⟨"device".toList, .ofText d⟩)]

/-- The fields of requests that do not name a device. -/
def plainFields : List Json.Field :=
  [⟨"raw".toList, .token (decimal 0)⟩, ⟨"raw".toList, .token (decimal 1)⟩,
    ⟨"raw".toList, .token (decimal 2)⟩] ++
    ["enable", "json", "nmea", "scaled", "timing"].flatMap fun name =>
      [⟨name.toList, .token (boolText false)⟩, ⟨name.toList, .token (boolText true)⟩]

theorem mem_streamFields {flags : WatchFlags} {d : Text} {f : Json.Field}
    (hf : f ∈ streamFields flags d) : f ∈ plainFields ∨ f = ⟨"device".toList, .ofText d⟩ := by
  unfold streamFields at hf
  simp only at hf
  split at hf
  · left
    rcases List.mem_cons.1 hf with rfl | hf
    · decide
    · rcases mem_flagFields hf with ⟨item, hmem, -, hitem⟩
      simp only [List.mem_cons, List.not_mem_nil, or_false] at hmem
      rcases hmem with rfl | rfl | rfl | rfl | rfl | rfl
      all_goals
        rw [← hitem]
        simp only
        decide
  · rcases List.mem_cons.1 hf with rfl | hf
    · exact .inl (by decide)
    · rcases mem_flagFields hf with ⟨item, hmem, -, hitem⟩
      simp only [List.mem_cons, List.not_mem_nil, or_false] at hmem
      rcases hmem with rfl | rfl | rfl | rfl | rfl | rfl | rfl
      on_goal 7 => exact .inr hitem.symm
      all_goals
        rw [← hitem]
        simp only
        exact .inl (by decide)

/-- The policy that the flags ask for, of a client that has the policy `ccp`. -/
def WatchFlags.policy (flags : WatchFlags) (d : Text) (ccp : Policy) : Policy :=
  let flags := flags.orJson
  { watcher := !flags.disable
    json := if flags.json then !flags.disable else ccp.json
    nmea := if flags.nmea then !flags.disable else ccp.nmea
    -- `raw` and `rare` swap places when watching is disabled
    raw :=
      if flags.disable then
        if flags.rare then 0 else if flags.raw then 1 else ccp.raw
      else if flags.raw then 2 else if flags.rare then 1 else ccp.raw
    scaled := flags.scaled && !flags.disable
    timing := flags.timing && !flags.disable
    devpath := if flags.device && !flags.disable then d else []
    remote := [] }

/-! ## The command -/

theorem catFlags_take (items : List (Bool × Text)) (s : Text) :
    catFlags items (s.take (GPS_JSON_COMMAND_MAX - 1)) =
      some ((s ++ items.flatMap fun item => if item.1 then item.2 else []).take
        (GPS_JSON_COMMAND_MAX - 1)) := by
  induction items generalizing s with
  | nil => simp [catFlags]
  | cons item items ih =>
      rcases item with ⟨b, t⟩
      cases b with
      | false => exact ih s
      | true =>
          have hcat := strlcat_take (show 0 < GPS_JSON_COMMAND_MAX by decide) s t
          rw [catFlags, List.foldlM_cons]
          simp only [if_true, hcat]
          rw [List.flatMap_cons, ← List.append_assoc]
          exact ih (s ++ t)

/-- The request with a comma behind its last field, as far as it fits. -/
def streamBuffer (flags : WatchFlags) (d : Text) : Text :=
  ("?WATCH=\x7b".toList ++ fieldsText (streamFields flags d) ++ [',']).take
    (GPS_JSON_COMMAND_MAX - 1)

theorem length_streamBuffer_lt (flags : WatchFlags) (d : Text) :
    (streamBuffer flags d).length < GPS_JSON_COMMAND_MAX := by
  rw [streamBuffer, List.length_take]
  exact lt_of_le_of_lt (min_le_left _ _) (by decide)

/-- What `gps_stream` makes of flags that are not for the old style. -/
theorem gpsStream_eq {flags : WatchFlags} (hnew : flags.oldstyle = false) (d : Text) :
    gpsStream flags d =
      strlcat GPS_JSON_COMMAND_MAX (trimComma (streamBuffer flags d)) "\x7d;".toList := by
  have hstyle : flags.orJson.oldstyle = false := by
    unfold WatchFlags.orJson
    split <;> exact hnew
  unfold gpsStream streamBuffer streamFields
  simp only [hstyle, Bool.false_eq_true, if_false]
  cases hdisable : flags.orJson.disable with
  | true =>
      simp only [if_true]
      rw [append_fieldsText]
      have hcat := catFlags_take
        [(flags.orJson.json, "\"json\":false,".toList),
          (flags.orJson.nmea, "\"nmea\":false,".toList),
          (flags.orJson.raw, "\"raw\":1,".toList),
          (flags.orJson.rare, "\"raw\":0,".toList),
          (flags.orJson.scaled, "\"scaled\":false,".toList),
          (flags.orJson.timing, "\"timing\":false,".toList)]
        "?WATCH=\x7b\"enable\":false,".toList
      rw [strlcpy, hcat]
      rfl
  | false =>
      simp only [Bool.false_eq_true, if_false]
      rw [append_fieldsText]
      have hcat := catFlags_take
        [(flags.orJson.json, "\"json\":true,".toList),
          (flags.orJson.nmea, "\"nmea\":true,".toList),
          (flags.orJson.rare, "\"raw\":1,".toList),
          (flags.orJson.raw, "\"raw\":2,".toList),
          (flags.orJson.scaled, "\"scaled\":true,".toList),
          (flags.orJson.timing, "\"timing\":true,".toList)]
        "?WATCH=\x7b\"enable\":true,".toList
      rw [strlcpy, hcat]
      cases hdevice : flags.orJson.device with
      | false => rfl
      | true =>
          simp only [if_true]
          refine congrArg (fun buf => strlcat GPS_JSON_COMMAND_MAX (trimComma buf) "\x7d;".toList)
            ((sprintfAt_snprintf GPS_JSON_COMMAND_MAX _ _).trans ?_)
          refine congrArg (List.take (GPS_JSON_COMMAND_MAX - 1)) ?_
          simp [Field.text]

/-- A request that fits the buffer. -/
theorem gpsStream_of_lt {flags : WatchFlags} (hnew : flags.oldstyle = false) {d : Text}
    (hroom : (objectText (streamFields flags d)).length + 8 < GPS_JSON_COMMAND_MAX) :
    gpsStream flags d = some ("?WATCH=".toList ++ objectText (streamFields flags d) ++ [';']) := by
  have hlength : (objectText (streamFields flags d)).length =
      (fieldsText (streamFields flags d)).length + 2 := by
    simp [objectText]
  have hstart : "?WATCH=\x7b".toList.length = 8 := rfl
  have hclose : "\x7d;".toList.length = 2 := rfl
  have hbuffer : streamBuffer flags d =
      "?WATCH=\x7b".toList ++ fieldsText (streamFields flags d) ++ [','] := by
    rw [streamBuffer, List.take_of_length_le]
    rw [List.length_append, List.length_append, hstart, List.length_singleton]
    omega
  rw [gpsStream_eq hnew, hbuffer, trimComma_concat, strlcat_of_length_lt]
  · simp [objectText]
  · rw [List.length_append, hstart, hclose]
    omega

/-- `gps_send` writes a text without formats, with a newline behind it. -/
theorem gpsSend_of_length_lt {format : Text → Text} (hformat : ∀ t, '%' ∉ t → format t = t)
    {fmt : Text} (hfmt : '%' ∉ fmt) (hlength : fmt.length < BUFSIZ - 2)
    (hlast : fmt.getLast? ≠ some '\n') : gpsSend format fmt = some (fmt ++ ['\n']) := by
  have hcat : fmt.length + ['\n'].length < BUFSIZ := by
    rw [List.length_singleton]
    omega
  rw [gpsSend, hformat fmt hfmt, snprintf_of_length_lt hlength]
  exact (if_neg hlast).trans (strlcat_of_length_lt hcat)

/-! ## The policy that gpsd has then -/

section

variable {R : Type} (host : Host R)

/-- The fields of a request set what the flags ask for. -/
theorem putFields_streamFields (flags : WatchFlags) {d : Text} (hnul : '\x00' ∉ d)
    (hlength : d.length < GPS_PATH_MAX) (ccp : Policy) :
    putFields host (chanconfigAttrs R) .none (streamFields flags d) ccp.setDefaults =
      (none, flags.policy d ccp) := by
  have hdevice : ∀ p, putField host (chanconfigAttrs R) .none ⟨"device".toList, .ofText d⟩ p =
      .ok { p with devpath := d } :=
    putField_string (count_chanconfigAttrs _) rfl rfl (fun s p => { p with devpath := s }) rfl rfl hnul
      hlength
  unfold streamFields WatchFlags.policy
  generalize flags.orJson = flags
  rcases flags with ⟨disable, json, nmea, rare, raw, scaled, timing, device, oldstyle⟩
  cases disable with
  | true =>
      have hitems := putFields_flagFields host (chanconfigAttrs R) .none
        [(json, ⟨"json".toList, .token "false".toList⟩,
            fun b p => { p with json := if b then false else p.json }),
          (nmea, ⟨"nmea".toList, .token "false".toList⟩,
            fun b p => { p with nmea := if b then false else p.nmea }),
          (raw, ⟨"raw".toList, .token "1".toList⟩,
            fun b p => { p with raw := if b then 1 else p.raw }),
          (rare, ⟨"raw".toList, .token "0".toList⟩,
            fun b p => { p with raw := if b then 0 else p.raw }),
          (scaled, ⟨"scaled".toList, .token "false".toList⟩,
            fun b p => { p with scaled := if b then false else p.scaled }),
          (timing, ⟨"timing".toList, .token "false".toList⟩,
            fun b p => { p with timing := if b then false else p.timing })]
        (by
          intro item hitem p
          simp only [List.mem_cons, List.not_mem_nil, or_false] at hitem
          rcases hitem with rfl | rfl | rfl | rfl | rfl | rfl <;> exact ⟨fun _ => rfl, rfl⟩)
        { ccp.setDefaults with watcher := false }
      refine hitems.trans (congrArg (Prod.mk none) ?_)
      cases scaled <;> cases timing <;> cases device <;> rfl
  | false =>
      have hitems := putFields_flagFields host (chanconfigAttrs R) .none
        [(json, ⟨"json".toList, .token "true".toList⟩,
            fun b p => { p with json := if b then true else p.json }),
          (nmea, ⟨"nmea".toList, .token "true".toList⟩,
            fun b p => { p with nmea := if b then true else p.nmea }),
          (rare, ⟨"raw".toList, .token "1".toList⟩,
            fun b p => { p with raw := if b then 1 else p.raw }),
          (raw, ⟨"raw".toList, .token "2".toList⟩,
            fun b p => { p with raw := if b then 2 else p.raw }),
          (scaled, ⟨"scaled".toList, .token "true".toList⟩,
            fun b p => { p with scaled := if b then true else p.scaled }),
          (timing, ⟨"timing".toList, .token "true".toList⟩,
            fun b p => { p with timing := if b then true else p.timing }),
          (device, ⟨"device".toList, .ofText d⟩,
            fun b p => { p with devpath := if b then d else p.devpath })]
        (by
          intro item hitem p
          simp only [List.mem_cons, List.not_mem_nil, or_false] at hitem
          rcases hitem with rfl | rfl | rfl | rfl | rfl | rfl | rfl
          on_goal 7 => exact ⟨fun _ => hdevice p, rfl⟩
          all_goals exact ⟨fun _ => rfl, rfl⟩)
        ccp.setDefaults
      refine hitems.trans (congrArg (Prod.mk none) ?_)
      cases scaled <;> cases timing <;> cases device <;> rfl

theorem fits_streamFields (flags : WatchFlags) {d : Text} (hd : '"' ∉ d ∧ '\\' ∉ d)
    (hlength : d.length < GPS_PATH_MAX) :
    ∀ f ∈ streamFields flags d, f.Fits (chanconfigAttrs R) := by
  intro f hf
  rcases mem_streamFields hf with hplain | rfl
  · have hbool : ∀ (b : Bool) (cursor : Cursor Empty Policy R),
        (Value.token (boolText b)).Fits cursor := fun b cursor => fits_boolText cursor b
    have hnumber : ∀ (n : Nat) (cursor : Cursor Empty Policy R), n < 10 →
        (Value.token (decimal n)).Fits cursor := fun n cursor hn => fits_decimal cursor (by omega)
    simp only [plainFields, List.flatMap_cons, List.flatMap_nil, List.cons_append, List.nil_append,
      List.mem_cons, List.not_mem_nil, or_false] at hplain
    rcases hplain with rfl | rfl | rfl | hflag
    · exact Field.fits_of_find rfl (by decide) (hnumber 0 _ (by decide)) le_rfl
    · exact Field.fits_of_find rfl (by decide) (hnumber 1 _ (by decide)) le_rfl
    · exact Field.fits_of_find rfl (by decide) (hnumber 2 _ (by decide)) le_rfl
    · rcases hflag with rfl | rfl | rfl | rfl | rfl | rfl | rfl | rfl | rfl | rfl <;>
        exact Field.fits_of_find rfl (by decide) (hbool _ _) le_rfl
  · exact Field.fits_string rfl (by decide) rfl hd hlength
      ((Nat.le_of_lt hlength).trans (by decide))

/-- `json_watch_read` on the object of a request. -/
theorem jsonWatchRead_streamFields (flags : WatchFlags) {d : Text} (hd : '"' ∉ d ∧ '\\' ∉ d)
    (hnul : '\x00' ∉ d) (hlength : d.length < GPS_PATH_MAX) (ccp : Policy) (text : Text) :
    jsonWatchRead host (objectText (streamFields flags d) ++ text) ccp =
      (.done (text.dropWhile isSpace), flags.policy d ccp) := by
  have hne : streamFields flags d ≠ [] := by
    unfold streamFields
    simp only
    split <;> exact List.cons_ne_nil _ _
  exact readFlat_objectText hne (fits_streamFields flags hd hlength)
    (putFields_streamFields host flags hnul hlength ccp) text

/-! ## Requests that fit -/

/-- There are no formats in a request, unless there are in the name of its device. -/
theorem percent_not_mem_streamFields (flags : WatchFlags) {d : Text} (hpercent : '%' ∉ d) :
    '%' ∉ objectText (streamFields flags d) := by
  have hfields : ∀ f ∈ streamFields flags d, '%' ∉ f.text := by
    intro f hf
    rcases mem_streamFields hf with hplain | rfl
    · have hall : ∀ f ∈ plainFields, '%' ∉ f.text := by decide
      exact hall f hplain
    · simp [Field.text, hpercent]
  have hmem := not_mem_fieldsText (show '%' ≠ ',' by decide) hfields
  rw [objectText, List.mem_cons, List.mem_append]
  rintro (h | h | h)
  · exact absurd h (by decide)
  · exact hmem h
  · exact absurd h (by decide)

/-- The name of a device fits, or it is not asked for. -/
theorem length_lt_or_not_device {flags : WatchFlags} {d : Text}
    (hroom : (objectText (streamFields flags d)).length + 8 < GPS_JSON_COMMAND_MAX) :
    d.length < GPS_PATH_MAX ∨
      (streamFields flags d = streamFields flags [] ∧
        ∀ ccp, flags.policy d ccp = flags.policy [] ccp) := by
  by_cases hdevice : (⟨"device".toList, .ofText d⟩ : Json.Field) ∈ streamFields flags d
  · left
    have htext := length_text_le hdevice
    have hlength : (⟨"device".toList, .ofText d⟩ : Json.Field).text.length = d.length + 11 := by
      simp [Field.text]
    rw [objectText, List.length_cons, List.length_append] at hroom
    unfold GPS_JSON_COMMAND_MAX at hroom
    unfold GPS_PATH_MAX
    omega
  · right
    have hasked : flags.orJson.disable = true ∨ flags.orJson.device = false := by
      rcases Bool.eq_false_or_eq_true flags.orJson.disable with hdisable | hdisable
      · exact .inl hdisable
      · refine .inr (Bool.eq_false_iff.2 fun hasked => hdevice ?_)
        unfold streamFields
        simp only [hdisable, hasked, Bool.false_eq_true, if_false]
        refine List.mem_cons_of_mem _ (List.mem_flatMap.2 ⟨(true, _), ?_, List.mem_singleton_self _⟩)
        exact List.mem_of_getLast? rfl
    unfold streamFields WatchFlags.policy
    generalize flags.orJson = flags at hasked
    rcases flags with ⟨disable, json, nmea, rare, raw, scaled, timing, device, oldstyle⟩
    rcases hasked with rfl | rfl
    · refine ⟨rfl, fun ccp => ?_⟩
      simp only [Bool.not_true, Bool.and_false]
      rfl
    · exact ⟨rfl, fun ccp => rfl⟩

/-- gpsd makes of a request that fits the buffer the policy that the flags ask for. -/
theorem jsonWatchRead_gpsStream {format : Text → Text} (hformat : ∀ t, '%' ∉ t → format t = t)
    {flags : WatchFlags} (hnew : flags.oldstyle = false) {d : Text} (hd : '"' ∉ d ∧ '\\' ∉ d)
    (hnul : '\x00' ∉ d) (hpercent : '%' ∉ d)
    (hroom : (objectText (streamFields flags d)).length + 8 < GPS_JSON_COMMAND_MAX) (ccp : Policy) :
    ∃ request, (gpsStream flags d).bind (gpsSend format) = some ("?WATCH=".toList ++ request) ∧
      jsonWatchRead host request ccp = (.done [';', '\n'], flags.policy d ccp) := by
  have hplain : '%' ∉ "?WATCH=".toList ++ objectText (streamFields flags d) ++ [';'] := by
    simp [percent_not_mem_streamFields flags hpercent]
  have hsize : ("?WATCH=".toList ++ objectText (streamFields flags d) ++ [';']).length <
      BUFSIZ - 2 := by
    have hwatch : "?WATCH=".toList.length = 7 := rfl
    rw [List.length_append, List.length_append, hwatch, List.length_singleton]
    unfold GPS_JSON_COMMAND_MAX at hroom
    unfold BUFSIZ
    omega
  have hsend := gpsSend_of_length_lt hformat hplain hsize (by
    rw [List.getLast?_concat]
    decide)
  refine ⟨objectText (streamFields flags d) ++ [';', '\n'], ?_, ?_⟩
  · rw [gpsStream_of_lt hnew hroom, Option.bind_some, hsend]
    simp
  · rcases length_lt_or_not_device hroom with hlength | ⟨hfields, hpolicy⟩
    · exact jsonWatchRead_streamFields host flags hd hnul hlength ccp _
    · rw [hfields, hpolicy]
      exact jsonWatchRead_streamFields host flags (by decide) (by decide) (by decide) ccp _

theorem jsonWatchRead_gpsStream_raw : ∃ request,
    (gpsStream { raw := true, timing := true } []).bind (gpsSend id) =
        some ("?WATCH=".toList ++ request) ∧
      jsonWatchRead (⟨fun _ => (), fun _ => (), '?'⟩ : Host Unit) request Policy.zero =
        (.done [';', '\n'], { Policy.zero with watcher := true, raw := 2, timing := true }) :=
  jsonWatchRead_gpsStream _ (fun _ _ => rfl) rfl (by decide) (by decide) (by decide) (by decide)
    Policy.zero

/-! ## The device of cgps -/

/-- `WATCH_ENABLE` and `WATCH_DEVICE`, the flags of cgps when it is told a device. -/
def cgpsFlags : WatchFlags :=
  { device := true }

/-- The specification that the device goes to. -/
def deviceCursor (R : Type) : Cursor Empty Policy R :=
  ⟨{ name := "device".toList,
     kind := .string (fun s ccp => { ccp with devpath := s }) GPS_PATH_MAX },
    [{ name := "remote".toList,
       kind := .string (fun s ccp => { ccp with remote := s }) GPS_PATH_MAX }]⟩

/-- The request of cgps up to the device. -/
theorem jsonWatchRead_device (ccp : Policy) (s : Text) :
    jsonWatchRead host ("\x7b\"enable\":true,\"json\":true,\"device\":\"".toList ++ s) ccp =
      run (fun spec => spec.elim) host (chanconfigAttrs R) .none 0 s
        ⟨.in_val_string (deviceCursor R) [], GPS_PATH_MAX - 1,
          { ccp.setDefaults with json := true }⟩ := by
  have htrue : ∀ (cursor : Cursor Empty Policy R), (Value.token "true".toList).Fits cursor :=
    fun cursor => fits_boolText cursor true
  have henable : Field.Fits (chanconfigAttrs R) ⟨"enable".toList, .token "true".toList⟩ :=
    Field.fits_of_find rfl (by decide) (htrue _) le_rfl
  have hjson : Field.Fits (chanconfigAttrs R) ⟨"json".toList, .token "true".toList⟩ :=
    Field.fits_of_find rfl (by decide) (htrue _) le_rfl
  have htext : "\x7b\"enable\":true,\"json\":true,\"device\":\"".toList ++ s =
      '\x7b' :: ((⟨"enable".toList, .token "true".toList⟩ : Field).text ++ ',' ::
        ((⟨"json".toList, .token "true".toList⟩ : Field).text ++ ',' ::
          '"' :: ("device".toList ++ '"' :: ':' :: '"' :: s))) := by
    simp [Field.text]
  rw [htext, jsonWatchRead, readFlat, internalReadObject_brace, setDefaults_chanconfigAttrs]
  simp only
  rcases run_field (fun spec => spec.elim) host (chanconfigAttrs R) .none henable le_rfl
    ccp.setDefaults (.inl rfl) ((⟨"json".toList, .token "true".toList⟩ : Field).text ++ ',' ::
      '"' :: ("device".toList ++ '"' :: ':' :: '"' :: s)) with ⟨maxlen, hmaxlen, hrun⟩
  -- watcher mode is the default
  have henabled : putField host (chanconfigAttrs R) .none ⟨"enable".toList, .token "true".toList⟩
      ccp.setDefaults = .ok ccp.setDefaults := rfl
  have hjsonOn : putField host (chanconfigAttrs R) .none ⟨"json".toList, .token "true".toList⟩
      ccp.setDefaults = .ok { ccp.setDefaults with json := true } := rfl
  rw [henabled] at hrun
  rcases run_field (fun spec => spec.elim) host (chanconfigAttrs R) .none hjson hmaxlen
    ccp.setDefaults (.inl rfl) ('"' :: ("device".toList ++ '"' :: ':' :: '"' :: s)) with
    ⟨maxlen', -, hrun'⟩
  rw [hjsonOn] at hrun'
  have hfind : findAttr "device".toList (chanconfigAttrs R) = some (deviceCursor R) := rfl
  simp only [if_true] at hrun hrun'
  rw [hrun, hrun', run_attr _ _ _ _ _ _ (by decide) (by decide), hfind]
  simp only
  rw [run_openQuote _ _ _ _ rfl]
  rfl

/-- The text of the request, up to the comma behind the device. -/
theorem streamBuffer_device (d : Text) :
    streamBuffer cgpsFlags d =
      ("?WATCH=".toList ++ "\x7b\"enable\":true,\"json\":true,\"device\":\"".toList ++ d ++
        "\",".toList).take (GPS_JSON_COMMAND_MAX - 1) := by
  have hfields : streamFields cgpsFlags d =
      [⟨"enable".toList, .token "true".toList⟩, ⟨"json".toList, .token "true".toList⟩,
        ⟨"device".toList, .ofText d⟩] := rfl
  rw [streamBuffer, hfields]
  simp [fieldsText, Field.text]

/-- `gps_send` adds a newline, or there is one already. -/
theorem gpsSend_eq {format : Text → Text} (hformat : ∀ t, '%' ∉ t → format t = t) {fmt : Text}
    (hfmt : '%' ∉ fmt) (hlength : fmt.length < BUFSIZ - 2) :
    ∃ tail, (tail = [] ∨ tail = ['\n']) ∧ gpsSend format fmt = some (fmt ++ tail) := by
  by_cases hlast : fmt.getLast? = some '\n'
  · refine ⟨[], .inl rfl, ?_⟩
    rw [gpsSend, hformat fmt hfmt, snprintf_of_length_lt hlength, List.append_nil]
    exact if_pos hlast
  · exact ⟨['\n'], .inr rfl, gpsSend_of_length_lt hformat hfmt hlength hlast⟩

/-- The object that cgps means to send. -/
theorem objectText_device (d : Text) :
    objectText (streamFields cgpsFlags d) =
      "\x7b\"enable\":true,\"json\":true,\"device\":\"".toList ++ (d ++ ['"', '\x7d']) := by
  have hfields : streamFields cgpsFlags d =
      [⟨"enable".toList, .token "true".toList⟩, ⟨"json".toList, .token "true".toList⟩,
        ⟨"device".toList, .ofText d⟩] := rfl
  rw [hfields]
  simp [objectText, fieldsText, Field.text]

/-- A device whose name, with its quotes and a brace, fits the request. -/
theorem gpsStream_device_short {d : Text} (hlength : d.length ≤ 33) :
    ∃ more, (more = [] ∨ more = [';']) ∧
      gpsStream cgpsFlags d =
        some ("?WATCH=".toList ++ (objectText (streamFields cgpsFlags d) ++ more)) := by
  have hwatch : "?WATCH=".toList.length = 7 := rfl
  have hstart : "\x7b\"enable\":true,\"json\":true,\"device\":\"".toList.length = 37 := rfl
  have hend : "\",".toList = ['"'] ++ [','] := rfl
  have hbuffer : trimComma (streamBuffer cgpsFlags d) =
      "?WATCH=".toList ++ "\x7b\"enable\":true,\"json\":true,\"device\":\"".toList ++ d ++ ['"'] := by
    rw [streamBuffer_device, List.take_of_length_le, hend, ← List.append_assoc, trimComma_concat]
    simp only [List.length_append, hwatch, hstart, hend, List.length_singleton]
    unfold GPS_JSON_COMMAND_MAX
    omega
  have hsize : (trimComma (streamBuffer cgpsFlags d)).length = 45 + d.length := by
    rw [hbuffer]
    simp only [List.length_append, hwatch, hstart, List.length_singleton]
    omega
  rw [gpsStream_eq rfl, strlcat_of_dst_lt (by rw [hsize]; unfold GPS_JSON_COMMAND_MAX; omega), hsize,
    hbuffer]
  have hroom : ∃ k, GPS_JSON_COMMAND_MAX - (45 + d.length) - 1 = k + 1 :=
    ⟨33 - d.length, by unfold GPS_JSON_COMMAND_MAX; omega⟩
  rcases hroom with ⟨k, hk⟩
  have hclose : "\x7d;".toList.take (k + 1) = '\x7d' :: [';'].take k := rfl
  refine ⟨[';'].take k, ?_, ?_⟩
  · cases k with
    | zero => exact .inl rfl
    | succ k => exact .inr (List.take_of_length_le (Nat.le_add_left _ _))
  · rw [hk, hclose, objectText_device]
    simp

/-- A device whose name fits with its quote, and without the brace. -/
theorem gpsStream_device_exact {d : Text} (hlength : d.length = 34) :
    gpsStream cgpsFlags d =
      some ("?WATCH=".toList ++ ("\x7b\"enable\":true,\"json\":true,\"device\":\"".toList ++
        (d ++ ['"']))) := by
  have hwatch : "?WATCH=".toList.length = 7 := rfl
  have hstart : "\x7b\"enable\":true,\"json\":true,\"device\":\"".toList.length = 37 := rfl
  have hend : "\",".toList = ['"'] ++ [','] := rfl
  have hsize : ("?WATCH=".toList ++ "\x7b\"enable\":true,\"json\":true,\"device\":\"".toList ++ d ++
      ['"']).length = GPS_JSON_COMMAND_MAX - 1 := by
    simp only [List.length_append, hwatch, hstart, hlength, List.length_singleton]
    rfl
  have hbuffer : streamBuffer cgpsFlags d =
      "?WATCH=".toList ++ "\x7b\"enable\":true,\"json\":true,\"device\":\"".toList ++ d ++ ['"'] := by
    rw [streamBuffer_device, hend, ← List.append_assoc, ← hsize, List.take_left']
    rfl
  have hlast : trimComma (streamBuffer cgpsFlags d) = streamBuffer cgpsFlags d := by
    refine trimComma_of_ne ?_
    rw [hbuffer, List.getLast?_concat]
    decide
  rw [gpsStream_eq rfl, hlast, strlcat_of_dst_lt (by rw [hbuffer, hsize]; decide), hbuffer, hsize]
  simp [GPS_JSON_COMMAND_MAX]

/-- A longer name is cut off. -/
theorem gpsStream_device_long {d : Text} (hlength : 34 < d.length) :
    ∃ s, s.length ≤ 37 ∧ (∀ c ∈ s, c ∈ d ∨ c = '\x7d' ∨ c = ';') ∧
      gpsStream cgpsFlags d =
        some ("?WATCH=".toList ++ ("\x7b\"enable\":true,\"json\":true,\"device\":\"".toList ++ s)) := by
  have hwatch : "?WATCH=".toList.length = 7 := rfl
  have hstart : "\x7b\"enable\":true,\"json\":true,\"device\":\"".toList.length = 37 := rfl
  have hbuffer : streamBuffer cgpsFlags d =
      "?WATCH=".toList ++ "\x7b\"enable\":true,\"json\":true,\"device\":\"".toList ++ d.take 35 := by
    rw [streamBuffer_device, List.take_append_of_le_length, List.take_append, List.take_of_length_le]
    · simp only [List.length_append, hwatch, hstart]
      rfl
    · simp only [List.length_append, hwatch, hstart]
      decide
    · simp only [List.length_append, hwatch, hstart]
      unfold GPS_JSON_COMMAND_MAX
      omega
  have hne : d.take 35 ≠ [] := by
    intro h
    have hzero := congrArg List.length h
    rw [List.length_take, List.length_nil] at hzero
    omega
  have htrim : (trimComma (d.take 35)).length ≤ 35 := by
    have hprefix := (trimComma_isPrefix (d.take 35)).length_le
    rw [List.length_take] at hprefix
    omega
  have hsize : (trimComma (streamBuffer cgpsFlags d)).length < GPS_JSON_COMMAND_MAX :=
    lt_of_le_of_lt (trimComma_isPrefix _).length_le (length_streamBuffer_lt _ _)
  rw [gpsStream_eq rfl, strlcat_of_dst_lt hsize]
  generalize GPS_JSON_COMMAND_MAX - (trimComma (streamBuffer cgpsFlags d)).length - 1 = k
  rw [hbuffer, trimComma_append _ hne]
  refine ⟨trimComma (d.take 35) ++ "\x7d;".toList.take k, ?_, ?_, ?_⟩
  · have htwo : ("\x7d;".toList.take k).length ≤ 2 := by
      rw [List.length_take]
      exact min_le_right _ _
    rw [List.length_append]
    omega
  · intro c hc
    rcases List.mem_append.1 hc with hc | hc
    · exact .inl (List.mem_of_mem_take ((trimComma_isPrefix _).subset hc))
    · have hmem : c ∈ ['\x7d', ';'] := List.mem_of_mem_take hc
      exact .inr (by simpa using hmem)
  · rw [List.append_assoc, List.append_assoc]

/-- The quote of the device, and no brace behind it. -/
theorem jsonWatchRead_device_exact {d : Text} (hd : '"' ∉ d ∧ '\\' ∉ d) (hnul : '\x00' ∉ d)
    (hlength : d.length < GPS_PATH_MAX) (ccp : Policy) :
    jsonWatchRead host ("\x7b\"enable\":true,\"json\":true,\"device\":\"".toList ++
        (d ++ ['"', '\n'])) ccp =
      (.done [], { ccp.setDefaults with json := true, devpath := d }) := by
  have htext : (d.map Piece.plain).flatMap Piece.text = d := by
    have hvalue := Value.text_ofText d
    rw [Value.ofText, Value.text] at hvalue
    exact List.append_cancel_right (List.cons.inj hvalue).2
  have hchar : (d.map Piece.plain).map Piece.char = d := Value.content_ofText d
  have hreadable : ∀ p ∈ d.map Piece.plain, p.Readable := by
    intro p hp
    rcases List.mem_map.1 hp with ⟨c, hc, rfl⟩
    exact ⟨fun h => hd.1 (h ▸ hc), fun h => hd.2 (h ▸ hc)⟩
  have hstore : storeOutcome (GPS_PATH_MAX - 1) 0 (d.map Piece.plain) = none := by
    unfold GPS_PATH_MAX at hlength ⊢
    refine storeOutcome_eq_none ?_ ?_
    · rw [List.length_map]
      unfold JSON_VAL_MAX
      omega
    · rw [List.length_map]
      push_cast
      omega
  have hrun := run_quoted (fun spec => spec.elim) host (chanconfigAttrs R) .none hreadable
    (deviceCursor R) [] (GPS_PATH_MAX - 1) { ccp.setDefaults with json := true } ['\n']
  rw [List.length_nil, hstore, htext, hchar, List.nil_append] at hrun
  rw [jsonWatchRead_device, hrun]
  -- the newline ends the value
  have hend : run (fun spec => spec.elim) host (chanconfigAttrs R) .none 0 ['\n']
      ⟨.post_val (deviceCursor R) true d, GPS_PATH_MAX - 1, { ccp.setDefaults with json := true }⟩ =
        (.done [], { ccp.setDefaults with
          json := true, devpath := (cString d).take (GPS_PATH_MAX - 1) }) := rfl
  rw [hend, cString_eq_self hnul, List.take_of_length_le (Nat.le_sub_one_of_lt hlength)]

section Requests

variable {format : Text → Text} (hformat : ∀ t, '%' ∉ t → format t = t) {d : Text}
  (hd : '"' ∉ d ∧ '\\' ∉ d) (hnul : '\x00' ∉ d) (hpercent : '%' ∉ d) (ccp : Policy)

include hformat hd hnul hpercent

/-- gpsd reads the whole request. -/
theorem exists_request_short (hlength : d.length ≤ 33) :
    ∃ request rest, (gpsStream cgpsFlags d).bind (gpsSend format) =
        some ("?WATCH=".toList ++ request) ∧
      jsonWatchRead host request ccp =
        (.done rest, { ccp.setDefaults with json := true, devpath := d }) := by
  have hwatch : "?WATCH=".toList.length = 7 := rfl
  have hstart : "\x7b\"enable\":true,\"json\":true,\"device\":\"".toList.length = 37 := rfl
  rcases gpsStream_device_short hlength with ⟨more, hmore, hstream⟩
  have hmorePlain : '%' ∉ more ∧ more.length ≤ 1 := by
    rcases hmore with rfl | rfl <;> decide
  have hplain : '%' ∉ "?WATCH=".toList ++ (objectText (streamFields cgpsFlags d) ++ more) := by
    rw [objectText_device]
    simp [hpercent, hmorePlain.1]
  have hsize : ("?WATCH=".toList ++ (objectText (streamFields cgpsFlags d) ++ more)).length <
      BUFSIZ - 2 := by
    rw [objectText_device]
    simp only [List.length_append, List.length_cons, List.length_nil, hwatch, hstart]
    unfold BUFSIZ
    omega
  rcases gpsSend_eq hformat hplain hsize with ⟨tail, -, hsend⟩
  refine ⟨objectText (streamFields cgpsFlags d) ++ (more ++ tail), (more ++ tail).dropWhile isSpace,
    ?_, ?_⟩
  · rw [hstream, Option.bind_some, hsend, List.append_assoc, List.append_assoc]
  · rw [jsonWatchRead_streamFields host cgpsFlags hd hnul (by unfold GPS_PATH_MAX; omega)]
    rfl

/-- The request has no brace, and the newline that `gps_send` adds ends the value. -/
theorem exists_request_exact (hlength : d.length = 34) :
    ∃ request rest, (gpsStream cgpsFlags d).bind (gpsSend format) =
        some ("?WATCH=".toList ++ request) ∧
      jsonWatchRead host request ccp =
        (.done rest, { ccp.setDefaults with json := true, devpath := d }) := by
  have hwatch : "?WATCH=".toList.length = 7 := rfl
  have hstart : "\x7b\"enable\":true,\"json\":true,\"device\":\"".toList.length = 37 := rfl
  have hplain : '%' ∉ "?WATCH=".toList ++
      ("\x7b\"enable\":true,\"json\":true,\"device\":\"".toList ++ (d ++ ['"'])) := by
    simp [hpercent]
  have hsend := gpsSend_of_length_lt hformat hplain
    (by
      simp only [List.length_append, hwatch, hstart, hlength, List.length_singleton]
      decide)
    (by
      rw [← List.append_assoc, ← List.append_assoc, List.getLast?_concat]
      decide)
  refine ⟨"\x7b\"enable\":true,\"json\":true,\"device\":\"".toList ++ (d ++ ['"', '\n']), [], ?_, ?_⟩
  · rw [gpsStream_device_exact hlength, Option.bind_some, hsend]
    simp
  · rw [jsonWatchRead_device_exact host hd hnul (by unfold GPS_PATH_MAX; omega)]

omit hnul

/-- The value of the device does not end. -/
theorem exists_request_long (hlength : 34 < d.length) :
    ∃ request rest, (gpsStream cgpsFlags d).bind (gpsSend format) =
        some ("?WATCH=".toList ++ request) ∧
      jsonWatchRead host request ccp =
        (.done rest, { ccp.setDefaults with json := true }) := by
  have hwatch : "?WATCH=".toList.length = 7 := rfl
  have hstart : "\x7b\"enable\":true,\"json\":true,\"device\":\"".toList.length = 37 := rfl
  rcases gpsStream_device_long hlength with ⟨s, hs, hchars, hstream⟩
  have hplain : '%' ∉ "?WATCH=".toList ++
      ("\x7b\"enable\":true,\"json\":true,\"device\":\"".toList ++ s) := by
    have hs : '%' ∉ s := by
      intro h
      rcases hchars _ h with h | h | h
      · exact hpercent h
      · exact absurd h (by decide)
      · exact absurd h (by decide)
    simp [hs]
  have hsize : ("?WATCH=".toList ++
      ("\x7b\"enable\":true,\"json\":true,\"device\":\"".toList ++ s)).length < BUFSIZ - 2 := by
    simp only [List.length_append, hwatch, hstart]
    unfold BUFSIZ
    omega
  rcases gpsSend_eq hformat hplain hsize with ⟨tail, htail, hsend⟩
  -- what is left of the name, the closing characters and the newline are all taken for the value
  have hopen : ∀ c, c ∈ s ++ tail → c ≠ '"' ∧ c ≠ '\\' := by
    intro c hc
    rcases List.mem_append.1 hc with hc | hc
    · rcases hchars c hc with hc | rfl | rfl
      · exact ⟨fun h => hd.1 (h ▸ hc), fun h => hd.2 (h ▸ hc)⟩
      · decide
      · decide
    · rcases htail with rfl | rfl
      · cases hc
      · rw [List.mem_singleton.1 hc]
        decide
  have hshort : (s ++ tail).length ≤ 38 := by
    rcases htail with rfl | rfl
    · rw [List.append_nil]
      omega
    · rw [List.length_append, List.length_singleton]
      omega
  refine ⟨"\x7b\"enable\":true,\"json\":true,\"device\":\"".toList ++ (s ++ tail), [], ?_, ?_⟩
  · rw [hstream, Option.bind_some, hsend]
    simp
  · rw [jsonWatchRead_device, run_unterminated]
    · exact ⟨fun h => (hopen _ h).1 rfl, fun h => (hopen _ h).2 rfl⟩
    · rw [List.length_nil]
      unfold JSON_VAL_MAX
      omega
    · rw [List.length_nil]
      unfold GPS_PATH_MAX
      push_cast
      omega

end Requests

/-- gpsd watches the device that cgps is told if its name has 34 characters or less.  If the name is
longer, the request is cut off in it, gpsd takes it nonetheless, and it watches all devices. -/
theorem devpath_gpsStream {format : Text → Text} (hformat : ∀ t, '%' ∉ t → format t = t) {d : Text}
    (hd : '"' ∉ d ∧ '\\' ∉ d) (hnul : '\x00' ∉ d) (hpercent : '%' ∉ d) (ccp : Policy) :
    ∃ request rest, (gpsStream cgpsFlags d).bind (gpsSend format) =
        some ("?WATCH=".toList ++ request) ∧
      jsonWatchRead host request ccp =
        (.done rest, { ccp with
          watcher := true
          json := true
          scaled := false
          timing := false
          devpath := if d.length ≤ 34 then d else []
          remote := [] }) := by
  rcases lt_trichotomy d.length 34 with hlt | heq | hgt
  · rcases exists_request_short host hformat hd hnul hpercent ccp (Nat.le_of_lt_succ hlt) with
      ⟨request, rest, hsend, hread⟩
    rw [if_pos hlt.le]
    exact ⟨request, rest, hsend, hread⟩
  · rcases exists_request_exact host hformat hd hnul hpercent ccp heq with
      ⟨request, rest, hsend, hread⟩
    rw [if_pos heq.le]
    exact ⟨request, rest, hsend, hread⟩
  · rcases exists_request_long host hformat hd hpercent ccp hgt with ⟨request, rest, hsend, hread⟩
    rw [if_neg (Nat.not_le_of_lt hgt)]
    exact ⟨request, rest, hsend, hread⟩

theorem devpath_gpsStream_usb : ∃ request rest,
    (gpsStream cgpsFlags "/dev/ttyUSB0".toList).bind (gpsSend id) =
        some ("?WATCH=".toList ++ request) ∧
      jsonWatchRead (⟨fun _ => (), fun _ => (), '?'⟩ : Host Unit) request Policy.zero =
        (.done rest, { Policy.zero with
          watcher := true
          json := true
          devpath := "/dev/ttyUSB0".toList }) :=
  devpath_gpsStream _ (fun _ _ => rfl) (by decide) (by decide) (by decide) Policy.zero

end

end Cgps
end ResourceAccounting
