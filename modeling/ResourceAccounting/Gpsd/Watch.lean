import Mathlib.Data.Bool.AllAny
import Mathlib.Data.List.Nodup
import ResourceAccounting.C.Buffers
import ResourceAccounting.Json.Fields

/-!
# Watch — the policy of a client, as JSON

A client of gpsd says with a WATCH object what it wants to be sent, and gpsd answers with one that says
what it will send.  gpsd and the client library read these objects with the same function.

- `Policy` — `struct policy_t`;
- `jsonWatchRead` — `json_watch_read`;
- `jsonWatchDump` — `json_watch_dump`;
- `jsonWatchRead_jsonWatchDump` — the policy comes back.
-/

namespace ResourceAccounting
namespace Gpsd

open Python C Json

/-- `GPS_PATH_MAX` -/
def GPS_PATH_MAX : Nat := 64

/-- `struct policy_t` -/
structure Policy where
  /-- Is watcher mode on? -/
  watcher : Bool
  json : Bool
  nmea : Bool
  raw : Int
  scaled : Bool
  timing : Bool
  /-- Specific device to watch; all of them if it is empty. -/
  devpath : Text
  remote : Text
  deriving DecidableEq, Repr

/-- The policy of a slot that nobody has used. -/
def Policy.zero : Policy :=
  { watcher := false
    json := false
    nmea := false
    raw := 0
    scaled := false
    timing := false
    devpath := []
    remote := [] }

/-! ## The reader -/

/-- `chanconfig_attrs` -/
def chanconfigAttrs (R : Type) : List (Attr Empty Policy R) :=
  [{ name := "class".toList, kind := .check "WATCH".toList },
    { name := "enable".toList, kind := .boolean (fun b ccp => { ccp with watcher := b }) true },
    { name := "json".toList, kind := .boolean (fun b ccp => { ccp with json := b }) false,
      nodefault := true },
    { name := "raw".toList, kind := .integer (fun n ccp => { ccp with raw := n }) 0,
      nodefault := true },
    { name := "nmea".toList, kind := .boolean (fun b ccp => { ccp with nmea := b }) false,
      nodefault := true },
    { name := "scaled".toList, kind := .boolean (fun b ccp => { ccp with scaled := b }) false },
    { name := "timing".toList, kind := .boolean (fun b ccp => { ccp with timing := b }) false },
    { name := "device".toList,
      kind := .string (fun s ccp => { ccp with devpath := s }) GPS_PATH_MAX },
    { name := "remote".toList,
      kind := .string (fun s ccp => { ccp with remote := s }) GPS_PATH_MAX }]

/-- `json_watch_read`.  The template has no arrays. -/
def jsonWatchRead {R : Type} (host : Host R) (buf : Text) (ccp : Policy) : Outcome × Policy :=
  readFlat host (chanconfigAttrs R) .none buf ccp

/-- What the policy is before the first field is read. -/
def Policy.setDefaults (ccp : Policy) : Policy :=
  { ccp with watcher := true, scaled := false, timing := false, devpath := [], remote := [] }

theorem setDefaults_chanconfigAttrs (R : Type) (ccp : Policy) :
    Json.setDefaults .none (chanconfigAttrs R) ccp = (none, ccp.setDefaults) :=
  rfl

/-! ## The writer -/

/-- `cond ? "true" : "false"` -/
def boolText (b : Bool) : Text :=
  if b then "true".toList else "false".toList

/-- The first format of `json_watch_dump`. -/
def watchFormat (ccp : Policy) : Text :=
  "\x7b\"class\":\"WATCH\",\"enable\":".toList ++ boolText ccp.watcher ++
    ",\"json\":".toList ++ boolText ccp.json ++
    ",\"nmea\":".toList ++ boolText ccp.nmea ++
    ",\"raw\":".toList ++ decimal ccp.raw ++
    ",\"scaled\":".toList ++ boolText ccp.scaled ++
    ",\"timing\":".toList ++ boolText ccp.timing ++ [',']

/-- The second one. -/
def deviceFormat (ccp : Policy) : Text :=
  if ccp.devpath = [] then [] else "\"device\":\"".toList ++ ccp.devpath ++ "\",".toList

/-- `json_watch_dump`; none if `strlcat` runs off.  The character before an empty text, which the test
for a comma looks at, is taken to be none. -/
def jsonWatchDump (ccp : Policy) (replylen : Nat) : Option Text :=
  let reply := snprintf replylen (watchFormat ccp)
  let reply := if ccp.devpath = [] then reply else sprintfAt replylen reply (deviceFormat ccp)
  let reply := trimComma reply
  -- the length of the text is taken off a second time in `strlcat`
  strlcat (replylen - reply.length) reply "\x7d\r\n".toList

/-! ## The object that is written -/

/-- The fields of the object. -/
def watchFields (ccp : Policy) : List Field :=
  [⟨"class".toList, .ofText "WATCH".toList⟩,
    ⟨"enable".toList, .token (boolText ccp.watcher)⟩,
    ⟨"json".toList, .token (boolText ccp.json)⟩,
    ⟨"nmea".toList, .token (boolText ccp.nmea)⟩,
    ⟨"raw".toList, .token (decimal ccp.raw)⟩,
    ⟨"scaled".toList, .token (boolText ccp.scaled)⟩,
    ⟨"timing".toList, .token (boolText ccp.timing)⟩] ++
    if ccp.devpath = [] then [] else [⟨"device".toList, .ofText ccp.devpath⟩]

/-- The object without its closing brace. -/
def watchText (ccp : Policy) : Text :=
  '\x7b' :: fieldsText (watchFields ccp)

theorem watchText_concat (ccp : Policy) :
    watchText ccp ++ [','] = watchFormat ccp ++ deviceFormat ccp := by
  unfold watchText watchFields deviceFormat watchFormat
  by_cases hdev : ccp.devpath = []
  · simp [hdev, fieldsText, Field.text]
  · simp [hdev, fieldsText, Field.text]

/-- Both formats print as one text. -/
theorem jsonWatchDump_def (ccp : Policy) (replylen : Nat) :
    jsonWatchDump ccp replylen =
      let reply := trimComma (snprintf replylen (watchText ccp ++ [',']))
      strlcat (replylen - reply.length) reply "\x7d\r\n".toList := by
  unfold jsonWatchDump
  rw [watchText_concat]
  by_cases hdev : ccp.devpath = []
  · simp only [if_pos hdev, deviceFormat, List.append_nil]
  · simp only [if_neg hdev, sprintfAt_snprintf]

/-! ## The room that the writer needs -/

theorem watchText_ne_comma (ccp : Policy) {k : Nat} (hk : k ≤ 2) :
    ((watchText ccp).take k).getLast? ≠ some ',' := by
  have htext : ∃ rest, watchText ccp = '\x7b' :: '"' :: rest := ⟨_, rfl⟩
  rcases htext with ⟨rest, hrest⟩
  rw [hrest]
  match k, hk with
  | 0, _ => exact fun h => by cases h
  | 1, _ => exact fun h => by cases h
  | 2, _ => exact fun h => by cases h

/-- `json_watch_dump` writes the object if there is room for it twice. -/
theorem jsonWatchDump_of_lt {ccp : Policy} {replylen : Nat}
    (h : 2 * (watchText ccp).length + 3 < replylen) :
    jsonWatchDump ccp replylen = some (watchText ccp ++ "\x7d\r\n".toList) := by
  have hclose : "\x7d\r\n".toList.length = 3 := rfl
  rw [jsonWatchDump_def, snprintf_of_length_lt (by rw [List.length_append, List.length_singleton]; omega)]
  simp only [trimComma_concat]
  exact strlcat_of_length_lt (by omega)

/-- `strlcat` runs off if there is less room than for the text twice, unless there is none at all. -/
theorem jsonWatchDump_eq_none_iff {ccp : Policy} {replylen : Nat} (hsize : 2 ≤ replylen) :
    jsonWatchDump ccp replylen = none ↔ replylen ≤ 2 * (watchText ccp).length := by
  have htwo : 2 ≤ (watchText ccp).length := Nat.le_add_left _ _
  rw [jsonWatchDump_def]
  simp only
  rw [strlcat_eq_none_iff]
  by_cases hfits : (watchText ccp).length + 1 < replylen
  · rw [snprintf_of_length_lt (by rw [List.length_append, List.length_singleton]; omega),
      trimComma_concat]
    omega
  · -- the text is cut
    have hcut : snprintf replylen (watchText ccp ++ [',']) = (watchText ccp).take (replylen - 1) := by
      rw [snprintf, List.take_append_of_le_length (by omega)]
    have hlength : ((watchText ccp).take (replylen - 1)).length = replylen - 1 := by
      rw [List.length_take]
      omega
    rw [hcut]
    by_cases hcomma : ((watchText ccp).take (replylen - 1)).getLast? = some ','
    · have hlong : ¬ replylen - 1 ≤ 2 := fun hk => watchText_ne_comma ccp hk hcomma
      rw [trimComma, if_pos hcomma, List.length_dropLast, hlength]
      omega
    · rw [trimComma_of_ne hcomma, hlength]
      omega

/-- The object has 98 characters, and there is room for 150. -/
theorem jsonWatchDump_eq_none_iff_zero : jsonWatchDump Policy.zero 150 = none :=
  (jsonWatchDump_eq_none_iff (by decide)).2 (by decide)

/-! ## The policy comes back -/

/-- What a policy is like that can be written. -/
structure Policy.Plain (ccp : Policy) : Prop where
  quote : '"' ∉ ccp.devpath ∧ '\\' ∉ ccp.devpath
  nul : '\x00' ∉ ccp.devpath
  length : ccp.devpath.length < GPS_PATH_MAX
  raw : -2 ^ 31 ≤ ccp.raw ∧ ccp.raw < 2 ^ 31

section

variable {R : Type}

theorem fits_boolText (cursor : Cursor Empty Policy R) (b : Bool) :
    (Value.token (boolText b)).Fits cursor := by
  have hlength : (boolText b).length ≤ JSON_VAL_MAX := by cases b <;> decide
  have hchars : ∀ c ∈ boolText b, isSpace c = false ∧ c ≠ ',' ∧ c ≠ '\x7d' := by
    cases b <;> exact List.all_iff_forall_prop.1 (by decide)
  refine ⟨?_, hchars, hlength⟩
  cases b
  · exact ⟨'f', _, rfl, by decide, by decide, by decide⟩
  · exact ⟨'t', _, rfl, by decide, by decide, by decide⟩

theorem fits_watchFields {ccp : Policy} (h : ccp.Plain) :
    ∀ f ∈ watchFields ccp, f.Fits (chanconfigAttrs R) := by
  intro f hf
  have hraw : ccp.raw.natAbs < 10 ^ 100 := by
    have hrange := h.raw
    omega
  unfold watchFields at hf
  rcases List.mem_append.1 hf with hf | hf
  · simp only [List.mem_cons, List.not_mem_nil, or_false] at hf
    rcases hf with rfl | rfl | rfl | rfl | rfl | rfl | rfl
    · exact Field.fits_check rfl (by decide) rfl (by decide) (by decide)
    · exact Field.fits_of_find rfl (by decide) (fits_boolText _ _) le_rfl
    · exact Field.fits_of_find rfl (by decide) (fits_boolText _ _) le_rfl
    · exact Field.fits_of_find rfl (by decide) (fits_boolText _ _) le_rfl
    · exact Field.fits_of_find rfl (by decide) (fits_decimal _ hraw) le_rfl
    · exact Field.fits_of_find rfl (by decide) (fits_boolText _ _) le_rfl
    · exact Field.fits_of_find rfl (by decide) (fits_boolText _ _) le_rfl
  · split at hf
    · cases hf
    · rw [List.mem_singleton.1 hf]
      exact Field.fits_string rfl (by decide) rfl h.quote h.length
        ((Nat.le_of_lt h.length).trans (by decide))

variable (host : Host R)

/-- No name stands twice in the template. -/
theorem count_chanconfigAttrs (name : Text) :
    ((chanconfigAttrs R).map Attr.name).count name ≤ 1 := by
  have hnames : (chanconfigAttrs R).map Attr.name =
      ["class", "enable", "json", "raw", "nmea", "scaled", "timing", "device", "remote"].map
        String.toList := rfl
  have hnodup : ((chanconfigAttrs R).map Attr.name).Nodup := by
    rw [hnames]
    decide
  exact List.nodup_iff_count_le_one.1 hnodup name

theorem putField_boolText {name : Text} {cursor : Cursor Empty Policy R}
    (hfind : findAttr name (chanconfigAttrs R) = some cursor) {addr : Bool → Policy → Policy}
    {dflt : Bool} (hkind : cursor.attr.kind = .boolean addr dflt) (hmap : cursor.attr.map = none)
    (b : Bool) (ccp : Policy) :
    putField host (chanconfigAttrs R) .none ⟨name, .token (boolText b)⟩ ccp = .ok (addr b ccp) := by
  rw [putField_of_count (count_chanconfigAttrs _) hfind]
  simp only [Attr.put, Value.isQuoted, hkind, hmap, Kind.wantsQuoted, Attr.decode, Kind.store]
  cases b <;> rfl

/-- The fields set all of the policy but `remote`. -/
theorem putFields_watchFields {ccp : Policy} (h : ccp.Plain) (before : Policy) :
    putFields host (chanconfigAttrs R) .none (watchFields ccp) before.setDefaults =
      (none, { ccp with remote := [] }) := by
  have hbool : ∀ {name : Text} {cursor : Cursor Empty Policy R} {addr : Bool → Policy → Policy}
      {dflt : Bool}, findAttr name (chanconfigAttrs R) = some cursor →
      cursor.attr.kind = .boolean addr dflt → cursor.attr.map = none →
      ∀ (b : Bool) (p : Policy) (fields : List Field),
        putFields host (chanconfigAttrs R) .none (⟨name, .token (boolText b)⟩ :: fields) p =
          putFields host (chanconfigAttrs R) .none fields (addr b p) := by
    intro name cursor addr dflt hfind hkind hmap b p fields
    rw [putFields, putField_boolText host hfind hkind hmap]
  have hclass : ∀ (p : Policy) (fields : List Field),
      putFields host (chanconfigAttrs R) .none (⟨"class".toList, .ofText "WATCH".toList⟩ :: fields) p =
        putFields host (chanconfigAttrs R) .none fields p := fun p fields => rfl
  have hraw : ∀ (p : Policy) (fields : List Field),
      putFields host (chanconfigAttrs R) .none (⟨"raw".toList, .token (decimal ccp.raw)⟩ :: fields) p =
        putFields host (chanconfigAttrs R) .none fields { p with raw := ccp.raw } := by
    intro p fields
    have hput : putField host (chanconfigAttrs R) .none
        ⟨"raw".toList, .token (decimal ccp.raw)⟩ p = .ok { p with raw := ccp.raw } :=
      putField_integer (count_chanconfigAttrs _) rfl rfl (fun n p => { p with raw := n }) rfl h.raw.1
        h.raw.2 p
    rw [putFields, hput]
  unfold watchFields
  simp only [List.cons_append, List.nil_append]
  rw [hclass, hbool rfl rfl rfl, hbool rfl rfl rfl, hbool rfl rfl rfl, hraw, hbool rfl rfl rfl,
    hbool rfl rfl rfl]
  by_cases hdev : ccp.devpath = []
  · -- the default has emptied it
    rw [if_pos hdev, putFields]
    simp only [Policy.setDefaults, hdev]
  · have hput : ∀ p : Policy, putField host (chanconfigAttrs R) .none
        ⟨"device".toList, .ofText ccp.devpath⟩ p = .ok { p with devpath := ccp.devpath } :=
      putField_string (count_chanconfigAttrs _) rfl rfl (fun s p => { p with devpath := s }) rfl rfl h.nul
        h.length
    rw [if_neg hdev, putFields, hput]
    rfl

/-- `json_watch_read` on the object of a policy. -/
theorem jsonWatchRead_watchText {ccp : Policy} (h : ccp.Plain) (before : Policy) (text : Text) :
    jsonWatchRead host (watchText ccp ++ '\x7d' :: text) before =
      (.done (text.dropWhile isSpace), { ccp with remote := [] }) := by
  have hne : watchFields ccp ≠ [] := List.cons_ne_nil _ _
  have htext : objectText (watchFields ccp) ++ text = watchText ccp ++ '\x7d' :: text := by
    simp [objectText, watchText]
  rw [← htext]
  exact readFlat_objectText hne (fits_watchFields h) (putFields_watchFields host h before) text

/-- The library and the daemon read each other's policies: whatever the policy was before, reading what
`json_watch_dump` has written gives the policy that was written, except for `remote`. -/
theorem jsonWatchRead_jsonWatchDump {ccp : Policy} (h : ccp.Plain) (before : Policy) {replylen : Nat}
    (hroom : 2 * (watchText ccp).length + 3 < replylen) :
    ∃ reply, jsonWatchDump ccp replylen = some reply ∧
      jsonWatchRead host reply before = (.done [], { ccp with remote := [] }) :=
  ⟨_, jsonWatchDump_of_lt hroom, jsonWatchRead_watchText host h before ['\r', '\n']⟩

theorem jsonWatchRead_jsonWatchDump_raw :
    ∃ reply, jsonWatchDump { Policy.zero with raw := 2, devpath := "/dev/ttyS0".toList } 4097 =
        some reply ∧
      jsonWatchRead (⟨fun _ => (), fun _ => (), '?'⟩ : Host Unit) reply Policy.zero =
        (.done [], { Policy.zero with raw := 2, devpath := "/dev/ttyS0".toList }) :=
  jsonWatchRead_jsonWatchDump _ ⟨by decide, by decide, by decide, by decide⟩ Policy.zero (by decide)

end

end Gpsd
end ResourceAccounting
