import ResourceAccounting.Cgps.Socket
import ResourceAccounting.Gpsd.Devices
import ResourceAccounting.Gpsd.Fix
import ResourceAccounting.Json.Frames
import ResourceAccounting.Json.Safety

/-!
# Unpack — what the client library does with a line from gpsd

A line holds objects, one behind the other.  The class that stands first in the rest of the line
decides which reader gets it.  Nothing is said of the reports of ships: some of the templates of
`json_ais_read` have no end.

- `jsonNoiseRead`, …, `libgpsJsonUnpack` — the functions of libgps_json.c;
- `gpsUnpack` — `gps_unpack` of libgps_sock.c;
- `unpackObjects_ne_stuck` — its loop ends;
- `unpackObjects_ne_fault` — the readers stay in their buffers on a line without escapes;
- `gpsUnpack_fix` — a line without a TPV object leaves the fix alone;
- `unpackLine_tpvText` — a line from gpsd's writer sets it.
-/

namespace ResourceAccounting
namespace Cgps

open Python C Json Gpsd

/-! ## The readers -/

section

variable {A R : Type} (f : Floats R)

/-- What stands in the reports of all sentences. -/
def sentenceAttrs (check : String) : List (Attr A (GpsData R) R) :=
  [{ name := "class".toList, kind := .check check.toList },
    { name := "device".toList,
      kind := .string (fun s d => { d with dev := { d.dev with path := s } }) GPS_PATH_MAX },
    { name := "tag".toList, kind := .string (fun s d => { d with tag := s }) (MAXTAGLEN + 1) }]

/-- Numbers that go to the union in `struct gps_data_t`. -/
def unionReals (names : List String) : List (Attr A (GpsData R) R) :=
  names.map fun name => { name := name.toList, kind := .real (fun _ d => d) f.nan }

/-- Characters that go there. -/
def unionCharacter (name : String) : Attr A (GpsData R) R :=
  { name := name.toList, kind := .character (fun _ d => d) '\x00' }

/-- `json_attrs_1` of `json_noise_read` -/
def noiseAttrs : List (Attr Empty (GpsData R) R) :=
  sentenceAttrs "GST" ++
    [{ name := "time".toList, kind := .time (fun _ d => d) f.nan }] ++
    unionReals f ["time", "rms", "major", "minor", "orient", "lat", "lon", "alt"]

/-- `json_attrs_1` of `json_att_read` -/
def attAttrs : List (Attr Empty (GpsData R) R) :=
  sentenceAttrs "ATT" ++
    unionReals f ["heading"] ++ [unionCharacter "mag_st"] ++
    unionReals f ["pitch"] ++ [unionCharacter "pitch_st"] ++
    unionReals f ["roll"] ++ [unionCharacter "roll_st"] ++
    unionReals f ["yaw"] ++ [unionCharacter "yaw_st"] ++
    unionReals f ["mag_len", "mag_x", "mag_y", "mag_z", "acc_len", "acc_x", "acc_y", "acc_z", "gyro_x",
      "gyro_y", "temp", "depth"]

/-- `json_attrs_version` -/
def versionAttrs : List (Attr Empty (GpsData R) R) :=
  [{ name := "class".toList, kind := .check "VERSION".toList },
    { name := "release".toList, kind := .string (fun _ d => d) 64 },
    { name := "rev".toList, kind := .string (fun _ d => d) 64 },
    { name := "proto_major".toList, kind := .integer (fun _ d => d) 0 },
    { name := "proto_minor".toList, kind := .integer (fun _ d => d) 0 },
    { name := "remote".toList, kind := .string (fun _ d => d) GPS_PATH_MAX }]

/-- `json_attrs_error` -/
def errorAttrs : List (Attr Empty (GpsData R) R) :=
  [{ name := "class".toList, kind := .check "ERROR".toList },
    { name := "message".toList, kind := .string (fun _ d => d) 256 }]

/-- `json_attrs_subdevices`; the devices are in the union. -/
def subdevicesAttrs : List (Attr Empty (GpsData R) R) :=
  [{ name := "class".toList, kind := .check "DEVICE".toList },
    { name := "path".toList, kind := .string (fun _ d => d) GPS_PATH_MAX },
    { name := "activated".toList, kind := .time (fun _ d => d) f.zero },
    { name := "activated".toList, kind := .real (fun _ d => d) f.zero },
    { name := "flags".toList, kind := .integer (fun _ d => d) 0 },
    { name := "driver".toList, kind := .string (fun _ d => d) 64 },
    { name := "subtype".toList, kind := .string (fun _ d => d) 64 },
    { name := "native".toList, kind := .integer (fun _ d => d) (-1) },
    { name := "bps".toList, kind := .integer (fun _ d => d) (-1) },
    { name := "parity".toList, kind := .character (fun _ d => d) 'N' },
    { name := "stopbits".toList, kind := .integer (fun _ d => d) (-1) },
    { name := "cycle".toList, kind := .real (fun _ d => d) f.nan },
    { name := "mincycle".toList, kind := .real (fun _ d => d) f.nan }]

/-- `json_attrs_devices` -/
def devicesAttrs : List (Attr (Spec (GpsData R) R 1) (GpsData R) R) :=
  [{ name := "class".toList, kind := .check "DEVICES".toList },
    { name := "devices".toList,
      kind := .array
        { elements := .structobject fun _ => subdevicesAttrs f
          count := fun _ d => d
          maxlen := MAXUSERDEVS } }]

/-- `json_attrs_2_1`, for the element `i`; the second component is `usedflags`. -/
def satelliteAttrs (i : Nat) : List (Attr Empty (GpsData R × (Nat → Bool)) R) :=
  [{ name := "PRN".toList,
     kind := .integer
       (fun n m => ({ m.1 with PRN := Function.update m.1.PRN i n }, m.2)) 0 },
    { name := "el".toList,
      kind := .integer
        (fun n m => ({ m.1 with elevation := Function.update m.1.elevation i n }, m.2)) 0 },
    { name := "az".toList,
      kind := .integer
        (fun n m => ({ m.1 with azimuth := Function.update m.1.azimuth i n }, m.2)) 0 },
    { name := "ss".toList,
      kind := .real (fun x m => ({ m.1 with ss := Function.update m.1.ss i x }, m.2)) f.zero },
    { name := "used".toList,
      kind := .boolean (fun b m => (m.1, Function.update m.2 i b)) false }]

/-- An attribute of a dilution of precision. -/
def dopAttr {B : Type} (name : String) : Attr A (GpsData R × B) R :=
  { name := name.toList
    kind := .real
      (fun x m => ({ m.1 with dop := Function.update m.1.dop name.toList x }, m.2)) f.nan }

/-- `json_attrs_2` -/
def skyAttrs : List (Attr (Spec (GpsData R × (Nat → Bool)) R 1) (GpsData R × (Nat → Bool)) R) :=
  [{ name := "class".toList, kind := .check "SKY".toList },
    { name := "device".toList,
      kind := .string
        (fun s m => ({ m.1 with dev := { m.1.dev with path := s } }, m.2)) GPS_PATH_MAX },
    { name := "tag".toList,
      kind := .string (fun s m => ({ m.1 with tag := s }, m.2)) (MAXTAGLEN + 1) },
    { name := "time".toList,
      kind := .time (fun x m => ({ m.1 with skyview_time := x }, m.2)) f.nan },
    { name := "time".toList,
      kind := .real (fun x m => ({ m.1 with skyview_time := x }, m.2)) f.nan },
    dopAttr f "hdop", dopAttr f "xdop", dopAttr f "ydop", dopAttr f "vdop", dopAttr f "tdop",
    dopAttr f "pdop", dopAttr f "gdop",
    { name := "satellites".toList,
      kind := .array
        { elements := .object (satelliteAttrs f)
          count := fun n m => ({ m.1 with satellites_visible := n }, m.2)
          maxlen := MAXCHANNELS } }]

end

/-! ## The functions -/

section

variable {R : Type} (host : Host R) (f : Floats R)

def jsonNoiseRead (buf : Text) (d : GpsData R) : Outcome × GpsData R :=
  readFlat host (noiseAttrs f) .none buf d

def jsonAttRead (buf : Text) (d : GpsData R) : Outcome × GpsData R :=
  readFlat host (attAttrs f) .none buf d

def jsonVersionRead (buf : Text) (d : GpsData R) : Outcome × GpsData R :=
  readFlat host versionAttrs .none buf d

def jsonErrorRead (buf : Text) (d : GpsData R) : Outcome × GpsData R :=
  readFlat host errorAttrs .none buf d

def jsonDevicelistRead (buf : Text) (d : GpsData R) : Outcome × GpsData R :=
  readObject host (devicesAttrs f) buf d

/-- The loop of `json_sky_read` over the channels: `satellites_used` is `j` there. -/
def countSatellite (usedflags : Nat → Bool) (d : GpsData R) (i : Nat) : GpsData R :=
  let d := if 0 < d.PRN i then { d with satellites_visible := d.satellites_visible + 1 } else d
  if usedflags i then
    { d with
      used := Function.update d.used d.satellites_used.toNat (d.PRN i)
      satellites_used := d.satellites_used + 1 }
  else d

/-- What `json_sky_read` does behind `json_read_object`. -/
def countSatellites (d : GpsData R) (usedflags : Nat → Bool) : GpsData R :=
  (List.range MAXCHANNELS).foldl (countSatellite usedflags)
    { d with
      satellites_used := 0
      satellites_visible := 0
      used := fun j => if j < MAXCHANNELS then 0 else d.used j }

/-- What it does before. -/
def clearPrns (d : GpsData R) : GpsData R :=
  { d with PRN := fun i => if i < MAXCHANNELS then 0 else d.PRN i }

def jsonSkyRead (buf : Text) (d : GpsData R) : Outcome × GpsData R :=
  match readObject host (skyAttrs f) buf (clearPrns d, fun _ => false) with
  | (.done rest, d, usedflags) => (.done rest, countSatellites d usedflags)
  | (outcome, d, _) => (outcome, d)

end

/-! ## gps_unpack -/

/-- What the functions below use. -/
structure Library (R : Type) where
  host : Host R
  floats : Floats R
  /-- `json_rtcm2_read`: how it ends, and the path of the device if it stores one. -/
  rtcm2 : Text → Outcome × Option Text
  /-- `json_ais_read` -/
  ais : Text → Outcome × Option Text
  /-- What `gps_unpack` does with a line of the old protocol, to the buffer behind it and to the data;
  none if it leaves its arrays. -/
  oldstyle : Text → PrivData → GpsData R → Option (PrivData × GpsData R)

/-- `strstr` -/
def strstr (needle : Text) : Text → Option Text
  | [] => if needle = [] then some [] else none
  | c :: text => if needle <+: c :: text then some (c :: text) else strstr needle text

/-- `STARTSWITH(classtag, "\"class\":\"…\"")` -/
def IsClass (classtag : Text) (name : String) : Prop :=
  "\"class\":\"".toList ++ name.toList ++ ['"'] <+: classtag

instance (classtag : Text) (name : String) : Decidable (IsClass classtag name) :=
  inferInstanceAs (Decidable (_ <+: _))

section

variable {R : Type} (lib : Library R)

/-- A reader of a report. -/
abbrev ReportReader (R : Type) : Type :=
  Text → GpsData R → Outcome × GpsData R

/-- `json_device_read(buf, &gpsdata->dev, end)` -/
def readDev : ReportReader R := fun buf d =>
  let result := jsonDeviceRead lib.host lib.floats buf d.dev
  (result.1, { d with dev := result.2 })

/-- `json_watch_read(buf, &gpsdata->policy, end)` -/
def readPolicy : ReportReader R := fun buf d =>
  let result := jsonWatchRead lib.host buf d.policy
  (result.1, { d with policy := result.2 })

/-- A report that is stored besides in the union only as the path of the device. -/
def readUnion (reader : Text → Outcome × Option Text) : ReportReader R := fun buf d =>
  ((reader buf).1, { d with dev := { d.dev with path := (reader buf).2.getD d.dev.path } })

/-- The branches of `libgps_json_unpack`. -/
def reportReader (classtag : Text) : Option (ReportReader R) :=
  if IsClass classtag "TPV" then some (jsonTpvRead lib.host lib.floats.nan)
  else if IsClass classtag "GST" then some (jsonNoiseRead lib.host lib.floats)
  else if IsClass classtag "SKY" then some (jsonSkyRead lib.host lib.floats)
  else if IsClass classtag "ATT" then some (jsonAttRead lib.host lib.floats)
  else if IsClass classtag "DEVICES" then some (jsonDevicelistRead lib.host lib.floats)
  else if IsClass classtag "DEVICE" then some (readDev lib)
  else if IsClass classtag "WATCH" then some (readPolicy lib)
  else if IsClass classtag "VERSION" then some (jsonVersionRead lib.host)
  else if IsClass classtag "RTCM2" then some (readUnion lib.rtcm2)
  else if IsClass classtag "AIS" then some (readUnion lib.ais)
  else if IsClass classtag "ERROR" then some (jsonErrorRead lib.host)
  else none

/-- `libgps_json_unpack`; the outcome is none if it returns -1. -/
def libgpsJsonUnpack (buf : Text) (d : GpsData R) : Option Outcome × GpsData R :=
  match (strstr "\"class\":".toList buf).bind (reportReader lib) with
  | none => (none, d)
  | some reader => (some (reader buf d).1, (reader buf d).2)

/-- How a line is taken. -/
inductive Unpacked (α : Type)
  | data (a : α)
  /-- A reader leaves its buffers. -/
  | fault
  /-- There are objects left when the turns are used up. -/
  | stuck

def Unpacked.map {α β : Type} (g : α → β) : Unpacked α → Unpacked β
  | data a => .data (g a)
  | fault => .fault
  | stuck => .stuck

/-- The loop of `gps_unpack` over the objects of a line, for so many turns. -/
def unpackObjects : Nat → Text → GpsData R → Unpacked (GpsData R)
  | _, [], d => .data d
  | 0, _ :: _, _ => .stuck
  | fuel + 1, c :: next, d =>
      match libgpsJsonUnpack lib (c :: next) d with
      | (some (.done rest), d) => unpackObjects fuel rest d
      -- `*next` is NULL
      | (some (.error _), d) => .data d
      | (some .fault, _) => .fault
      | (none, d) => .data d

/-- A line of objects.  Each takes a character of the line at least. -/
def unpackLine (line : Text) (d : GpsData R) : Unpacked (GpsData R) :=
  unpackObjects lib line.length line d

/-- `gps_unpack` on a line of the buffer; `p` is the buffer without the line. -/
def gpsUnpack (line : Text) (p : PrivData) (d : GpsData R) : Unpacked (PrivData × GpsData R) :=
  if line.head? = some '\x7b' then
    (unpackLine lib (Json.cString line) d).map (Prod.mk p)
  else
    match lib.oldstyle line p d with
    | some (p, d) => .data (p, d)
    | none => .fault

end

/-! ## What a reader does -/

/-- Whatever a reader of reports does to the data is of a kind `S` and depends on the text only, it
takes a character at least, and leaves no buffer on a text without backslashes. -/
structure Reads {R : Type} (S : (GpsData R → GpsData R) → Prop) (reader : ReportReader R) : Prop where
  acts : ∀ buf, ∃ o g, S g ∧ ∀ d, reader buf d = (o, g d)
  suffix : ∀ c text d rest, (reader (c :: text) d).1 = .done rest → rest <:+ text
  ne_fault : ∀ text d, '\\' ∉ text → (reader text d).1 ≠ .fault

section

variable {R : Type}

/-- The fix stays what it is. -/
def KeepsFix (g : GpsData R → GpsData R) : Prop :=
  ∀ d, (g d).fix = d.fix

/-- The mode is set to a value, or it stays what it is. -/
def SetsMode (g : GpsData R → GpsData R) : Prop :=
  (∃ n, ∀ d, (g d).fix.mode = n) ∨ ∀ d, (g d).fix.mode = d.fix.mode

theorem KeepsFix.setsMode {g : GpsData R → GpsData R} (h : KeepsFix g) : SetsMode g :=
  .inr fun d => congrArg Fix.mode (h d)

theorem KeepsFix.comp {g h : GpsData R → GpsData R} (hg : KeepsFix g) (hh : KeepsFix h) :
    KeepsFix (g ∘ h) :=
  fun d => (hg (h d)).trans (hh d)

theorem SetsMode.comp {g h : GpsData R → GpsData R} (hg : SetsMode g) (hh : SetsMode h) :
    SetsMode (g ∘ h) := by
  rcases hg with ⟨n, hn⟩ | hkeep
  · exact .inl ⟨n, fun d => hn (h d)⟩
  · rcases hh with ⟨n, hn⟩ | hh
    · exact .inl ⟨n, fun d => (hkeep (h d)).trans (hn d)⟩
    · exact .inr fun d => (hkeep (h d)).trans (hh d)

theorem keepsFix_of_stores {S : (GpsData R → GpsData R) → Prop} (hS : ∀ g, S g → KeepsFix g)
    {g : GpsData R → GpsData R} (h : Stores S g) : KeepsFix g := by
  induction h with
  | none => exact fun _ => rfl
  | snoc _ hstore ih => exact (hS _ hstore).comp ih

theorem setsMode_of_stores {S : (GpsData R → GpsData R) → Prop} (hS : ∀ g, S g → SetsMode g)
    {g : GpsData R → GpsData R} (h : Stores S g) : SetsMode g := by
  induction h with
  | none => exact .inr fun _ => rfl
  | snoc _ hstore ih => exact (hS _ hstore).comp ih

theorem Reads.mono {S S' : (GpsData R → GpsData R) → Prop} {reader : ReportReader R}
    (h : Reads S reader) (hS : ∀ g, S g → S' g) : Reads S' reader where
  acts buf := by
    rcases h.acts buf with ⟨o, g, hg, hreader⟩
    exact ⟨o, g, hS g hg, hreader⟩
  suffix := h.suffix
  ne_fault := h.ne_fault

/-! ### The templates -/

variable (host : Host R) (f : Floats R)

theorem keepsFix_sentenceAttrs {A : Type} {ArrayStore : A → (GpsData R → GpsData R) → Prop}
    {check : String} {g : GpsData R → GpsData R} (h : Store ArrayStore (sentenceAttrs check) g) :
    KeepsFix g := by
  rcases h with ⟨a, ha, hg⟩
  simp only [sentenceAttrs, List.mem_cons, List.not_mem_nil, or_false] at ha
  rcases ha with rfl | rfl | rfl
  · exact hg.elim
  · rcases hg with ⟨s, rfl⟩
    exact fun _ => rfl
  · rcases hg with ⟨s, rfl⟩
    exact fun _ => rfl

/-- What goes to the union is stored nowhere else. -/
theorem keepsFix_unionReals {A : Type} {ArrayStore : A → (GpsData R → GpsData R) → Prop}
    {names : List String} {g : GpsData R → GpsData R} (h : Store ArrayStore (unionReals f names) g) :
    KeepsFix g := by
  rcases h with ⟨a, ha, hg⟩
  rcases List.mem_map.1 ha with ⟨name, -, rfl⟩
  rcases hg with ⟨x, rfl⟩
  exact fun _ => rfl

theorem keepsFix_unionCharacter {A : Type} {ArrayStore : A → (GpsData R → GpsData R) → Prop}
    {name : String} {g : GpsData R → GpsData R}
    (h : (unionCharacter name : Attr A (GpsData R) R).kind.Store ArrayStore g) : KeepsFix g := by
  rcases h with ⟨c, rfl⟩
  exact fun _ => rfl

theorem keepsFix_noiseAttrs {g : GpsData R → GpsData R} (h : StoreFlat (noiseAttrs f) g) :
    KeepsFix g := by
  rcases h with ⟨a, ha, hg⟩
  simp only [noiseAttrs, List.mem_append, List.mem_singleton, or_assoc] at ha
  rcases ha with ha | rfl | ha
  · exact keepsFix_sentenceAttrs ⟨a, ha, hg⟩
  · rcases hg with ⟨x, rfl⟩
    exact fun _ => rfl
  · exact keepsFix_unionReals f ⟨a, ha, hg⟩

theorem keepsFix_attAttrs {g : GpsData R → GpsData R} (h : StoreFlat (attAttrs f) g) :
    KeepsFix g := by
  rcases h with ⟨a, ha, hg⟩
  simp only [attAttrs, List.mem_append, List.mem_singleton, or_assoc] at ha
  rcases ha with ha | ha | rfl | ha | rfl | ha | rfl | ha | rfl | ha
  · exact keepsFix_sentenceAttrs ⟨a, ha, hg⟩
  · exact keepsFix_unionReals f ⟨a, ha, hg⟩
  · exact keepsFix_unionCharacter hg
  · exact keepsFix_unionReals f ⟨a, ha, hg⟩
  · exact keepsFix_unionCharacter hg
  · exact keepsFix_unionReals f ⟨a, ha, hg⟩
  · exact keepsFix_unionCharacter hg
  · exact keepsFix_unionReals f ⟨a, ha, hg⟩
  · exact keepsFix_unionCharacter hg
  · exact keepsFix_unionReals f ⟨a, ha, hg⟩

theorem keepsFix_versionAttrs {g : GpsData R → GpsData R}
    (h : StoreFlat (versionAttrs : List (Attr Empty (GpsData R) R)) g) : KeepsFix g := by
  rcases h with ⟨a, ha, hg⟩
  simp only [versionAttrs, List.mem_cons, List.not_mem_nil, or_false] at ha
  rcases ha with rfl | rfl | rfl | rfl | rfl | rfl <;> rcases hg with ⟨x, rfl⟩ <;> exact fun _ => rfl

theorem keepsFix_errorAttrs {g : GpsData R → GpsData R}
    (h : StoreFlat (errorAttrs : List (Attr Empty (GpsData R) R)) g) : KeepsFix g := by
  rcases h with ⟨a, ha, hg⟩
  simp only [errorAttrs, List.mem_cons, List.not_mem_nil, or_false] at ha
  rcases ha with rfl | rfl <;> rcases hg with ⟨x, rfl⟩
  exact fun _ => rfl

theorem keepsFix_subdevicesAttrs {g : GpsData R → GpsData R} (h : StoreFlat (subdevicesAttrs f) g) :
    KeepsFix g := by
  rcases h with ⟨a, ha, hg⟩
  simp only [subdevicesAttrs, List.mem_cons, List.not_mem_nil, or_false] at ha
  rcases ha with rfl | rfl | rfl | rfl | rfl | rfl | rfl | rfl | rfl | rfl | rfl | rfl | rfl <;>
    rcases hg with ⟨x, rfl⟩ <;> exact fun _ => rfl

theorem keepsFix_devicesAttrs {g : GpsData R → GpsData R} (h : StoreObject (devicesAttrs f) g) :
    KeepsFix g := by
  rcases h with ⟨a, ha, hg⟩
  simp only [devicesAttrs, List.mem_cons, List.not_mem_nil, or_false] at ha
  rcases ha with rfl | rfl
  · exact hg.elim
  · rcases hg with ⟨offset, hg⟩ | ⟨n, rfl⟩
    · exact keepsFix_subdevicesAttrs f hg
    · exact fun _ => rfl

/-- The mode is set by one attribute only, and nothing else there depends on it. -/
theorem setsMode_tpvAttrs {nan : R} {g : GpsData R → GpsData R} (h : StoreFlat (tpvAttrs nan) g) :
    SetsMode g := by
  rcases h with ⟨a, ha, hg⟩
  simp only [tpvAttrs, List.mem_cons, List.not_mem_nil, or_false] at ha
  rcases ha with rfl | rfl | rfl | rfl | rfl | rfl | rfl | rfl | rfl | rfl | rfl | rfl | rfl | rfl |
    rfl | rfl | rfl | rfl | rfl
  case inr.inr.inr.inr.inr.inr.inr.inr.inr.inr.inr.inr.inr.inr.inr.inr.inr.inr =>
    rcases hg with ⟨n, rfl⟩
    exact .inl ⟨n, fun _ => rfl⟩
  all_goals rcases hg with ⟨x, rfl⟩
  all_goals exact .inr fun _ => rfl

/-- The fix beside the flags of `json_sky_read`. -/
def KeepsFixOf {B : Type} (g : GpsData R × B → GpsData R × B) : Prop :=
  ∀ m, (g m).1.fix = m.1.fix

theorem keepsFixOf_of_stores {B : Type} {S : (GpsData R × B → GpsData R × B) → Prop}
    (hS : ∀ g, S g → KeepsFixOf g) {g : GpsData R × B → GpsData R × B} (h : Stores S g) :
    KeepsFixOf g := by
  induction h with
  | none => exact fun _ => rfl
  | snoc _ hstore ih => exact fun m => (hS _ hstore _).trans (ih m)

theorem keepsFixOf_satelliteAttrs (i : Nat) {g : GpsData R × (Nat → Bool) → GpsData R × (Nat → Bool)}
    (h : StoreFlat (satelliteAttrs f i) g) : KeepsFixOf g := by
  rcases h with ⟨a, ha, hg⟩
  simp only [satelliteAttrs, List.mem_cons, List.not_mem_nil, or_false] at ha
  rcases ha with rfl | rfl | rfl | rfl | rfl <;> rcases hg with ⟨x, rfl⟩ <;> exact fun _ => rfl

theorem keepsFixOf_skyAttrs {g : GpsData R × (Nat → Bool) → GpsData R × (Nat → Bool)}
    (h : StoreObject (skyAttrs f) g) : KeepsFixOf g := by
  rcases h with ⟨a, ha, hg⟩
  simp only [skyAttrs, List.mem_cons, List.not_mem_nil, or_false] at ha
  rcases ha with rfl | rfl | rfl | rfl | rfl | rfl | rfl | rfl | rfl | rfl | rfl | rfl | rfl
  case inr.inr.inr.inr.inr.inr.inr.inr.inr.inr.inr.inr =>
    rcases hg with ⟨offset, hg⟩ | ⟨n, rfl⟩
    · exact keepsFixOf_satelliteAttrs f offset hg
    · exact fun _ => rfl
  all_goals rcases hg with ⟨x, rfl⟩
  all_goals exact fun _ => rfl

/-! ### The readers -/

/-- A reader whose template has no arrays. -/
theorem reads_readFlat {S : (GpsData R → GpsData R) → Prop} {attrs : List (Attr Empty (GpsData R) R)}
    (hS : ∀ g, Stores (StoreFlat attrs) g → S g) :
    Reads S fun buf d => readFlat host attrs .none buf d where
  acts buf := by
    rcases uniform_readFlat host .none attrs buf with ⟨o, g, hg, hreader⟩
    exact ⟨o, g, hS g hg, hreader⟩
  suffix _ _ _ _ h := done_suffix_tail h
  ne_fault _ d htext := readFlat_ne_fault htext d

theorem reads_jsonTpvRead (nan : R) : Reads SetsMode (jsonTpvRead host nan) :=
  reads_readFlat host fun _ hg => setsMode_of_stores (fun _ => setsMode_tpvAttrs) hg

theorem reads_jsonNoiseRead : Reads KeepsFix (jsonNoiseRead host f) :=
  reads_readFlat host fun _ hg => keepsFix_of_stores (fun _ => keepsFix_noiseAttrs f) hg

theorem reads_jsonAttRead : Reads KeepsFix (jsonAttRead host f) :=
  reads_readFlat host fun _ hg => keepsFix_of_stores (fun _ => keepsFix_attAttrs f) hg

theorem reads_jsonVersionRead : Reads KeepsFix (jsonVersionRead host) :=
  reads_readFlat host fun _ hg => keepsFix_of_stores (fun _ => keepsFix_versionAttrs) hg

theorem reads_jsonErrorRead : Reads KeepsFix (jsonErrorRead host) :=
  reads_readFlat host fun _ hg => keepsFix_of_stores (fun _ => keepsFix_errorAttrs) hg

theorem reads_jsonDevicelistRead : Reads KeepsFix (jsonDevicelistRead host f) where
  acts buf := by
    rcases uniform_readObject host (devicesAttrs f) buf with ⟨o, g, hg, hreader⟩
    exact ⟨o, g, keepsFix_of_stores (fun _ => keepsFix_devicesAttrs f) hg, hreader⟩
  suffix _ _ _ _ h := done_suffix_tail h
  ne_fault _ d htext := readObject_ne_fault htext d

theorem fix_countSatellites (d : GpsData R) (usedflags : Nat → Bool) :
    (countSatellites d usedflags).fix = d.fix := by
  have hfold : ∀ (channels : List Nat) (d : GpsData R),
      (channels.foldl (countSatellite usedflags) d).fix = d.fix := by
    intro channels
    induction channels with
    | nil => exact fun _ => rfl
    | cons i channels ih =>
        intro d
        rw [List.foldl_cons, ih, countSatellite]
        split
        · split <;> rfl
        · split <;> rfl
  exact hfold _ _

theorem jsonSkyRead_fst (buf : Text) (d : GpsData R) :
    (jsonSkyRead host f buf d).1 = (readObject host (skyAttrs f) buf (clearPrns d, fun _ => false)).1 := by
  rw [jsonSkyRead]
  rcases readObject host (skyAttrs f) buf (clearPrns d, fun _ => false) with ⟨o, m⟩
  cases o <;> rfl

theorem reads_jsonSkyRead : Reads KeepsFix (jsonSkyRead host f) where
  acts buf := by
    rcases uniform_readObject host (skyAttrs f) buf with ⟨o, g, hg, hreader⟩
    have hkeeps := keepsFixOf_of_stores (fun _ => keepsFixOf_skyAttrs f) hg
    cases o with
    | done rest =>
        refine ⟨.done rest, fun d => countSatellites (g (clearPrns d, fun _ => false)).1
          (g (clearPrns d, fun _ => false)).2, ?_, fun d => by rw [jsonSkyRead, hreader]⟩
        exact fun d => (fix_countSatellites _ _).trans (hkeeps (clearPrns d, fun _ => false))
    | error e =>
        exact ⟨.error e, fun d => (g (clearPrns d, fun _ => false)).1,
          fun d => hkeeps (clearPrns d, fun _ => false), fun d => by rw [jsonSkyRead, hreader]⟩
    | fault =>
        exact ⟨.fault, fun d => (g (clearPrns d, fun _ => false)).1,
          fun d => hkeeps (clearPrns d, fun _ => false), fun d => by rw [jsonSkyRead, hreader]⟩
  suffix c text d rest h := by
    rw [jsonSkyRead_fst] at h
    exact done_suffix_tail h
  ne_fault text d htext := by
    rw [jsonSkyRead_fst]
    exact readObject_ne_fault htext _

/-- What is read into a part of the data leaves the fix alone. -/
theorem reads_readDev (lib : Library R) : Reads KeepsFix (readDev lib) where
  acts buf := by
    rcases uniform_readFlat lib.host .none (deviceAttrs lib.floats) buf with ⟨o, g, -, hreader⟩
    refine ⟨o, fun d => (readDev lib buf d).2, fun _ => rfl, fun d => Prod.ext ?_ rfl⟩
    exact (jsonDeviceRead_fst lib.host lib.floats buf d.dev).trans (congrArg Prod.fst (hreader _))
  suffix c text d rest h :=
    done_suffix_tail ((jsonDeviceRead_fst lib.host lib.floats (c :: text) d.dev).symm.trans h)
  ne_fault text d htext h := readFlat_ne_fault htext _
    ((jsonDeviceRead_fst lib.host lib.floats text d.dev).symm.trans h)

theorem reads_readPolicy (lib : Library R) : Reads KeepsFix (readPolicy lib) where
  acts buf := by
    rcases uniform_readFlat lib.host .none (chanconfigAttrs R) buf with ⟨o, g, -, hreader⟩
    refine ⟨o, fun d => (readPolicy lib buf d).2, fun _ => rfl, fun d => Prod.ext ?_ rfl⟩
    have h : (readFlat lib.host (chanconfigAttrs R) .none buf d.policy).1 = o :=
      congrArg Prod.fst (hreader d.policy)
    exact h
  suffix c text d rest h := by
    have h' : (readFlat lib.host (chanconfigAttrs R) .none (c :: text) d.policy).1 = .done rest := h
    exact done_suffix_tail h'
  ne_fault text d htext := by
    have h : (readFlat lib.host (chanconfigAttrs R) .none text d.policy).1 ≠ .fault :=
      readFlat_ne_fault htext _
    exact h

theorem ite_some_eq {α : Type} {p : Prop} [Decidable p] {a b : α} {e : Option α}
    (h : (if p then some a else e) = some b) : p ∧ a = b ∨ ¬ p ∧ e = some b := by
  by_cases hp : p
  · rw [if_pos hp] at h
    exact .inl ⟨hp, Option.some.inj h⟩
  · rw [if_neg hp] at h
    exact .inr ⟨hp, h⟩

/-- Only the reader of TPV reports writes to the fix. -/
theorem reads_reportReader {lib : Library R} {classtag : Text} (hrtcm2 : ¬ IsClass classtag "RTCM2")
    (hais : ¬ IsClass classtag "AIS") {reader : ReportReader R}
    (h : reportReader lib classtag = some reader) :
    Reads SetsMode reader ∧ (¬ IsClass classtag "TPV" → Reads KeepsFix reader) := by
  have hboth : ∀ {r : ReportReader R}, Reads KeepsFix r →
      Reads SetsMode r ∧ (¬ IsClass classtag "TPV" → Reads KeepsFix r) := fun hr =>
    ⟨hr.mono fun _ hg => hg.setsMode, fun _ => hr⟩
  rw [reportReader] at h
  rcases ite_some_eq h with ⟨htpv, rfl⟩ | ⟨-, h⟩
  · exact ⟨reads_jsonTpvRead lib.host lib.floats.nan, fun hnot => absurd htpv hnot⟩
  rcases ite_some_eq h with ⟨-, rfl⟩ | ⟨-, h⟩
  · exact hboth (reads_jsonNoiseRead lib.host lib.floats)
  rcases ite_some_eq h with ⟨-, rfl⟩ | ⟨-, h⟩
  · exact hboth (reads_jsonSkyRead lib.host lib.floats)
  rcases ite_some_eq h with ⟨-, rfl⟩ | ⟨-, h⟩
  · exact hboth (reads_jsonAttRead lib.host lib.floats)
  rcases ite_some_eq h with ⟨-, rfl⟩ | ⟨-, h⟩
  · exact hboth (reads_jsonDevicelistRead lib.host lib.floats)
  rcases ite_some_eq h with ⟨-, rfl⟩ | ⟨-, h⟩
  · exact hboth (reads_readDev lib)
  rcases ite_some_eq h with ⟨-, rfl⟩ | ⟨-, h⟩
  · exact hboth (reads_readPolicy lib)
  rcases ite_some_eq h with ⟨-, rfl⟩ | ⟨-, h⟩
  · exact hboth (reads_jsonVersionRead lib.host)
  rcases ite_some_eq h with ⟨hclass, rfl⟩ | ⟨-, h⟩
  · exact absurd hclass hrtcm2
  rcases ite_some_eq h with ⟨hclass, rfl⟩ | ⟨-, h⟩
  · exact absurd hclass hais
  rcases ite_some_eq h with ⟨-, rfl⟩ | ⟨-, h⟩
  · exact hboth (reads_jsonErrorRead lib.host)
  · cases h

/-! ## A line -/

/-- What a line with a TPV report has in it. -/
def tpvTag : Text :=
  "\"class\":\"TPV\"".toList

/-- What a line with corrections or the report of a ship has in it. -/
def unionTags : List Text :=
  ["\"class\":\"RTCM2\"".toList, "\"class\":\"AIS\"".toList]

/-- The text has no report that is read into the union of the data. -/
def Known (text : Text) : Prop :=
  ∀ tag ∈ unionTags, ¬ tag <:+: text

instance (text : Text) : Decidable (Known text) :=
  inferInstanceAs (Decidable (∀ _ ∈ _, _))

theorem Known.of_infix {part text : Text} (h : Known text) (hpart : part <:+: text) : Known part :=
  fun tag htag hmem => h tag htag (hmem.trans hpart)

theorem Known.not_isClass {classtag : Text} (h : Known classtag) :
    ¬ IsClass classtag "RTCM2" ∧ ¬ IsClass classtag "AIS" := by
  refine ⟨fun hclass => h _ List.mem_cons_self hclass.isInfix, fun hclass => ?_⟩
  exact h _ (List.mem_cons_of_mem _ List.mem_cons_self) hclass.isInfix

theorem suffix_of_strstr {needle text found : Text} (h : strstr needle text = some found) :
    found <:+ text := by
  induction text with
  | nil =>
      rw [strstr] at h
      split at h
      · cases h
        exact List.suffix_refl _
      · cases h
  | cons c text ih =>
      rw [strstr] at h
      split at h
      · cases h
        exact List.suffix_refl _
      · exact (ih h).trans (List.suffix_cons c text)

variable {lib : Library R}

/-- The reader of an object, if there is one. -/
theorem reads_of_find {buf : Text} (hknown : Known buf) {reader : ReportReader R}
    (hfind : (strstr "\"class\":".toList buf).bind (reportReader lib) = some reader) :
    Reads SetsMode reader ∧ (¬ tpvTag <:+: buf → Reads KeepsFix reader) := by
  rcases Option.bind_eq_some_iff.1 hfind with ⟨classtag, hclasstag, hreader⟩
  have hpart : classtag <:+: buf := (suffix_of_strstr hclasstag).isInfix
  have hclass := (hknown.of_infix hpart).not_isClass
  rcases reads_reportReader hclass.1 hclass.2 hreader with ⟨hmode, hfix⟩
  exact ⟨hmode, fun hnot => hfix fun h =>
    hnot ((show tpvTag <+: classtag from h).isInfix.trans hpart)⟩

/-- One object. -/
theorem libgpsJsonUnpack_acts {buf : Text} (hknown : Known buf) :
    ∃ o g, SetsMode g ∧ (¬ tpvTag <:+: buf → KeepsFix g) ∧
      ∀ d, libgpsJsonUnpack lib buf d = (o, g d) := by
  have hunpack : ∀ d, libgpsJsonUnpack lib buf d = _ := fun d => by rw [libgpsJsonUnpack]
  cases hfind : (strstr "\"class\":".toList buf).bind (reportReader lib) with
  | none =>
      refine ⟨none, id, .inr fun _ => rfl, fun _ _ => rfl, fun d => ?_⟩
      rw [hunpack, hfind]
      rfl
  | some reader =>
      rcases reads_of_find hknown hfind with ⟨hmode, hfix⟩
      by_cases htpv : tpvTag <:+: buf
      · rcases hmode.acts buf with ⟨o, g, hg, hacts⟩
        refine ⟨some o, g, hg, fun hnot => absurd htpv hnot, fun d => ?_⟩
        rw [hunpack, hfind]
        simp only [hacts]
      · rcases (hfix htpv).acts buf with ⟨o, g, hg, hacts⟩
        refine ⟨some o, g, hg.setsMode, fun _ => hg, fun d => ?_⟩
        rw [hunpack, hfind]
        simp only [hacts]

/-- An object takes a character at least. -/
theorem libgpsJsonUnpack_suffix {c : Char} {text rest : Text} (hknown : Known (c :: text)) {d : GpsData R}
    (h : (libgpsJsonUnpack lib (c :: text) d).1 = some (.done rest)) : rest <:+ text := by
  rw [libgpsJsonUnpack] at h
  cases hfind : (strstr "\"class\":".toList (c :: text)).bind (reportReader lib) with
  | none =>
      rw [hfind] at h
      cases h
  | some reader =>
      rw [hfind] at h
      exact (reads_of_find hknown hfind).1.suffix c text d rest (Option.some.inj h)

theorem libgpsJsonUnpack_ne_fault {buf : Text} (hknown : Known buf)
    (hbuf : '\\' ∉ buf) (d : GpsData R) : (libgpsJsonUnpack lib buf d).1 ≠ some .fault := by
  intro h
  rw [libgpsJsonUnpack] at h
  cases hfind : (strstr "\"class\":".toList buf).bind (reportReader lib) with
  | none =>
      rw [hfind] at h
      cases h
  | some reader =>
      rw [hfind] at h
      exact (reads_of_find hknown hfind).1.ne_fault buf d hbuf (Option.some.inj h)

/-- What an object leaves of the text has no more in it than the text. -/
theorem infix_of_done {c : Char} {text rest : Text} (hknown : Known (c :: text)) {d : GpsData R}
    (h : (libgpsJsonUnpack lib (c :: text) d).1 = some (.done rest)) :
    rest <:+: c :: text ∧ rest.length ≤ text.length :=
  have hsuffix := libgpsJsonUnpack_suffix hknown h
  ⟨(hsuffix.trans (List.suffix_cons c text)).isInfix, hsuffix.length_le⟩

/-- Without the reports that are not shown here. -/
def wholeLibrary : Library (Option Int) where
  host := ⟨fun _ => some 7, fun _ => some 12, '?'⟩
  floats := wholeFloats
  rtcm2 _ := (.fault, none)
  ais _ := (.fault, none)
  oldstyle _ _ _ := none

/-- The loop ends: it has no more turns than the line has characters. -/
theorem unpackObjects_ne_stuck {fuel : Nat} {text : Text} (hfuel : text.length ≤ fuel)
    (hknown : Known text) (d : GpsData R) :
    unpackObjects lib fuel text d ≠ .stuck := by
  induction fuel generalizing text d with
  | zero =>
      cases List.eq_nil_of_length_eq_zero (Nat.le_zero.1 hfuel)
      exact fun h => by cases h
  | succ fuel ih =>
      cases text with
      | nil => exact fun h => by cases h
      | cons c text =>
          rw [unpackObjects]
          split
          · rename_i rest d' heq
            rcases infix_of_done hknown (congrArg Prod.fst heq) with ⟨hpart, hlength⟩
            exact ih (hlength.trans (Nat.le_of_succ_le_succ hfuel)) (hknown.of_infix hpart) d'
          · exact fun h => by cases h
          · exact fun h => by cases h
          · exact fun h => by cases h

/-- Two objects on a line. -/
theorem unpackObjects_ne_stuck_devices :
    unpackObjects wholeLibrary 47
      "\x7b\"class\":\"DEVICES\",\"devices\":[]\x7d\x7b\"class\":\"SKY\"\x7d".toList wholeData ≠ .stuck :=
  unpackObjects_ne_stuck (by decide) (by decide +kernel) wholeData

/-- The readers stay in their buffers. -/
theorem unpackObjects_ne_fault (fuel : Nat) {text : Text} (hknown : Known text) (htext : '\\' ∉ text) (d : GpsData R) :
    unpackObjects lib fuel text d ≠ .fault := by
  induction fuel generalizing text d with
  | zero => cases text <;> intro h <;> cases h
  | succ fuel ih =>
      cases text with
      | nil => exact fun h => by cases h
      | cons c text =>
          rw [unpackObjects]
          split
          · rename_i rest d' heq
            have hpart := (infix_of_done hknown (congrArg Prod.fst heq)).1
            exact ih (hknown.of_infix hpart) (fun h => htext (hpart.subset h)) d'
          · exact fun h => by cases h
          · rename_i heq
            exact absurd (congrArg Prod.fst heq) (libgpsJsonUnpack_ne_fault hknown htext d)
          · exact fun h => by cases h

/-- What the loop does to the data depends on the text only.  It sets the mode or leaves it, and without
a TPV report it leaves the fix. -/
theorem unpackObjects_acts (fuel : Nat) {text : Text} (hknown : Known text) :
    ∃ g, SetsMode g ∧ (¬ tpvTag <:+: text → KeepsFix g) ∧
      ∀ d d', unpackObjects lib fuel text d = .data d' → d' = g d := by
  have hstay : ∀ d d' : GpsData R, Unpacked.data d = .data d' → d' = id d := fun d d' h => by
    cases h
    rfl
  induction fuel generalizing text with
  | zero =>
      cases text with
      | nil => exact ⟨id, .inr fun _ => rfl, fun _ _ => rfl, hstay⟩
      | cons c text => exact ⟨id, .inr fun _ => rfl, fun _ _ => rfl, fun _ _ h => by cases h⟩
  | succ fuel ih =>
      cases text with
      | nil => exact ⟨id, .inr fun _ => rfl, fun _ _ => rfl, hstay⟩
      | cons c text =>
          rcases libgpsJsonUnpack_acts hknown with ⟨o, g, hg, hkeeps, hacts⟩
          have hobjects : ∀ d, unpackObjects lib (fuel + 1) (c :: text) d = _ := fun d => by
            rw [unpackObjects, hacts]
          have hend : ∀ d d' : GpsData R, Unpacked.data (g d) = .data d' → d' = g d := fun d d' h => by
            cases h
            rfl
          rcases o with _ | rest | e | _
          · exact ⟨g, hg, hkeeps, fun d d' h => hend d d' ((hobjects d).symm.trans h)⟩
          · -- the rest is shorter, and what is not in the text is not in it
            have hpart : rest <:+: c :: text :=
              (infix_of_done hknown (congrArg Prod.fst (hacts (gpsOpen lib.floats)))).1
            rcases ih (hknown.of_infix hpart) with ⟨k, hk, hkkeeps, hrest⟩
            refine ⟨k ∘ g, hk.comp hg, fun hnot => ?_, fun d d' h => ?_⟩
            · exact (hkkeeps fun htag => hnot (htag.trans hpart)).comp (hkeeps hnot)
            · exact hrest (g d) d' ((hobjects d).symm.trans h)
          · exact ⟨g, hg, hkeeps, fun d d' h => hend d d' ((hobjects d).symm.trans h)⟩
          · exact ⟨g, hg, hkeeps, fun d d' h => by cases (hobjects d).symm.trans h⟩

/-- A line of objects that are read into other data than the union, and without backslashes. -/
structure Harmless (line : Text) : Prop where
  brace : line.head? = some '\x7b'
  known : Known line
  escape : '\\' ∉ line

theorem cString_infix (line : Text) : Json.cString line <:+: line :=
  (List.takeWhile_prefix _).isInfix

/-- A line of objects is taken if none of them is read into the union, and it has no backslash.  What it
does to the data depends on the line only. -/
theorem unpackLine_acts {line : Text} (hknown : Known line) (hescape : '\\' ∉ line) :
    ∃ g, SetsMode g ∧ (¬ tpvTag <:+: line → KeepsFix g) ∧
      ∀ d, unpackLine lib line d = .data (g d) := by
  rcases unpackObjects_acts line.length hknown with ⟨g, hg, hkeeps, hacts⟩
  refine ⟨g, hg, hkeeps, fun d => ?_⟩
  cases hline : unpackLine lib line d with
  | data d' => rw [hacts d d' hline]
  | fault => exact absurd hline (unpackObjects_ne_fault _ hknown hescape d)
  | stuck => exact absurd hline (unpackObjects_ne_stuck le_rfl hknown d)

theorem gpsUnpack_of_brace {line : Text} (h : line.head? = some '\x7b') (p : PrivData)
    (d : GpsData R) :
    gpsUnpack lib line p d = (unpackLine lib (Json.cString line) d).map (Prod.mk p) :=
  if_pos h

/-- The objects of a line, none of which is a TPV report, leave the fix, however they end. -/
theorem gpsUnpack_fix {line : Text} (hline : Harmless line) (htpv : ¬ tpvTag <:+: line) (p : PrivData)
    (d : GpsData R) :
    ∃ d', gpsUnpack lib line p d = .data (p, d') ∧ d'.fix = d.fix := by
  have hpart := cString_infix line
  rcases unpackLine_acts (hline.known.of_infix hpart) (fun h => hline.escape (hpart.subset h)) with
    ⟨g, -, hkeeps, hacts⟩
  refine ⟨g d, ?_, hkeeps (fun h => htpv (h.trans hpart)) d⟩
  rw [gpsUnpack_of_brace hline.brace, hacts]
  rfl

/-- A list of devices and a satellite report on one line. -/
theorem gpsUnpack_fix_devices : ∃ d', gpsUnpack wholeLibrary
    "\x7b\"class\":\"DEVICES\",\"devices\":[]\x7d\x7b\"class\":\"SKY\"\x7d".toList ⟨fun _ => '\x00', 0⟩
      wholeData = .data (⟨fun _ => '\x00', 0⟩, d') ∧ d'.fix = wholeData.fix :=
  gpsUnpack_fix ⟨rfl, by decide +kernel, by decide⟩ (by decide +kernel) _ wholeData

/-! ### A TPV report of gpsd -/

theorem strstr_of_prefix {needle : Text} {c : Char} {text : Text} (h : needle <+: c :: text) :
    strstr needle (c :: text) = some (c :: text) := by
  rw [strstr, if_pos h]

/-- The class comes first, behind the brace. -/
theorem reportReader_tpvText (d : GpsData R) (text : Text) :
    (strstr "\"class\":".toList (tpvText lib.floats d ++ text)).bind (reportReader lib) =
      some (jsonTpvRead lib.host lib.floats.nan) := by
  have htag : tpvTag = (⟨"class".toList, .ofText "TPV".toList⟩ : Json.Field).text := by decide
  have hfields : tpvTag <+: fieldsText (tpvFields lib.floats d) ++ text := by
    rw [htag]
    exact (text_prefix_fieldsText _ _).trans (List.prefix_append _ _)
  have hclass : "\"class\":".toList <+: fieldsText (tpvFields lib.floats d) ++ text :=
    (show "\"class\":".toList <+: tpvTag by decide).trans hfields
  have hfind : strstr "\"class\":".toList (tpvText lib.floats d ++ text) =
      some (fieldsText (tpvFields lib.floats d) ++ text) := by
    have hbrace : ¬ "\"class\":".toList <+: tpvText lib.floats d ++ text := by
      intro h
      rcases h with ⟨rest, h⟩
      exact absurd (List.head_eq_of_cons_eq h) (by decide)
    rw [tpvText, List.cons_append] at hbrace ⊢
    rw [strstr, if_neg hbrace]
    rcases hclass with ⟨rest, hrest⟩
    rw [← hrest]
    exact strstr_of_prefix (List.prefix_append _ rest)
  have htpv : IsClass (fieldsText (tpvFields lib.floats d) ++ text) "TPV" := hfields
  rw [hfind, Option.bind_some, reportReader, if_pos htpv]

/-- The line that gpsd sends for a fix, as `gps_sock_read` hands it over. -/
theorem unpackLine_tpvText (hf : lib.floats.Printing) {d : GpsData R} (hd : d.Plain lib.floats)
    (c : GpsData R) :
    unpackLine lib (tpvText lib.floats d ++ "\x7d\r".toList) c = .data { c with
      fix := d.fix.received lib.host lib.floats
      dev := { c.dev with path := d.dev.path }
      tag := if d.tag = [] then ['-'] else d.tag } := by
  have hunpack : libgpsJsonUnpack lib (tpvText lib.floats d ++ "\x7d\r".toList) c =
      (some (.done []), { c with
        fix := d.fix.received lib.host lib.floats
        dev := { c.dev with path := d.dev.path }
        tag := if d.tag = [] then ['-'] else d.tag }) := by
    have hread : jsonTpvRead lib.host lib.floats.nan (tpvText lib.floats d ++ '\x7d' :: ['\r']) c = _ :=
      jsonTpvRead_tpvText hf hd c ['\r']
    have hspace : ['\r'].dropWhile isSpace = [] := by decide
    have htext : "\x7d\r".toList = '\x7d' :: ['\r'] := rfl
    rw [hspace] at hread
    rw [libgpsJsonUnpack, reportReader_tpvText, htext]
    simp only [hread]
  have hline : tpvText lib.floats d ++ "\x7d\r".toList =
      '\x7b' :: (fieldsText (tpvFields lib.floats d) ++ "\x7d\r".toList) := rfl
  rw [hline] at hunpack ⊢
  rw [unpackLine, List.length_cons, unpackObjects, hunpack]
  cases (fieldsText (tpvFields lib.floats d) ++ "\x7d\r".toList).length <;> rfl

end

end Cgps
end ResourceAccounting
