import ResourceAccounting.Gpsd.Data

/-!
# Devices — the configuration of a device, as JSON

- `jsonDeviceRead` — the function of shared_json.c.
-/

namespace ResourceAccounting
namespace Gpsd

open Python C Json

def DEVDEFAULT_BPS : Nat := 0

def DEVDEFAULT_PARITY : Char := 'X'

def DEVDEFAULT_STOPBITS : Nat := 3

def DEVDEFAULT_NATIVE : Int := -1

def JSON_DATE_MAX : Nat := 24

/-! ## The reader -/

section

variable {R : Type} (host : Host R) (f : Floats R)

/-- `json_attrs_device`; the second component is `tbuf`. -/
def deviceAttrs : List (Attr Empty (Devconfig R × Text) R) :=
  [{ name := "class".toList, kind := .check "DEVICE".toList },
    { name := "path".toList,
      kind := .string (fun s m => ({ m.1 with path := s }, m.2)) GPS_PATH_MAX },
    { name := "activated".toList, kind := .string (fun s m => (m.1, s)) (JSON_DATE_MAX + 1) },
    -- the default is 0
    { name := "activated".toList,
      kind := .real (fun x m => ({ m.1 with activated := x }, m.2)) f.zero },
    { name := "flags".toList, kind := .integer (fun n m => ({ m.1 with flags := n }, m.2)) 0 },
    { name := "driver".toList, kind := .string (fun s m => ({ m.1 with driver := s }, m.2)) 64 },
    { name := "subtype".toList, kind := .string (fun s m => ({ m.1 with subtype := s }, m.2)) 64 },
    { name := "native".toList,
      kind := .integer (fun n m => ({ m.1 with driver_mode := n }, m.2)) DEVDEFAULT_NATIVE },
    { name := "bps".toList,
      kind := .uinteger (fun n m => ({ m.1 with baudrate := n }, m.2)) DEVDEFAULT_BPS },
    { name := "parity".toList,
      kind := .character (fun c m => ({ m.1 with parity := c }, m.2)) DEVDEFAULT_PARITY },
    { name := "stopbits".toList,
      kind := .uinteger (fun n m => ({ m.1 with stopbits := n }, m.2)) DEVDEFAULT_STOPBITS },
    { name := "cycle".toList, kind := .real (fun x m => ({ m.1 with cycle := x }, m.2)) f.nan },
    { name := "mincycle".toList, kind := .real (fun x m => ({ m.1 with mincycle := x }, m.2)) f.nan }]

/-- `json_device_read` -/
def jsonDeviceRead (buf : Text) (dev : Devconfig R) : Outcome × Devconfig R :=
  match readFlat host (deviceAttrs f) .none buf (dev, []) with
  | (.done rest, dev, tbuf) =>
      if f.isnan dev.activated then
        let activated := if tbuf = [] then f.nan else host.iso8601_to_unix tbuf
        (.done rest, { dev with activated := activated })
      else (.done rest, dev)
  | (outcome, dev, _) => (outcome, dev)

theorem jsonDeviceRead_fst (buf : Text) (dev : Devconfig R) :
    (jsonDeviceRead host f buf dev).1 = (readFlat host (deviceAttrs f) .none buf (dev, [])).1 := by
  rw [jsonDeviceRead]
  rcases readFlat host (deviceAttrs f) .none buf (dev, []) with ⟨o, m⟩
  cases o with
  | done rest =>
      simp only
      split <;> rfl
  | error e => rfl
  | fault => rfl

end

end Gpsd
end ResourceAccounting
