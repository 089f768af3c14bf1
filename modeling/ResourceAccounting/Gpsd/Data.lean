import ResourceAccounting.Gpsd.Watch

/-!
# Data — struct gps_data_t

gpsd keeps the data of a device in this struct, and a client keeps there what gpsd has told it.

- `Fix`, `Devconfig`, `GpsData` — the structs of gps.h;
- `Floats` — what gpsd does with floating-point numbers;
- `gpsClearFix`, `gpsOpen` — data that is not set yet;
- `Floats.Printing` — what the numbers and the dates look like that it writes.
-/

namespace ResourceAccounting
namespace Gpsd

open Python C Json

def MAXTAGLEN : Nat := 8

def MAXCHANNELS : Nat := 72

def MAXUSERDEVS : Nat := 4

/-- Mode update not seen yet. -/
def MODE_NOT_SEEN : Int := 0

def MODE_NO_FIX : Int := 1

def MODE_2D : Int := 2

def MODE_3D : Int := 3

/-- `struct gps_fix_t` -/
structure Fix (R : Type) where
  time : R
  mode : Int
  ept : R
  latitude : R
  epy : R
  longitude : R
  epx : R
  altitude : R
  epv : R
  track : R
  epd : R
  speed : R
  eps : R
  climb : R
  epc : R
  deriving DecidableEq, Repr

/-- `struct devconfig_t` -/
structure Devconfig (R : Type) where
  path : Text
  flags : Int
  driver : Text
  subtype : Text
  activated : R
  baudrate : Nat
  stopbits : Nat
  parity : Char
  cycle : R
  mincycle : R
  /-- Is the driver in native mode or not? -/
  driver_mode : Int
  deriving DecidableEq, Repr

/-- `struct gps_data_t`; what is reported together with it in a union is left out. -/
structure GpsData (R : Type) where
  fix : Fix R
  satellites_used : Int
  /-- PRNs of the satellites used in the solution. -/
  used : Nat → Int
  /-- `struct dop_t`, by the names of its fields. -/
  dop : Text → R
  skyview_time : R
  satellites_visible : Int
  PRN : Nat → Int
  elevation : Nat → Int
  azimuth : Nat → Int
  ss : Nat → R
  /-- The device that shipped the last update. -/
  dev : Devconfig R
  policy : Policy
  /-- The tag of the last sentence processed. -/
  tag : Text

/-- Numbers as gpsd uses them. -/
structure Floats (R : Type) where
  nan : R
  zero : R
  isnan : R → Bool
  /-- `"%.kf"` -/
  fixed : Nat → R → Text
  unix_to_iso8601 : R → Text

/-- What gpsd writes for numbers. -/
structure Floats.Printing {R : Type} (f : Floats R) : Prop where
  fixed_ne_nil : ∀ k x, f.fixed k x ≠ []
  /-- `inf` is printed for infinity. -/
  fixed_number : ∀ k x, f.isnan x = false → ∀ c ∈ f.fixed k x, c.isDigit = true ∨ c ∈ "-.inf".toList
  date : ∀ x, f.isnan x = false →
    '"' ∉ f.unix_to_iso8601 x ∧ '\\' ∉ f.unix_to_iso8601 x ∧ '\x00' ∉ f.unix_to_iso8601 x ∧
      '\n' ∉ f.unix_to_iso8601 x
  length_date : ∀ x, (f.unix_to_iso8601 x).length ≤ 24
  isnan_nan : f.isnan f.nan = true
  isnan_zero : f.isnan f.zero = false

/-! ## Data that is not set yet -/

section

variable {R : Type} (f : Floats R)

/-- `gps_clear_fix` -/
def gpsClearFix : Fix R :=
  { time := f.nan, mode := MODE_NOT_SEEN, ept := f.nan, latitude := f.nan, epy := f.nan
    longitude := f.nan, epx := f.nan, altitude := f.nan, epv := f.nan, track := f.nan, epd := f.nan
    speed := f.nan, eps := f.nan, climb := f.nan, epc := f.nan }

/-- The static data of a client behind `gps_open`. -/
def gpsOpen : GpsData R where
  fix := gpsClearFix f
  satellites_used := 0
  used _ := 0
  dop _ := f.zero
  skyview_time := f.zero
  satellites_visible := 0
  PRN _ := 0
  elevation _ := 0
  azimuth _ := 0
  ss _ := f.zero
  dev :=
    { path := [], flags := 0, driver := [], subtype := [], activated := f.zero, baudrate := 0
      stopbits := 0, parity := '\x00', cycle := f.zero, mincycle := f.zero, driver_mode := 0 }
  policy := Policy.zero
  tag := []

end

/-! ## Whole numbers -/

/-- Numbers that are whole, printed with zeros behind the point. -/
def wholeFloats : Floats (Option Int) where
  nan := none
  zero := some 0
  isnan x := x.isNone
  fixed k x :=
    match x with
    | none => "nan".toList
    | some n => decimal n ++ '.' :: List.replicate k '0'
  unix_to_iso8601 _ := "1970-01-01T00:00:12.00Z".toList

theorem wholeFloats_printing : wholeFloats.Printing where
  fixed_ne_nil k x := by
    cases x with
    | none => exact List.cons_ne_nil _ _
    | some n => exact List.append_ne_nil_of_right_ne_nil _ (List.cons_ne_nil _ _)
  fixed_number k x hx c hc := by
    cases x with
    | none => cases hx
    | some n =>
        rcases List.mem_append.1 hc with hc | hc
        · rcases mem_decimal hc with rfl | hdigit
          · exact .inr (by decide)
          · exact .inl hdigit
        · rcases List.mem_cons.1 hc with rfl | hc
          · exact .inr (by decide)
          · rw [List.eq_of_mem_replicate hc]
            exact .inl rfl
  date _ _ :=
    show '"' ∉ "1970-01-01T00:00:12.00Z".toList ∧ '\\' ∉ "1970-01-01T00:00:12.00Z".toList ∧
      '\x00' ∉ "1970-01-01T00:00:12.00Z".toList ∧ '\n' ∉ "1970-01-01T00:00:12.00Z".toList by decide
  length_date _ := show "1970-01-01T00:00:12.00Z".toList.length ≤ 24 by decide
  isnan_nan := rfl
  isnan_zero := rfl

/-- A device with a fix in three dimensions. -/
def wholeData : GpsData (Option Int) where
  fix :=
    { time := some 12, mode := 3, ept := some 1, latitude := some 37, epy := none
      longitude := some (-122), epx := none, altitude := some 40, epv := none, track := some 90
      epd := none, speed := some 2, eps := none, climb := none, epc := none }
  satellites_used := 0
  used _ := 0
  dop _ := none
  skyview_time := none
  satellites_visible := 0
  PRN _ := 0
  elevation _ := 0
  azimuth _ := 0
  ss _ := none
  dev :=
    { path := "/dev/ttyUSB0".toList, flags := 1, driver := [], subtype := [], activated := none
      baudrate := 4800, stopbits := 1, parity := 'N', cycle := some 1, mincycle := none
      driver_mode := 0 }
  policy := Policy.zero
  tag := []

end Gpsd
end ResourceAccounting
