import ResourceAccounting.Gpsd.Devices
import ResourceAccounting.Gpsd.Replies
import ResourceAccounting.Json.Frames
import ResourceAccounting.Json.Safety

/-!
# Requests — what gpsd does with the requests of a client

A client sends a line of requests.  Each of them may change the policy of the client and the devices,
and gives replies.

- `handleRequest`, `handleGpsdRequest` — the functions of gpsd.c;
- `lineRequests` — the requests of a line, without the text of their answers;
- `policyAfter` — the policy by the requests alone;
- `handleGpsdRequest_request` — the devices have no part in it;
- `handleGpsdRequest_eq_none_iff` — a request that ends gpsd;
- `handleGpsdRequest_watch_obstart` — a request that is refused and still obeyed.
-/

namespace ResourceAccounting
namespace Gpsd

open Python C Json Schedules

/-! ## Devices -/

/-- `subscribed` -/
def Policy.subscribed (policy : Policy) (path : Text) : Bool :=
  policy.watcher && (policy.devpath = [] || policy.devpath = path)

/-- `find_device`: the slot of a device. -/
def findDevice (devices : List Device) (device_name : Text) : Option Nat :=
  devices.findIdx? fun devp => devp.allocated && devp.path = device_name

/-- `awaken`; `opens` says for which devices `gpsd_activate` succeeds. -/
def awaken (opens : Text → Bool) (device : Device) : Bool × Device :=
  if !device.initialized && !opens device.path then
    -- `free_device`
    (false, { device with path := [] })
  else if !device.initialized then
    (true, { device with active := true })
  else if device.active then
    (true, device)
  else
    (opens device.path, { device with active := opens device.path })

/-- `awaken` for every device of the pool. -/
def awakenAll (opens : Text → Bool) (devices : List Device) : List Device :=
  devices.map fun devp => if devp.allocated then (awaken opens devp).2 else devp

/-! ## Commands -/

/-- What a request is, with the text behind the name. -/
inductive Command
  | devices (after : Text)
  | watch (after : Text)
  | watchRequest (request : Text)
  | device (after : Text)
  | deviceRequest (request : Text)
  | poll (after : Text)
  | version (after : Text)
  | unrecognized
  deriving DecidableEq, Repr

/-- `strncmp(buf, name, …) == 0`, and the text behind the name. -/
def behind (name : String) (buf : Text) : Option Text :=
  if name.toList <+: buf then some (buf.drop name.toList.length) else none

/-- The tests of `handle_request`. -/
def command (buf : Text) : Command :=
  if let some after := behind "DEVICES;" buf then .devices after
  else if let some after := behind "WATCH;" buf then .watch after
  else if let some request := behind "WATCH=" buf then .watchRequest request
  else if let some after := behind "DEVICE;" buf then .device after
  else if let some request := behind "DEVICE=" buf then .deviceRequest request
  else if let some after := behind "POLL;" buf then .poll after
  else if let some after := behind "VERSION;" buf then .version after
  else .unrecognized

/-- `if (*end == ';') ++end` -/
def skipSemicolon : Text → Text
  | ';' :: text => text
  | text => text

/-- What `handle_request` leaves. -/
structure Handled where
  policy : Policy
  devices : List Device
  replies : List Reply
  /-- What is written to devices, by their slots. -/
  forwarded : List (Nat × Text)
  /-- `*after` -/
  after : Text

/-- What the requests of a line leave. -/
structure LineHandled where
  policy : Policy
  devices : List Device
  /-- The replies to each of them. -/
  answers : List (List Reply)
  forwarded : List (Nat × Text)

section

variable {R : Type} (host : Host R) (f : Floats R)

/-- A request is passed on to a device that is another gpsd. -/
def forward (devices : List Device) (i : Nat) (request : Text) : List (Nat × Text) :=
  match devices[i]? with
  | some devp => if devp.source_gpsd then [(i, '?' :: request)] else []
  | none => []

/-- The branch of `WATCH` behind `json_watch_read`. -/
def watchDevices (opens : Text → Bool) (policy : Policy) (devices : List Device) (request after : Text) :
    Handled :=
  if policy.watcher then
    if policy.devpath = [] then
      let awake := awakenAll opens devices
      { policy := policy
        devices := awake
        replies := [.devicelist awake, .watch policy]
        forwarded := (List.range devices.length).flatMap fun i =>
          if (devices[i]?.map Device.allocated).getD false then forward awake i request else []
        after := after }
    else
      match findDevice devices policy.devpath with
      | none =>
          { policy := policy
            devices := devices
            replies := [.error ("No such device as ".toList ++ policy.devpath)]
            forwarded := []
            after := after }
      | some i =>
          let awake := devices.modify i fun devp => (awaken opens devp).2
          if (devices[i]?.map fun devp => (awaken opens devp).1).getD false then
            { policy := policy
              devices := awake
              replies := [.devicelist awake, .watch policy]
              forwarded := forward awake i request
              after := after }
          else
            { policy := policy
              devices := awake
              replies := [.error ("Can't assign ".toList ++ policy.devpath)]
              forwarded := []
              after := after }
  else
    { policy := policy
      devices := devices
      replies := [.devicelist devices, .watch policy]
      forwarded := []
      after := after }

/-- `WATCH=`; none if the reader leaves its buffers. -/
def handleWatch (opens : Text → Bool) (request : Text) (policy : Policy) (devices : List Device) :
    Option Handled :=
  match jsonWatchRead host request policy with
  | (.fault, _) => none
  | (.error e, policy) =>
      -- `end` is NULL
      some
        { policy := policy
          devices := devices
          replies := [.error ("Invalid WATCH: ".toList ++ errorString e), .devicelist devices, .watch policy]
          forwarded := []
          after := [] }
  | (.done rest, policy) =>
      let after := skipSemicolon rest
      some (watchDevices opens policy devices
        ("WATCH=".toList ++ request.take (request.length - after.length)) after)

/-- `privileged_user`; `others` counts the other clients that are subscribed to a device. -/
def privilegedUser (others : Text → Nat) (policy : Policy) (devp : Device) : Bool :=
  others devp.path + (if policy.subscribed devp.path then 1 else 0) = 1

/-- The replies behind the choice of a device. -/
def configure (others : Text → Nat) (policy : Policy) (devp : Device) : List Reply :=
  if !privilegedUser others policy devp then
    [.error ("Multiple subscribers, cannot change control bits on ".toList ++ devp.path ++ ['.'])]
  else if !devp.typed then
    [.error ("Type of ".toList ++ devp.path ++ " is unknown.".toList)]
  else
    -- the driver gets the changes
    []

/-- `DEVICE=`; none if the reader leaves its buffers, or `awaken` is called with NULL. -/
def handleDevice (opens : Text → Bool) (others : Text → Nat) (devconf : Devconfig R) (request : Text)
    (policy : Policy) (devices : List Device) : Option Handled :=
  match jsonDeviceRead host f request devconf with
  | (.fault, _) => none
  | (.error e, _) =>
      some
        { policy := policy
          devices := devices
          replies := [.error ("Invalid DEVICE: \"".toList ++ errorString e)]
          forwarded := []
          after := [] }
  | (.done rest, devconf) =>
      let after := skipSemicolon rest
      let reply (devices : List Device) (replies : List Reply) : Option Handled :=
        some { policy := policy, devices := devices, replies := replies, forwarded := [], after := after }
      if devconf.path ≠ [] then
        match findDevice devices devconf.path with
        | none => none
        | some i =>
            let awake := devices.modify i fun devp => (awaken opens devp).2
            if (devices[i]?.map fun devp => (awaken opens devp).1).getD false then
              reply awake ((awake[i]?.map (configure others policy)).getD [] ++
                (awake.filter fun devp => devp.allocated && devp.path = devconf.path).map .device)
            else
              reply awake [.error ("Can't open ".toList ++ devconf.path ++ ['.'])]
      else
        match devices.filter Device.allocated with
        | [] =>
            reply devices
              [.error "Can't perform DEVICE configuration, no devices attached.".toList]
        | [devp] => reply devices (configure others policy devp ++ [.device devp])
        | _ =>
            reply devices
              [.error "No path specified in DEVICE, but multiple devices are attached.".toList]

/-- The text that `%.*s` prints of a request that is not recognized: all but its last character, with no
white space behind it. -/
def unrecognizedText (buf : Text) : Text :=
  (buf.reverse.dropWhile isSpace).reverse.dropLast

/-- `handle_request` -/
def handleRequest (opens : Text → Bool) (others : Text → Nat) (devconf : Devconfig R) (buf : Text)
    (policy : Policy) (devices : List Device) : Option Handled :=
  let reply (replies : List Reply) (after : Text) : Option Handled :=
    some { policy := policy, devices := devices, replies := replies, forwarded := [], after := after }
  match command buf with
  | .devices after => reply [.devicelist devices] after
  | .watch after => reply [.devicelist devices, .watch policy] after
  | .watchRequest request => handleWatch host opens request policy devices
  | .device after => reply ((devices.filter Device.allocated).map .device) after
  | .deviceRequest request => handleDevice host f opens others devconf request policy devices
  | .poll after =>
      reply [.poll (devices.filter fun devp =>
        devp.allocated && policy.subscribed devp.path && devp.observed)] after
  | .version after => reply [.version] after
  | .unrecognized =>
      reply [.error ("Unrecognized request '".toList ++ unrecognizedText buf ++ ['\''])] []

/-- The loop of `handle_gpsd_request`. -/
def handleRequests (opens : Text → Bool) (others : Text → Nat) (devconf : Devconfig R) :
    Nat → Text → Policy → List Device → Option LineHandled
  | fuel + 1, c :: buf, policy, devices =>
      if isSpace c then
        handleRequests opens others devconf fuel buf policy devices
      else
        match handleRequest host f opens others devconf (c :: buf) policy devices with
        | none => none
        | some h =>
            (handleRequests opens others devconf fuel h.after h.policy h.devices).map fun a =>
              { a with
                answers := h.replies :: a.answers
                forwarded := h.forwarded ++ a.forwarded }
  | _, _, policy, devices =>
      some { policy := policy, devices := devices, answers := [], forwarded := [] }

/-- The requests of a line.  Every request takes a character at least. -/
def lineRequests (opens : Text → Bool) (others : Text → Nat) (devconf : Devconfig R) (buf : Text)
    (policy : Policy) (devices : List Device) : Option LineHandled :=
  match buf with
  | '?' :: buf => handleRequests host f opens others devconf buf.length buf policy devices
  | _ => some { policy := policy, devices := devices, answers := [], forwarded := [] }

/-- `handle_gpsd_request`, and the text that it gives to `throttled_write`.  No request looks at the
answers to those before it, so they are written behind the last one here. -/
def handleGpsdRequest (dumps : Dumps) (opens : Text → Bool) (others : Text → Nat)
    (devconf : Devconfig R) (buf : Text) (policy : Policy) (devices : List Device) :
    Option (LineHandled × Text) := do
  let a ← lineRequests host f opens others devconf buf policy devices
  let reply ← exec (dumps.answer (GPS_JSON_RESPONSE_MAX + 1)) [] a.answers
  some (a, reply)

end

/-! ## The policy -/

section

variable {R : Type} (host : Host R) (f : Floats R) (devconf : Devconfig R)

/-- What a request does to the policy, and the text behind it. -/
def policyStep (policy : Policy) : Command → Policy × Text
  | .devices after => (policy, after)
  | .watch after => (policy, after)
  | .watchRequest request =>
      match jsonWatchRead host request policy with
      | (.done rest, policy) => (policy, skipSemicolon rest)
      | (_, policy) => (policy, [])
  | .device after => (policy, after)
  | .deviceRequest request =>
      match (jsonDeviceRead host f request devconf).1 with
      | .done rest => (policy, skipSemicolon rest)
      | _ => (policy, [])
  | .poll after => (policy, after)
  | .version after => (policy, after)
  | .unrecognized => (policy, [])

/-- The policy behind the requests of a line, by the requests alone. -/
def policyAfter : Nat → Text → Policy → Policy
  | fuel + 1, c :: buf, policy =>
      if isSpace c then
        policyAfter fuel buf policy
      else
        policyAfter fuel (policyStep host f devconf policy (command (c :: buf))).2
          (policyStep host f devconf policy (command (c :: buf))).1
  | _, _, policy => policy

/-- The policy behind a line of requests. -/
def Policy.request (buf : Text) (policy : Policy) : Policy :=
  match buf with
  | '?' :: buf => policyAfter host f devconf buf.length buf policy
  | _ => policy

variable {host f devconf} {opens : Text → Bool} {others : Text → Nat}

theorem handleWatch_policyStep {request : Text} {policy : Policy} {devices : List Device} {h : Handled}
    (hwatch : handleWatch host opens request policy devices = some h) :
    (h.policy, h.after) = policyStep host f devconf policy (.watchRequest request) := by
  rw [handleWatch] at hwatch
  rw [policyStep]
  rcases hread : jsonWatchRead host request policy with ⟨o, policy'⟩
  rw [hread] at hwatch
  cases o with
  | fault => cases hwatch
  | error e =>
      cases hwatch
      rfl
  | done rest =>
      rw [← Option.some.inj hwatch]
      simp only [watchDevices]
      split
      · split
        · rfl
        · split
          · rfl
          · split <;> rfl
      · rfl

theorem handleDevice_policyStep {request : Text} {policy : Policy} {devices : List Device} {h : Handled}
    (hdevice : handleDevice host f opens others devconf request policy devices = some h) :
    (h.policy, h.after) = policyStep host f devconf policy (.deviceRequest request) := by
  rw [handleDevice] at hdevice
  rw [policyStep]
  rcases hread : jsonDeviceRead host f request devconf with ⟨o, devconf'⟩
  rw [hread] at hdevice
  cases o with
  | fault => cases hdevice
  | error e =>
      cases hdevice
      rfl
  | done rest =>
      simp only at hdevice
      split at hdevice
      · -- a device is named
        split at hdevice
        · cases hdevice
        · split at hdevice
          · cases hdevice
            rfl
          · cases hdevice
            rfl
      · split at hdevice
        · cases hdevice
          rfl
        · cases hdevice
          rfl
        · cases hdevice
          rfl

/-- The devices have no part in what a request does to the policy. -/
theorem handleRequest_policyStep {buf : Text} {policy : Policy} {devices : List Device} {h : Handled}
    (hrequest : handleRequest host f opens others devconf buf policy devices = some h) :
    (h.policy, h.after) = policyStep host f devconf policy (command buf) := by
  rw [handleRequest] at hrequest
  cases hcommand : command buf with
  | watchRequest request =>
      rw [hcommand] at hrequest
      exact handleWatch_policyStep hrequest
  | deviceRequest request =>
      rw [hcommand] at hrequest
      exact handleDevice_policyStep hrequest
  | _ =>
      rw [hcommand] at hrequest
      cases hrequest
      rfl

variable {dumps : Dumps}

theorem lineRequests_of_handleGpsdRequest {buf : Text} {policy : Policy} {devices : List Device}
    {a : LineHandled} {reply : Text}
    (hrequest : handleGpsdRequest host f dumps opens others devconf buf policy devices =
      some (a, reply)) :
    lineRequests host f opens others devconf buf policy devices = some a := by
  rcases Option.bind_eq_some_iff.1 hrequest with ⟨a', hline, hreply⟩
  rcases Option.bind_eq_some_iff.1 hreply with ⟨reply', -, hpair⟩
  cases hpair
  exact hline

/-- What the requests are answered makes a difference only if there is no room for it. -/
theorem handleGpsdRequest_ne_none_iff {buf : Text} {policy : Policy} {devices : List Device} :
    handleGpsdRequest host f dumps opens others devconf buf policy devices ≠ none ↔
      ∃ a, lineRequests host f opens others devconf buf policy devices = some a ∧
        dumps.Room a.answers := by
  rw [handleGpsdRequest]
  cases hline : lineRequests host f opens others devconf buf policy devices with
  | none => exact iff_of_false (fun h => h rfl) fun h => by rcases h with ⟨a, ha, -⟩; cases ha
  | some a =>
      have hwritten := exec_answer_ne_none_iff dumps a.answers
      simp only [Option.bind_eq_bind, Option.bind_some]
      constructor
      · intro h
        refine ⟨a, rfl, hwritten.1 fun hnone => h ?_⟩
        rw [hnone, Option.bind_none]
      · rintro ⟨a', ha', hroom⟩ hnone
        cases ha'
        rcases Option.ne_none_iff_exists'.1 (hwritten.2 hroom) with ⟨reply, hreply⟩
        rw [hreply, Option.bind_some] at hnone
        cases hnone

end

/-! ## The text behind a request -/

theorem behind_suffix {name : String} {buf after : Text} (h : behind name buf = some after) :
    after <:+ buf ∧ name.toList <+: buf := by
  rw [behind] at h
  split at h
  · cases h
    exact ⟨List.drop_suffix _ _, ‹_›⟩
  · cases h

theorem behind_length {name : String} {buf after : Text} (hname : name.toList ≠ [])
    (h : behind name buf = some after) : after.length < buf.length := by
  rw [behind] at h
  split at h
  · rename_i hprefix
    cases h
    have hpos : 0 < name.toList.length := List.length_pos_iff.2 hname
    have hle := hprefix.length_le
    rw [List.length_drop]
    omega
  · cases h

/-- The text behind the name of a request. -/
def Command.text : Command → Text
  | .devices after => after
  | .watch after => after
  | .watchRequest request => request
  | .device after => after
  | .deviceRequest request => request
  | .poll after => after
  | .version after => after
  | .unrecognized => []

theorem command_text {buf : Text} (hbuf : buf ≠ []) :
    (command buf).text <:+ buf ∧ (command buf).text.length < buf.length := by
  have hnone : ([] : Text) <:+ buf ∧ ([] : Text).length < buf.length :=
    ⟨List.nil_suffix, List.length_pos_iff.2 hbuf⟩
  unfold command
  split
  · rename_i h
    exact ⟨(behind_suffix h).1, behind_length (by decide) h⟩
  split
  · rename_i h
    exact ⟨(behind_suffix h).1, behind_length (by decide) h⟩
  split
  · rename_i h
    exact ⟨(behind_suffix h).1, behind_length (by decide) h⟩
  split
  · rename_i h
    exact ⟨(behind_suffix h).1, behind_length (by decide) h⟩
  split
  · rename_i h
    exact ⟨(behind_suffix h).1, behind_length (by decide) h⟩
  split
  · rename_i h
    exact ⟨(behind_suffix h).1, behind_length (by decide) h⟩
  split
  · rename_i h
    exact ⟨(behind_suffix h).1, behind_length (by decide) h⟩
  · exact hnone

theorem skipSemicolon_suffix (text : Text) : skipSemicolon text <:+ text := by
  unfold skipSemicolon
  split
  · exact List.suffix_cons _ _
  · exact List.suffix_refl _

section

variable {R : Type} {host : Host R} {f : Floats R} {devconf : Devconfig R} {opens : Text → Bool}
  {others : Text → Nat} {dumps : Dumps}

theorem policyStep_text (policy : Policy) (c : Command) :
    (policyStep host f devconf policy c).2 <:+ c.text := by
  cases c with
  | watchRequest request =>
      rw [policyStep]
      split
      · rename_i rest _ hread
        have hrest : rest <:+ request := done_suffix (congrArg Prod.fst hread)
        exact (skipSemicolon_suffix rest).trans hrest
      · exact List.nil_suffix
  | deviceRequest request =>
      rw [policyStep]
      split
      · rename_i rest hread
        rw [jsonDeviceRead_fst] at hread
        exact (skipSemicolon_suffix rest).trans (done_suffix hread)
      · exact List.nil_suffix
  | unrecognized => exact List.suffix_refl _
  | _ => exact List.suffix_refl _

/-- What is left behind a request is behind its first character. -/
theorem handleRequest_after {c : Char} {buf : Text} {policy : Policy} {devices : List Device}
    {h : Handled}
    (hrequest : handleRequest host f opens others devconf (c :: buf) policy devices = some h) :
    h.after <:+ c :: buf ∧ h.after.length ≤ buf.length := by
  have hafter := congrArg Prod.snd (handleRequest_policyStep hrequest)
  have htext := command_text (List.cons_ne_nil c buf)
  have hstep : (policyStep host f devconf policy (command (c :: buf))).2 <:+ (command (c :: buf)).text :=
    policyStep_text policy _
  rw [← hafter] at hstep
  exact ⟨hstep.trans htext.1, (hstep.length_le.trans (Nat.le_of_lt_succ htext.2))⟩

/-- More turns than the line has characters make no difference. -/
theorem handleRequests_add (fuel : Nat) {buf : Text} (hfuel : buf.length ≤ fuel) (k : Nat)
    (policy : Policy) (devices : List Device) :
    handleRequests host f opens others devconf (fuel + k) buf policy devices =
      handleRequests host f opens others devconf fuel buf policy devices := by
  induction fuel generalizing buf policy devices with
  | zero =>
      cases List.eq_nil_of_length_eq_zero (Nat.le_zero.1 hfuel)
      cases k <;> rfl
  | succ fuel ih =>
      cases buf with
      | nil => cases k <;> rfl
      | cons c buf =>
          have hbuf : buf.length ≤ fuel := Nat.le_of_succ_le_succ hfuel
          rw [Nat.add_right_comm, handleRequests, handleRequests]
          split
          · exact ih hbuf policy devices
          · cases hrequest : handleRequest host f opens others devconf (c :: buf) policy devices with
            | none => rfl
            | some h =>
                simp only
                rw [ih ((handleRequest_after hrequest).2.trans hbuf)]

/-! ## Requests that end gpsd -/

/-- A request for a device by its name. -/
def pathFields (path : Text) : List Json.Field :=
  [⟨"path".toList, .ofText path⟩]

theorem jsonDeviceRead_pathFields {path : Text} (hquote : '"' ∉ path ∧ '\\' ∉ path)
    (hnul : '\x00' ∉ path) (hlength : path.length < GPS_PATH_MAX) (text : Text) :
    ∃ dev, jsonDeviceRead host f (objectText (pathFields path) ++ text) devconf =
      (.done (text.dropWhile isSpace), dev) ∧ dev.path = path := by
  have hcount : ((deviceAttrs f).map Attr.name).count "path".toList ≤ 1 := by
    have hnames : (deviceAttrs f).map Attr.name = ["class", "path", "activated", "activated", "flags",
        "driver", "subtype", "native", "bps", "parity", "stopbits", "cycle", "mincycle"].map
          String.toList := rfl
    rw [hnames]
    decide
  have hfits : ∀ g ∈ pathFields path, g.Fits (deviceAttrs f) := by
    intro g hg
    cases List.mem_singleton.1 hg
    exact Field.fits_string rfl (by decide) rfl hquote hlength
      ((Nat.le_of_lt hlength).trans (by decide))
  have hput : putFields host (deviceAttrs f) .none (pathFields path)
      (setDefaults .none (deviceAttrs f) (devconf, [])).2 =
        (none, ({ (setDefaults .none (deviceAttrs f) (devconf, [])).2.1 with path := path }, [])) := by
    rw [pathFields, putFields, putField_string hcount rfl rfl
      (fun s m => ({ m.1 with path := s }, m.2)) rfl rfl hnul hlength]
    rfl
  have hne : pathFields path ≠ [] := List.cons_ne_nil _ _
  have hread := readFlat_objectText hne hfits hput text
  rw [jsonDeviceRead, hread]
  simp only
  split
  · exact ⟨_, rfl, rfl⟩
  · exact ⟨_, rfl, rfl⟩

theorem behind_append (name : String) (text : Text) :
    behind name (name.toList ++ text) = some text := by
  rw [behind, if_pos (List.prefix_append _ _), List.drop_left]

/-- Another character at the place `i`. -/
theorem behind_eq_none {name : String} {front : Text} (i : Nat) (hname : i < name.toList.length)
    (hfront : i < front.length) (hne : name.toList[i]? ≠ front[i]?) (text : Text) :
    behind name (front ++ text) = none := by
  refine if_neg fun hprefix => hne ?_
  rcases hprefix with ⟨rest, hrest⟩
  calc
    name.toList[i]? = (name.toList ++ rest)[i]? := (List.getElem?_append_left hname).symm
    _ = (front ++ text)[i]? := by rw [hrest]
    _ = front[i]? := List.getElem?_append_left hfront

theorem command_deviceRequest (request : Text) :
    command ("DEVICE=".toList ++ request) = .deviceRequest request := by
  unfold command
  rw [behind_eq_none 6 (by decide) (by decide) (by decide),
    behind_eq_none 0 (by decide) (by decide) (by decide),
    behind_eq_none 0 (by decide) (by decide) (by decide),
    behind_eq_none 6 (by decide) (by decide) (by decide), behind_append]

theorem command_watchRequest (request : Text) :
    command ("WATCH=".toList ++ request) = .watchRequest request := by
  unfold command
  rw [behind_eq_none 0 (by decide) (by decide) (by decide),
    behind_eq_none 5 (by decide) (by decide) (by decide), behind_append]

theorem handleDevice_pathFields {path : Text} (hne : path ≠ []) (hquote : '"' ∉ path ∧ '\\' ∉ path)
    (hnul : '\x00' ∉ path) (hlength : path.length < GPS_PATH_MAX) (text : Text) (policy : Policy)
    (devices : List Device) :
    handleDevice host f opens others devconf (objectText (pathFields path) ++ text) policy devices =
      none ↔ findDevice devices path = none := by
  have hexists : ∃ dev, jsonDeviceRead host f (objectText (pathFields path) ++ text) devconf =
      (.done (text.dropWhile isSpace), dev) ∧ dev.path = path :=
    jsonDeviceRead_pathFields hquote hnul hlength text
  rcases hexists with ⟨dev, hread, rfl⟩
  rw [handleDevice, hread]
  simp only [if_pos hne]
  cases hfind : findDevice devices dev.path with
  | none => exact iff_of_true rfl rfl
  | some i =>
      refine iff_of_false ?_ (Option.some_ne_none i)
      simp only
      split <;> exact Option.some_ne_none _

/-- A line end asks for nothing. -/
theorem handleRequests_newline (fuel : Nat) (policy : Policy) (devices : List Device) :
    handleRequests host f opens others devconf fuel ['\n'] policy devices =
      some { policy := policy, devices := devices, answers := [], forwarded := [] } := by
  cases fuel with
  | zero => rfl
  | succ fuel =>
      rw [handleRequests, if_pos (by decide)]
      cases fuel <;> rfl

theorem cut_of_mem_configure {policy : Policy} {devp : Device} {r : Reply}
    (hr : r ∈ configure others policy devp) : r.Cut := by
  rw [configure] at hr
  split at hr
  · rw [List.mem_singleton.1 hr]
    trivial
  · split at hr
    · rw [List.mem_singleton.1 hr]
      trivial
    · cases hr

/-- A DEVICE request is answered with devices and errors. -/
theorem cut_of_handleDevice {request : Text} {policy : Policy} {devices : List Device} {h : Handled}
    (hdevice : handleDevice host f opens others devconf request policy devices = some h) {r : Reply}
    (hr : r ∈ h.replies) : r.Cut := by
  have herror : ∀ {message : Text}, r ∈ [Reply.error message] → r.Cut := fun hmem => by
    rw [List.mem_singleton.1 hmem]
    trivial
  rw [handleDevice] at hdevice
  split at hdevice
  · cases hdevice
  · cases hdevice
    exact herror hr
  · simp only at hdevice
    split at hdevice
    · -- a device is named
      split at hdevice
      · cases hdevice
      · split at hdevice
        · cases hdevice
          rcases List.mem_append.1 hr with hr | hr
          · rcases Option.getD_eq_iff.1 rfl with hsome | ⟨hnone, -⟩
            · rcases Option.map_eq_some_iff.1 hsome with ⟨devp, -, hreplies⟩
              exact cut_of_mem_configure (hreplies ▸ hr)
            · rw [hnone] at hr
              cases hr
          · rcases List.mem_map.1 hr with ⟨devp, -, rfl⟩
            trivial
        · cases hdevice
          exact herror hr
    · -- by the number of devices that there are
      split at hdevice
      · cases hdevice
        exact herror hr
      · cases hdevice
        rcases List.mem_append.1 hr with hr | hr
        · exact cut_of_mem_configure hr
        · rw [List.mem_singleton.1 hr]
          trivial
      · cases hdevice
        exact herror hr

/-- A request that names a device ends gpsd exactly if there is no such device: `awaken` is called with
what `find_device` has returned. -/
theorem handleGpsdRequest_eq_none_iff {path : Text} (hne : path ≠ [])
    (hquote : '"' ∉ path ∧ '\\' ∉ path) (hnul : '\x00' ∉ path) (hlength : path.length < GPS_PATH_MAX)
    (policy : Policy) (devices : List Device) :
    handleGpsdRequest host f dumps opens others devconf
        ("?DEVICE=".toList ++ (objectText (pathFields path) ++ ";\n".toList)) policy devices = none ↔
      findDevice devices path = none := by
  have hcommand := command_deviceRequest (objectText (pathFields path) ++ ";\n".toList)
  have hbuf : "DEVICE=".toList ++ (objectText (pathFields path) ++ ";\n".toList) =
      'D' :: ("EVICE=".toList ++ (objectText (pathFields path) ++ ";\n".toList)) := rfl
  have hunpack : lineRequests host f opens others devconf
      ("?DEVICE=".toList ++ (objectText (pathFields path) ++ ";\n".toList)) policy devices =
        handleRequests host f opens others devconf
          ("DEVICE=".toList ++ (objectText (pathFields path) ++ ";\n".toList)).length
          ("DEVICE=".toList ++ (objectText (pathFields path) ++ ";\n".toList)) policy devices := rfl
  rw [hbuf] at hcommand hunpack
  rw [List.length_cons, handleRequests, if_neg (by decide), handleRequest, hcommand] at hunpack
  simp only at hunpack
  have hiff : handleDevice host f opens others devconf
      (objectText (pathFields path) ++ ";\n".toList) policy devices = none ↔
        findDevice devices path = none :=
    handleDevice_pathFields hne hquote hnul hlength ";\n".toList policy devices
  cases hdevice : handleDevice host f opens others devconf
      (objectText (pathFields path) ++ ";\n".toList) policy devices with
  | none =>
      rw [hdevice] at hunpack
      refine iff_of_true ?_ (hiff.1 hdevice)
      rw [handleGpsdRequest, hunpack]
      rfl
  | some h =>
      -- the line end is all that is left
      have hexists : ∃ dev, jsonDeviceRead host f (objectText (pathFields path) ++ ";\n".toList) devconf =
          (.done (";\n".toList.dropWhile isSpace), dev) ∧ dev.path = path :=
        jsonDeviceRead_pathFields hquote hnul hlength ";\n".toList
      rcases hexists with ⟨dev, hread, -⟩
      have hafter := congrArg Prod.snd (handleDevice_policyStep hdevice)
      rw [policyStep, hread] at hafter
      have hline : h.after = ['\n'] := hafter
      rw [hdevice] at hunpack
      simp only [hline, handleRequests_newline, Option.map_some] at hunpack
      refine iff_of_false (handleGpsdRequest_ne_none_iff.2 ⟨_, hunpack, ?_⟩) fun hnone =>
        Option.some_ne_none h (hdevice.symm.trans (hiff.2 hnone))
      refine room_of_cut dumps fun replies hreplies r hr => ?_
      rw [List.mem_singleton.1 hreplies] at hr
      exact cut_of_handleDevice hdevice hr

/-- A pool without the device. -/
theorem handleGpsdRequest_eq_none_iff_usb :
    handleGpsdRequest (⟨fun _ => some 7, fun _ => some 12, '?'⟩ : Host (Option Int)) wholeFloats
        quietDumps (fun _ => true) (fun _ => 1) wholeData.dev
        ("?DEVICE=".toList ++ (objectText (pathFields "/dev/ttyUSB1".toList) ++ ";\n".toList)) Policy.zero
        [⟨"/dev/ttyUSB0".toList, true, false, false, false, false⟩] = none :=
  (handleGpsdRequest_eq_none_iff (by decide) (by decide) (by decide) (by decide) _ _).2 (by decide)

/-! ## Requests that are refused -/

/-- The reader expects an opening brace first. -/
theorem run_init_obstart {A M : Type} {readArray : A → Text → M → Outcome × M}
    {attrs : List (Attr A M R)} {parent : Parent} (maxlen : Int) (m : M) {c : Char} {text rest : Text}
    (htext : text.dropWhile isSpace = c :: rest) (hc : c ≠ '\x7b') :
    run readArray host attrs parent 0 text ⟨.init, maxlen, m⟩ = (.error .obstart, m) := by
  induction text with
  | nil => cases htext
  | cons d text ih =>
      by_cases hspace : isSpace d = true
      · rw [List.dropWhile_cons_of_pos hspace] at htext
        rw [run_cons, step, Reader.init, if_pos hspace]
        exact ih htext
      · rw [List.dropWhile_cons_of_neg hspace] at htext
        cases htext
        rw [run_cons, step, Reader.init, if_neg hspace, if_neg hc]
        rfl

/-- The policy and the pool are what gpsd has room for. -/
structure Stored (policy : Policy) (devices : List Device) : Prop where
  raw : -2 ^ 31 ≤ policy.raw ∧ policy.raw < 2 ^ 31
  count : devices.length ≤ MAXDEVICES
  paths : ∀ devp ∈ devices, devp.path.length < GPS_PATH_MAX

/-- A WATCH request whose text is no object is refused, and the client watches every device behind
it: the defaults have been stored in its policy.  The answers fit the reply. -/
theorem handleGpsdRequest_watch_obstart {c : Char} {text rest : Text}
    (htext : text.dropWhile isSpace = c :: rest) (hc : c ≠ '\x7b') (policy : Policy)
    (devices : List Device) :
    ∃ a, lineRequests host f opens others devconf ("?WATCH=".toList ++ text) policy devices = some a ∧
      a.answers = [[.error ("Invalid WATCH: ".toList ++ errorString .obstart), .devicelist devices,
        .watch a.policy]] ∧
      a.devices = devices ∧ (∀ path, a.policy.subscribed path = true) ∧
      (Stored policy devices → ∃ reply, handleGpsdRequest host f dumps opens others devconf
        ("?WATCH=".toList ++ text) policy devices = some (a, reply)) := by
  have hread : jsonWatchRead host text policy = (.error .obstart, policy.setDefaults) := by
    rw [jsonWatchRead, readFlat, internalReadObject, setDefaults_chanconfigAttrs]
    exact run_init_obstart 0 policy.setDefaults htext hc
  have hcommand := command_watchRequest text
  have hbuf : "WATCH=".toList ++ text = 'W' :: ("ATCH=".toList ++ text) := rfl
  have hunpack : lineRequests host f opens others devconf ("?WATCH=".toList ++ text) policy
      devices = handleRequests host f opens others devconf ("WATCH=".toList ++ text).length
        ("WATCH=".toList ++ text) policy devices := rfl
  have hnil : ∀ (fuel : Nat) (policy : Policy), handleRequests host f opens others devconf fuel [] policy
      devices = some { policy := policy, devices := devices, answers := [], forwarded := [] } := by
    intro fuel policy
    cases fuel <;> rfl
  rw [hbuf] at hcommand hunpack
  rw [List.length_cons, handleRequests, if_neg (by decide), handleRequest, hcommand] at hunpack
  simp only [handleWatch, hread, hnil, Option.map_some] at hunpack
  refine ⟨_, hunpack, rfl, rfl, fun _ => rfl, fun hstored => ?_⟩
  have hroom : dumps.Room [[.error ("Invalid WATCH: ".toList ++ errorString .obstart),
      .devicelist devices, .watch policy.setDefaults]] :=
    room_watch dumps (by decide) hstored.count hstored.paths rfl hstored.raw
  rcases Option.ne_none_iff_exists'.1 (handleGpsdRequest_ne_none_iff.2 ⟨_, hunpack, hroom⟩) with
    ⟨⟨a, reply⟩, hrequest⟩
  cases hunpack.symm.trans (lineRequests_of_handleGpsdRequest hrequest)
  exact ⟨reply, hrequest⟩

theorem handleGpsdRequest_watch_obstart_on : ∃ a reply,
    handleGpsdRequest (⟨fun _ => some 7, fun _ => some 12, '?'⟩ : Host (Option Int)) wholeFloats
        quietDumps (fun _ => true) (fun _ => 1) wholeData.dev ("?WATCH=".toList ++ " on;\n".toList)
        Policy.zero [] = some (a, reply) ∧
    a.answers = [[.error ("Invalid WATCH: ".toList ++ errorString .obstart), .devicelist [],
      .watch a.policy]] ∧
    a.devices = [] ∧ ∀ path, a.policy.subscribed path = true := by
  have hstored : Stored Policy.zero [] :=
    ⟨by decide, by decide, fun _ h => absurd h List.not_mem_nil⟩
  rcases @handleGpsdRequest_watch_obstart (Option Int) ⟨fun _ => some 7, fun _ => some 12, '?'⟩ wholeFloats
    wholeData.dev (fun _ => true) (fun _ => 1) quietDumps 'o' " on;\n".toList _ rfl (by decide)
    Policy.zero [] with ⟨a, -, hanswers, hdevices, hsubscribed, hreply⟩
  rcases hreply hstored with ⟨reply, hrequest⟩
  exact ⟨a, reply, hrequest, hanswers, hdevices, hsubscribed⟩

end

end Gpsd
end ResourceAccounting
