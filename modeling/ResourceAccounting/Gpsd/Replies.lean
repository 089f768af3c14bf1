import Mathlib.Algebra.Order.BigOperators.Group.List
import ResourceAccounting.Gpsd.Watch
import ResourceAccounting.Schedules.Exec

/-!
# Replies — what gpsd answers, in the buffer that it is put together in

The answers to a line of requests are written one behind the other into one buffer.  A request gets the
end of the text that is there and the room behind it, and so does each dump of the request.

- `Device`, `Reply` — what is dumped;
- `jsonDeviceDump`, `jsonDevicelistDump` — the functions of gpsd_json.c and gpsd.c;
- `Dumps.write`, `Dumps.answer` — one reply, and the replies to one request;
- `Dumps.Room` — there is room for what must not be cut;
- `exec_answer_ne_none_iff` — the answers are written exactly if there is.
-/

namespace ResourceAccounting
namespace Gpsd

open Python C Json Schedules

/-! ## Replies -/

/-- `struct gps_device_t`, what requests look at. -/
structure Device where
  /-- Empty if the slot is not allocated. -/
  path : Text
  /-- `context` is not NULL. -/
  initialized : Bool
  /-- `gps_fd` is not -1. -/
  active : Bool
  /-- `sourcetype == source_gpsd` -/
  source_gpsd : Bool
  /-- `(observed & GPS_TYPEMASK) != 0` -/
  observed : Bool
  /-- `device_type` is not NULL. -/
  typed : Bool
  deriving DecidableEq, Repr

/-- `allocated_device` -/
def Device.allocated (devp : Device) : Bool :=
  devp.path ≠ []

/-- What is dumped into the reply. -/
inductive Reply
  /-- `json_devicelist_dump` -/
  | devicelist (devices : List Device)
  /-- `json_watch_dump` -/
  | watch (policy : Policy)
  /-- `json_device_dump` -/
  | device (devp : Device)
  /-- The POLL object of these devices. -/
  | poll (devices : List Device)
  /-- `json_version_dump` -/
  | version
  /-- An ERROR object with this message. -/
  | error (message : Text)
  deriving DecidableEq, Repr

/-! ## Dumps -/

/-- `GPS_JSON_RESPONSE_MAX` -/
def GPS_JSON_RESPONSE_MAX : Nat := 4096

/-- `MAXDEVICES` -/
def MAXDEVICES : Nat := 4

/-- What the dumps print of a device besides its path. -/
structure Dumps where
  /-- What `json_device_dump` prints behind the path: when the device was activated, what it has been
  seen to send, its driver and subtype, and its serial parameters. -/
  details : Device → Text
  length_details : ∀ devp, (details devp).length ≤ 800
  /-- What the POLL branch leaves in a reply of this size; none if gpsd ends there. -/
  poll : List Device → Nat → Option Text

/-- A gpsd whose devices have sent nothing. -/
def quietDumps : Dumps :=
  { details := fun _ => []
    length_details := fun _ => Nat.zero_le _
    poll := fun _ replylen => some (snprintf replylen
      ("\x7b\"class\":\"POLL\",\"time\":\"2014-07-28T16:17:08.70Z\",\"active\":0," ++
        "\"tpv\":[],\"gst\":[],\"sky\":[]\x7d\r\n").toList) }

/-- `json_version_dump` -/
def versionText : Text :=
  ("\x7b\"class\":\"VERSION\",\"release\":\"3.0\",\"rev\":\"2014-07-28T16:17:08.70\"," ++
    "\"proto_major\":3,\"proto_minor\":6\x7d\r\n").toList

/-- The format of the ERROR objects. -/
def errorText (message : Text) : Text :=
  "\x7b\"class\":\"ERROR\",\"message\":\"".toList ++ message ++ "\"\x7d\r\n".toList

/-- What a dump leaves of the text that the buffer holds.  Where there is only room for the end of the
text, the dump is empty, and its test for a comma looks at the character before it. -/
def dumpAt (size : Nat) (dump : Nat → Option Text) (reply : Text) : Option Text :=
  (dump (size - reply.length)).map fun text => if text = [] then trimComma reply else reply ++ text

namespace Dumps

variable (d : Dumps)

/-- `json_device_dump` -/
def jsonDeviceDump (devp : Device) (replylen : Nat) : Option Text := do
  let reply := strlcpy replylen "\x7b\"class\":\"DEVICE\",\"path\":\"".toList
  let reply ← strlcat replylen reply devp.path
  let reply ← strlcat replylen reply "\",".toList
  let reply := sprintfAt replylen reply (d.details devp)
  strlcat replylen (trimComma reply) "\x7d\r\n".toList

/-- The loop of `json_devicelist_dump`. -/
def devicelistItems (replylen : Nat) : List Device → Text → Option Text
  | [], reply => some reply
  | devp :: devices, reply =>
      if devp.allocated && reply.length + devp.path.length + 3 < replylen - 1 then do
        let item ← d.jsonDeviceDump devp (replylen - reply.length)
        -- the line end of the item is taken back
        let reply ← strlcat replylen (reply ++ item).dropLast.dropLast ",".toList
        devicelistItems replylen devices reply
      else
        devicelistItems replylen devices reply

/-- `json_devicelist_dump` -/
def jsonDevicelistDump (devices : List Device) (replylen : Nat) : Option Text := do
  let reply := strlcpy replylen "\x7b\"class\":\"DEVICES\",\"devices\":[".toList
  let reply ← d.devicelistItems replylen devices reply
  strlcat replylen (trimComma reply) "]\x7d\r\n".toList

/-- What is in the reply to a request when the next dump has been made. -/
def write (size : Nat) (reply : Text) : Reply → Option Text
  | .devicelist devices => dumpAt size (d.jsonDevicelistDump devices) reply
  | .watch policy => dumpAt size (jsonWatchDump policy) reply
  | .device devp => dumpAt size (d.jsonDeviceDump devp) reply
  | .poll devices => dumpAt size (d.poll devices) reply
  | .version => some (sprintfAt size reply versionText)
  | .error message => some (sprintfAt size reply (errorText message))

end Dumps

/-- The dump has a test for a comma. -/
def Reply.trims : Reply → Bool
  | .version => false
  | .error _ => false
  | _ => true

/-- What is in the buffer when the next request has been answered.  The reply to a request starts at the
end of the text that is there, and stays there if the character before it is taken back. -/
def Dumps.answer (d : Dumps) (size : Nat) (reply : Text) (replies : List Reply) : Option Text :=
  (exec (d.write (size - reply.length)) [] replies).map fun text =>
    if text = [] ∧ replies.any Reply.trims then trimComma reply else reply ++ text

/-! ## Room -/

namespace Dumps

variable (d : Dumps)

/-- There is room for a reply behind a text, or none that would be used. -/
def Fits (size : Nat) (reply : Text) : Reply → Prop
  | .watch policy =>
      size - reply.length ≤ 1 ∨ 2 * (watchText policy).length < size - reply.length
  | .poll devices => d.poll devices (size - reply.length) ≠ none
  | _ => True

/-- There is room for the replies to a request. -/
def FitsAll (size : Nat) (reply : Text) (replies : List Reply) : Prop :=
  Respects (d.write (size - reply.length)) (d.Fits (size - reply.length)) [] replies

/-- There is room for the replies to a line of requests. -/
def Room (answers : List (List Reply)) : Prop :=
  Respects (d.answer (GPS_JSON_RESPONSE_MAX + 1)) (d.FitsAll (GPS_JSON_RESPONSE_MAX + 1)) [] answers

end Dumps

/-- What `strlcat` leaves stays within the buffer, and is no longer than both texts. -/
theorem exists_strlcat {size : Nat} {dst : Text} (h : dst.length ≤ size - 1) (src : Text) :
    ∃ text, strlcat size dst src = some text ∧ text.length ≤ size - 1 ∧
      text.length ≤ dst.length + src.length := by
  by_cases hsize : size = 0
  · exact ⟨dst, by rw [strlcat, if_pos hsize], h, Nat.le_add_right _ _⟩
  · refine ⟨_, strlcat_of_dst_lt (by omega) src, ?_, ?_⟩
    · rw [List.length_append, List.length_take]
      omega
    · rw [List.length_append, List.length_take]
      omega

theorem sprintfAt_length_le {size : Nat} {dst : Text} (h : dst.length ≤ size - 1) (s : Text) :
    (sprintfAt size dst s).length ≤ size - 1 ∧
      (sprintfAt size dst s).length ≤ dst.length + s.length := by
  rw [sprintfAt, snprintf, List.length_append, List.length_take]
  omega

theorem trimComma_length_le (s : Text) : (trimComma s).length ≤ s.length :=
  (trimComma_isPrefix s).length_le

/-- What a device takes besides its path. -/
def deviceRoom : Nat := 831

/-- A device is dumped into whatever room there is. -/
theorem exists_jsonDeviceDump (d : Dumps) (devp : Device) (replylen : Nat) :
    ∃ text, d.jsonDeviceDump devp replylen = some text ∧ text.length ≤ replylen - 1 ∧
      text.length ≤ devp.path.length + deviceRoom := by
  have hdetails := d.length_details devp
  have hclass : (strlcpy replylen "\x7b\"class\":\"DEVICE\",\"path\":\"".toList).length ≤ replylen - 1 ∧
      (strlcpy replylen "\x7b\"class\":\"DEVICE\",\"path\":\"".toList).length ≤ 26 :=
    ⟨List.length_take_le _ _, List.length_take_le' _ _⟩
  rcases exists_strlcat hclass.1 devp.path with ⟨path, hpath, hpathroom, hpathlength⟩
  rcases exists_strlcat hpathroom "\",".toList with ⟨quote, hquote, hquoteroom, hquotelength⟩
  have hsprintf := sprintfAt_length_le hquoteroom (d.details devp)
  have htrim := trimComma_length_le (sprintfAt replylen quote (d.details devp))
  rcases exists_strlcat (htrim.trans hsprintf.1) "\x7d\r\n".toList with ⟨text, htext, htextroom, htextlength⟩
  have hends : "\",".toList.length = 2 ∧ "\x7d\r\n".toList.length = 3 := ⟨rfl, rfl⟩
  refine ⟨text, ?_, htextroom, ?_⟩
  · rw [Dumps.jsonDeviceDump]
    simp only [Option.bind_eq_bind]
    rw [hpath, Option.bind_some, hquote, Option.bind_some, htext]
  · unfold deviceRoom
    omega

theorem exists_devicelistItems (d : Dumps) (devices : List Device) {replylen : Nat} {reply : Text}
    (hreply : reply.length ≤ replylen - 1) :
    ∃ text, d.devicelistItems replylen devices reply = some text ∧ text.length ≤ replylen - 1 ∧
      text.length ≤ reply.length + (devices.map fun devp => devp.path.length + deviceRoom).sum := by
  induction devices generalizing reply with
  | nil => exact ⟨reply, rfl, hreply, Nat.le_add_right _ _⟩
  | cons devp devices ih =>
      rw [Dumps.devicelistItems, List.map_cons, List.sum_cons]
      split
      · rcases exists_jsonDeviceDump d devp (replylen - reply.length) with ⟨item, hitem, hroom, hlength⟩
        have hdrop : (reply ++ item).dropLast.dropLast.length = reply.length + item.length - 1 - 1 := by
          rw [List.length_dropLast, List.length_dropLast, List.length_append]
        have hcomma : ",".toList.length = 1 := rfl
        have hcut : (reply ++ item).dropLast.dropLast.length ≤ replylen - 1 := by omega
        rcases exists_strlcat hcut ",".toList with ⟨front, hfront, hfrontroom, hfrontlength⟩
        rcases ih hfrontroom with ⟨text, htext, htextroom, htextlength⟩
        refine ⟨text, ?_, htextroom, ?_⟩
        · simp only [Option.bind_eq_bind]
          rw [hitem, Option.bind_some, hfront, Option.bind_some, htext]
        · have hpos : 1 ≤ deviceRoom := by decide
          omega
      · rcases ih hreply with ⟨text, htext, htextroom, htextlength⟩
        exact ⟨text, htext, htextroom, by omega⟩

theorem exists_jsonDevicelistDump (d : Dumps) (devices : List Device) (replylen : Nat) :
    ∃ text, d.jsonDevicelistDump devices replylen = some text ∧ text.length ≤ replylen - 1 ∧
      text.length ≤ 34 + (devices.map fun devp => devp.path.length + deviceRoom).sum := by
  have hclass : (strlcpy replylen "\x7b\"class\":\"DEVICES\",\"devices\":[".toList).length ≤ replylen - 1 ∧
      (strlcpy replylen "\x7b\"class\":\"DEVICES\",\"devices\":[".toList).length ≤ 30 :=
    ⟨List.length_take_le _ _, List.length_take_le' _ _⟩
  rcases exists_devicelistItems d devices hclass.1 with ⟨items, hitems, hroom, hlength⟩
  have htrim := trimComma_length_le items
  have hclose : "]\x7d\r\n".toList.length = 4 := rfl
  rcases exists_strlcat (htrim.trans hroom) "]\x7d\r\n".toList with ⟨text, htext, htextroom, htextlength⟩
  refine ⟨text, ?_, htextroom, by omega⟩
  rw [Dumps.jsonDevicelistDump]
  simp only [Option.bind_eq_bind]
  rw [hitems, Option.bind_some, htext]

/-- `json_watch_dump` goes well exactly if there is room for the object twice, or for nothing. -/
theorem jsonWatchDump_ne_none_iff (policy : Policy) (size : Nat) :
    jsonWatchDump policy size ≠ none ↔ size ≤ 1 ∨ 2 * (watchText policy).length < size := by
  by_cases hsize : 2 ≤ size
  · rw [ne_eq, jsonWatchDump_eq_none_iff hsize]
    omega
  · refine iff_of_true (fun hnone => ?_) (Or.inl (by omega))
    have hcut : snprintf size (watchText policy ++ [',']) = [] := by
      rw [snprintf, List.take_eq_nil_iff]
      exact Or.inl (by omega)
    rw [jsonWatchDump_def, hcut] at hnone
    simp only at hnone
    have hlong := (strlcat_eq_none_iff.1 hnone).2
    have hpos := (strlcat_eq_none_iff.1 hnone).1
    rw [trimComma_of_ne (fun h => by cases h), List.length_nil] at hlong hpos
    omega

theorem dumpAt_ne_none_iff {size : Nat} {dump : Nat → Option Text} {reply : Text} :
    dumpAt size dump reply ≠ none ↔ dump (size - reply.length) ≠ none :=
  not_congr Option.map_eq_none_iff

/-- A reply is written exactly if there is room for it. -/
theorem write_ne_none_iff (d : Dumps) (size : Nat) (reply : Text) (r : Reply) :
    d.write size reply r ≠ none ↔ d.Fits size reply r := by
  cases r with
  | devicelist devices =>
      rcases exists_jsonDevicelistDump d devices (size - reply.length) with ⟨text, htext, -⟩
      exact dumpAt_ne_none_iff.trans (iff_of_true (htext ▸ Option.some_ne_none text) trivial)
  | watch policy => exact dumpAt_ne_none_iff.trans (jsonWatchDump_ne_none_iff policy _)
  | device devp =>
      rcases exists_jsonDeviceDump d devp (size - reply.length) with ⟨text, htext, -⟩
      exact dumpAt_ne_none_iff.trans (iff_of_true (htext ▸ Option.some_ne_none text) trivial)
  | poll devices => exact dumpAt_ne_none_iff
  | version => exact iff_of_true (Option.some_ne_none _) trivial
  | error message => exact iff_of_true (Option.some_ne_none _) trivial

theorem answer_ne_none_iff (d : Dumps) (size : Nat) (reply : Text) (replies : List Reply) :
    d.answer size reply replies ≠ none ↔ d.FitsAll size reply replies := by
  have hwrite : ∀ (text : Text) (r : Reply), True →
      (d.write (size - reply.length) text r ≠ none ↔ d.Fits (size - reply.length) text r) :=
    fun text r _ => write_ne_none_iff d _ text r
  exact (not_congr Option.map_eq_none_iff).trans
    (exec_ne_none_iff_respects hwrite fun _ _ => trivial)

/-- The answers to a line are written exactly if there is room for them. -/
theorem exec_answer_ne_none_iff (d : Dumps) (answers : List (List Reply)) :
    exec (d.answer (GPS_JSON_RESPONSE_MAX + 1)) [] answers ≠ none ↔ d.Room answers := by
  have hanswer : ∀ (text : Text) (replies : List Reply), True →
      (d.answer (GPS_JSON_RESPONSE_MAX + 1) text replies ≠ none ↔
        d.FitsAll (GPS_JSON_RESPONSE_MAX + 1) text replies) :=
    fun text replies _ => answer_ne_none_iff d _ text replies
  exact exec_ne_none_iff_respects hanswer fun _ _ => trivial

/-- What a client watches, for the thirty-first time in one line. -/
example : exec (quietDumps.answer (GPS_JSON_RESPONSE_MAX + 1)) []
    (List.replicate 31 [.devicelist [], .watch Policy.zero]) = none := by decide +kernel

/-- The reply can be cut wherever the room ends. -/
def Reply.Cut : Reply → Prop
  | .watch _ => False
  | .poll _ => False
  | _ => True

/-- There is always room for replies that can be cut. -/
theorem room_of_cut (d : Dumps) {answers : List (List Reply)}
    (h : ∀ replies ∈ answers, ∀ r ∈ replies, r.Cut) : d.Room answers := by
  refine respects_of_forall_mem fun replies hreplies reply => respects_of_forall_mem fun r hr text => ?_
  have hcut := h replies hreplies r hr
  cases r with
  | watch policy => exact hcut.elim
  | poll devices => exact hcut.elim
  | _ => trivial

/-! ## The reply to a request to watch -/

theorem write_length_le (d : Dumps) {size : Nat} {reply text : Text} {devices : List Device}
    (h : d.write size reply (.devicelist devices) = some text) :
    text.length ≤ reply.length + 34 + (devices.map fun devp => devp.path.length + deviceRoom).sum := by
  rcases exists_jsonDevicelistDump d devices (size - reply.length) with ⟨list, hlist, -, hlength⟩
  have htrim := trimComma_length_le reply
  rw [Dumps.write, dumpAt, hlist, Option.map_some] at h
  rw [← Option.some.inj h]
  split
  · omega
  · rw [List.length_append]
    omega

/-- A policy that watches every device is short. -/
theorem watchText_length_le {policy : Policy} (hdevpath : policy.devpath = [])
    (hraw : -2 ^ 31 ≤ policy.raw ∧ policy.raw < 2 ^ 31) : (watchText policy).length ≤ 115 := by
  have hconcat := congrArg List.length (watchText_concat policy)
  have hdecimal : (decimal policy.raw).length ≤ 10 + 1 :=
    length_decimal_le (by decide) (by omega)
  have hbool : ∀ b, (boolText b).length ≤ 5 := by decide
  have hwatcher := hbool policy.watcher
  have hjson := hbool policy.json
  have hnmea := hbool policy.nmea
  have hscaled := hbool policy.scaled
  have htiming := hbool policy.timing
  unfold watchFormat deviceFormat at hconcat
  rw [if_pos hdevpath] at hconcat
  simp only [List.length_append] at hconcat
  simp only [String.reduceToList] at hconcat
  simp only [List.length_cons, List.length_nil] at hconcat
  omega

theorem length_write_error_le (d : Dumps) {size : Nat} {message text : Text}
    (h : d.write size [] (.error message) = some text) : text.length ≤ 32 + message.length := by
  cases h
  have hlength := (@sprintfAt_length_le size [] (Nat.zero_le _) (errorText message)).2
  have htext : (errorText message).length ≤ 32 + message.length := by
    unfold errorText
    simp only [List.length_append]
    simp only [String.reduceToList]
    simp only [List.length_cons, List.length_nil]
    omega
  rw [List.length_nil, Nat.zero_add] at hlength
  exact hlength.trans htext

/-- The room that a list of devices takes at most. -/
theorem sum_deviceRoom_le {devices : List Device}
    (hpaths : ∀ devp ∈ devices, devp.path.length < GPS_PATH_MAX) :
    (devices.map fun devp => devp.path.length + deviceRoom).sum ≤ devices.length * 894 := by
  have hle : ∀ n ∈ devices.map fun devp => devp.path.length + deviceRoom, n ≤ 894 := by
    intro n hn
    rcases List.mem_map.1 hn with ⟨devp, hdevp, rfl⟩
    have hpath := hpaths devp hdevp
    unfold GPS_PATH_MAX at hpath
    unfold deviceRoom
    omega
  have hcard := List.sum_le_card_nsmul _ 894 hle
  rwa [List.length_map, Nat.nsmul_eq_mul] at hcard

/-- An error, the devices that gpsd can have, and the policy of a client that watches all of them. -/
theorem room_watch (d : Dumps) {message : Text} (hmessage : message.length ≤ 100)
    {devices : List Device} (hcount : devices.length ≤ MAXDEVICES)
    (hpaths : ∀ devp ∈ devices, devp.path.length < GPS_PATH_MAX) {policy : Policy}
    (hdevpath : policy.devpath = []) (hraw : -2 ^ 31 ≤ policy.raw ∧ policy.raw < 2 ^ 31) :
    d.Room [[.error message, .devicelist devices, .watch policy]] := by
  have hwatch := watchText_length_le hdevpath hraw
  have hsum : (devices.map fun devp => devp.path.length + deviceRoom).sum ≤ MAXDEVICES * 894 :=
    (sum_deviceRoom_le hpaths).trans (Nat.mul_le_mul_right 894 hcount)
  rw [Dumps.Room, Respects]
  refine ⟨?_, fun _ _ => trivial⟩
  rw [Dumps.FitsAll, Respects]
  refine ⟨trivial, fun first hfirst => ?_⟩
  rw [Respects]
  refine ⟨trivial, fun second hsecond => ?_⟩
  rw [Respects]
  refine ⟨?_, fun _ _ => trivial⟩
  have herror := length_write_error_le d hfirst
  have hlist := write_length_le d hsecond
  refine Or.inr ?_
  unfold MAXDEVICES at hsum
  unfold GPS_JSON_RESPONSE_MAX
  rw [List.length_nil]
  omega

end Gpsd
end ResourceAccounting
