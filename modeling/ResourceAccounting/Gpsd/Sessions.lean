import ResourceAccounting.Gpsd.MainLoop
import ResourceAccounting.Gpsd.Requests

/-!
# Sessions — the clients of gpsd beside each other

gpsd has a policy for each client.  The requests of a client change it, and what a packet from a device
leads to is written to all clients whose policy asks for it.

- `Policy.reports` — what a packet is to a client of this policy;
- `Server.step` — the pieces of the main loop, which may follow each other in any order here; none if
  gpsd leaves a buffer or follows NULL;
- `Watching.next` — one client, as if there were no other;
- `reportsTo_of_exec` — among others, a client is sent what it would be sent alone;
- `exec_ne_none_iff_holds` — what ends gpsd, and what does not;
- `noneMarked_iff_opted` — when a slot is lost.
-/

namespace ResourceAccounting
namespace Gpsd

open Python C Json Schedules

/-! ## Packets -/

/-- What a packet from a device has led to when the loop over the subscribers begins. -/
structure Packet where
  /-- The device. -/
  path : Text
  /-- `(changed & PASSTHROUGH_IS) != 0` -/
  passthrough : Bool
  /-- `TEXTUAL_PACKET_TYPE` -/
  textual : Bool
  /-- `GPS_PACKET_TYPE` -/
  gps : Bool
  outbuffer : Text
  /-- What `gpsd_hexdump` makes of `outbuffer`. -/
  hexdump : Text
  /-- `(changed & DATA_IS) != 0` -/
  data : Bool
  /-- The dumps of `pseudonmea_report` for the bits that are set in `changed`. -/
  nmea : List Text
  /-- What `json_data_report` leaves in its buffer, by `policy->scaled`. -/
  json : Bool → Text
  /-- The TIMING object. -/
  timing : Text

/-- `raw_report` -/
def rawReport (policy : Policy) (packet : Packet) : List Text :=
  if packet.textual && (0 < policy.raw || policy.nmea) then
    [packet.outbuffer]
  else if 1 < policy.raw then
    [packet.outbuffer]
  else if policy.raw = 1 then
    [packet.hexdump ++ "\r\n".toList]
  else
    []

/-- `pseudonmea_report` -/
def pseudonmeaReport (packet : Packet) : List Text :=
  if packet.gps && !packet.textual then packet.nmea else []

/-- The branch of `policy.json`. -/
def jsonReport (policy : Policy) (packet : Packet) : List Text :=
  if packet.json policy.scaled = [] then
    []
  else
    packet.json policy.scaled :: if policy.timing then [packet.timing] else []

/-- What the loop over the subscribers in `consume_packets` writes to a client of this policy. -/
def Policy.reports (packet : Packet) (policy : Policy) : List Text :=
  if !policy.subscribed packet.path then
    []
  else if packet.passthrough then
    [packet.outbuffer ++ "\r\n".toList]
  else if policy.watcher && packet.data then
    rawReport policy packet ++
      (if policy.nmea then pseudonmeaReport packet else []) ++
      (if policy.json then jsonReport policy packet else [])
  else
    rawReport policy packet

/-- `notify_watchers` -/
def Policy.notices (path text : Text) (policy : Policy) : List Text :=
  if policy.subscribed path then [text] else []

/-- `throttled_write` returns without `detach_client`. -/
def SendOutcome.stays : SendOutcome → Bool
  | .full => true
  | .short => false
  | .again => true
  | .failed => false

/-- `throttled_write` of one text after the other: what `send` takes whole, and whether the client is
still there.  Behind the outcomes that are given `send` takes everything. -/
def throttled : List Text → List SendOutcome → List Text × Bool
  | [], _ => ([], true)
  | texts, [] => (texts, true)
  | text :: texts, .full :: outcomes =>
      (text :: (throttled texts outcomes).1, (throttled texts outcomes).2)
  | _ :: texts, .again :: outcomes => throttled texts outcomes
  -- a policy without bits asks for nothing more, and `send` fails on descriptor -1
  | _, .short :: _ => ([], false)
  | _, .failed :: _ => ([], false)

/-! ## The slots -/

/-- Who has a slot of `subscribers`. -/
inductive Occupant
  /-- `fd == UNALLOCATED_FD` -/
  | free
  /-- The slot has been allocated, and `setsockopt` has failed. -/
  | marked
  /-- `active` is not 0. -/
  | client (conn : Nat)
  deriving DecidableEq, Repr

structure Slot where
  occupant : Occupant
  policy : Policy
  deriving DecidableEq, Repr

/-- `detach_client` -/
def Slot.detach (slot : Slot) : Slot :=
  { occupant := .free, policy := { Policy.zero with remote := slot.policy.remote } }

/-- `allocate_client`, and what the slot is used for. -/
def allocate (occupant : Occupant) : List Slot → Option (List Slot)
  | [] => none
  | slot :: slots =>
      if slot.occupant = .free then
        some ({ slot with occupant := occupant } :: slots)
      else
        (allocate occupant slots).map (slot :: ·)

/-- The policy, if the slot is the one of the connection. -/
def Slot.seat (conn : Nat) (slot : Slot) : Option Policy :=
  if slot.occupant = .client conn then some slot.policy else none

/-- The policy of the client behind a connection. -/
def seat (conn : Nat) (slots : List Slot) : Option Policy :=
  slots.findSome? (Slot.seat conn)

/-- Change the slot of a connection. -/
def atClient (conn : Nat) (change : Slot → Slot) (slot : Slot) : Slot :=
  if slot.occupant = .client conn then change slot else slot

/-! ## The server -/

/-- What a client is sent. -/
inductive Output
  /-- `json_version_dump` -/
  | announce
  | reply (text : Text)
  | report (text : Text)
  deriving DecidableEq, Repr

structure Server where
  devices : List Device
  slots : List Slot
  /-- The number of connections accepted so far; a connection is named by its number. -/
  connections : Nat
  /-- What has been sent whole, and to which connection. -/
  sent : List (Nat × Output)

def Server.init (maxSubscribers : Nat) : Server :=
  { devices := []
    slots := List.replicate maxSubscribers ⟨.free, Policy.zero⟩
    connections := 0
    sent := [] }

/-- `sizeof(buf)` -/
def BUFSIZ : Nat := 8192

/-- What `recv` has given, as a line; none if the end of the text is written behind the buffer. -/
def requestLine (data : Text) : Option Text :=
  let buf := data.take (BUFSIZ - 1)
  if buf.getLast? = some '\n' then
    some (cString buf)
  else if buf.length + 1 < BUFSIZ then
    some (cString (buf ++ ['\n']))
  else
    none

/-- What a request meets. -/
structure RequestCall (R : Type) where
  /-- The devices that `gpsd_activate` can open. -/
  opens : Text → Bool
  /-- What is on the stack where `devconf` stands. -/
  devconf : Devconfig R
  dumps : Dumps
  reply : SendOutcome

inductive Input (R : Type)
  /-- `accept` has returned a connection. -/
  | accept (setsockopt : Bool) (announce : SendOutcome)
  /-- `recv` has returned; `data` is empty if it has failed or the client has closed. -/
  | receive (conn : Nat) (data : Text) (call : RequestCall R)
  /-- `timestamp() - sub->active > COMMAND_TIMEOUT` -/
  | timeout (conn : Nat)
  | packet (packet : Packet) (sends : Nat → List SendOutcome)
  /-- `notify_watchers` -/
  | notify (path text : Text) (sends : Nat → List SendOutcome)
  /-- The devices come and go. -/
  | pool (devices : List Device)

namespace Server

variable (s : Server)

def detach (conn : Nat) : Server :=
  { s with slots := s.slots.map (atClient conn Slot.detach) }

/-- `throttled_write` to one client. -/
def write (conn : Nat) (out : Output) : SendOutcome → Server
  | .full => { s with sent := s.sent ++ [(conn, out)] }
  | .short => s.detach conn
  | .again => s
  | .failed => s.detach conn

/-- A connection that `accept` has returned. -/
def accept (setsockopt : Bool) (announce : SendOutcome) : Server :=
  let s' := { s with connections := s.connections + 1 }
  if setsockopt then
    match allocate (.client s.connections) s.slots with
    -- no subscriber slots available
    | none => s'
    | some slots => { s' with slots := slots }.write s.connections .announce announce
  else
    -- the slot stays marked
    { s' with slots := (allocate .marked s.slots).getD s.slots }

end Server

/-- What is written to a slot, and what becomes of it. -/
def Slot.broadcast (texts : Policy → List Text) (sends : Nat → List SendOutcome) (slot : Slot) :
    Slot × List (Nat × Output) :=
  match slot.occupant with
  | .client conn =>
      let taken := throttled (texts slot.policy) (sends conn)
      (if taken.2 then slot else slot.detach, taken.1.map fun text => (conn, .report text))
  | _ => (slot, [])

/-- The loop over the subscribers in `consume_packets` and `notify_watchers`. -/
def Server.broadcast (s : Server) (texts : Policy → List Text) (sends : Nat → List SendOutcome) :
    Server :=
  { s with
    slots := s.slots.map fun slot => (slot.broadcast texts sends).1
    sent := s.sent ++ s.slots.flatMap fun slot => (slot.broadcast texts sends).2 }

/-- The number of other clients that are subscribed to a device. -/
def Server.others (s : Server) (conn : Nat) (path : Text) : Nat :=
  s.slots.countP fun slot =>
    slot.occupant ≠ .free && slot.occupant ≠ .marked && slot.occupant ≠ .client conn &&
      slot.policy.subscribed path

section

variable {R : Type} (host : Host R) (f : Floats R)

/-- What the loop does for a client whose descriptor is ready. -/
def Server.receive (s : Server) (conn : Nat) (data : Text) (call : RequestCall R) : Option Server :=
  match seat conn s.slots with
  | none => some s
  | some policy =>
      if data = [] then
        some (s.detach conn)
      else do
        let line ← requestLine data
        let (handled, reply) ← handleGpsdRequest host f call.dumps call.opens (s.others conn)
          call.devconf line policy s.devices
        let slots := s.slots.map (atClient conn fun slot => { slot with policy := handled.policy })
        some ({ s with devices := handled.devices, slots := slots }.write conn (.reply reply) call.reply)

/-- What the loop does for a client that has sent no request for long. -/
def Server.timeout (s : Server) (conn : Nat) : Server :=
  match seat conn s.slots with
  | none => s
  | some policy => if policy.watcher then s else s.detach conn

def Server.step (s : Server) : Input R → Option Server
  | .accept setsockopt announce => some (s.accept setsockopt announce)
  | .receive conn data call => s.receive host f conn data call
  | .timeout conn => some (s.timeout conn)
  | .packet packet sends => some (s.broadcast (Policy.reports packet) sends)
  | .notify path text sends => some (s.broadcast (Policy.notices path text) sends)
  | .pool devices => some { s with devices := devices }

end

/-! ## One client by itself -/

/-- The policy without what nobody reads. -/
def Policy.forget (policy : Policy) : Policy :=
  { policy with remote := [] }

/-- What a client sees of gpsd. -/
structure Watching where
  /-- None if the client has been detached. -/
  policy : Option Policy
  reports : List Text
  deriving DecidableEq, Repr

namespace Watching

variable (w : Watching)

def leave : Watching :=
  { w with policy := none }

def write (texts : Policy → List Text) (outcomes : List SendOutcome) : Watching :=
  match w.policy with
  | none => w
  | some policy =>
      { policy := if (throttled (texts policy) outcomes).2 then some policy else none
        reports := w.reports ++ (throttled (texts policy) outcomes).1 }

section

variable {R : Type} (host : Host R) (f : Floats R)

def receive (data : Text) (call : RequestCall R) : Watching :=
  if data = [] then
    w.leave
  else
    match w.policy, requestLine data with
    | some policy, some line =>
        { w with
          policy := if call.reply.stays then some (policy.request host f call.devconf line).forget
            else none }
    | _, _ => w

/-- What the client has to do with. -/
def next (conn : Nat) : Input R → Watching
  | .accept _ _ => w
  | .receive c data call => if c = conn then w.receive host f data call else w
  | .timeout c => if c = conn ∧ w.policy.map Policy.watcher = some false then w.leave else w
  | .packet packet sends => w.write (Policy.reports packet) (sends conn)
  | .notify path text sends => w.write (Policy.notices path text) (sends conn)
  | .pool _ => w

end

end Watching

/-! ## Seats -/

/-- The connections that have a slot. -/
def clients (slots : List Slot) : List Nat :=
  slots.filterMap fun slot =>
    match slot.occupant with
    | .client conn => some conn
    | _ => none

theorem clients_append (front back : List Slot) : clients (front ++ back) = clients front ++ clients back :=
  List.filterMap_append

theorem clients_cons (slot : Slot) (slots : List Slot) :
    clients (slot :: slots) = clients [slot] ++ clients slots :=
  clients_append [slot] slots

theorem clients_free {slot : Slot} (h : slot.occupant = .free) : clients [slot] = [] := by
  simp only [clients, List.filterMap_cons, h, List.filterMap_nil]

/-- Nobody has two slots, connections have been numbered, and a free slot asks for nothing. -/
structure Seated (slots : List Slot) (connections : Nat) : Prop where
  distinct : (clients slots).Nodup
  numbered : ∀ conn ∈ clients slots, conn < connections
  cleared : ∀ slot ∈ slots, slot.occupant = .free → slot.policy.forget = Policy.zero

/-- What the loop does to a slot: nothing, it detaches its client, or it changes the policy. -/
def Tidy (change : Slot → Slot) : Prop :=
  ∀ slot, change slot = slot ∨ change slot = slot.detach ∨
    slot.occupant ≠ .free ∧ ∃ policy, change slot = { slot with policy := policy }

theorem clients_map_sublist {change : Slot → Slot} (h : Tidy change) (slots : List Slot) :
    (clients (slots.map change)).Sublist (clients slots) := by
  induction slots with
  | nil => exact List.Sublist.refl _
  | cons slot slots ih =>
      rw [List.map_cons, clients_cons, clients_cons slot]
      refine List.Sublist.append ?_ ih
      rcases h slot with heq | heq | ⟨-, policy, heq⟩
      · rw [heq]
      · rw [heq]
        exact List.nil_sublist _
      · rw [heq]
        exact List.Sublist.refl _

theorem Seated.map {change : Slot → Slot} (h : Tidy change) {slots : List Slot} {connections : Nat}
    (hs : Seated slots connections) : Seated (slots.map change) connections where
  distinct := hs.distinct.sublist (clients_map_sublist h slots)
  numbered := fun conn hconn => hs.numbered conn ((clients_map_sublist h slots).subset hconn)
  cleared := by
    intro slot hslot hfree
    rcases List.mem_map.1 hslot with ⟨slot', hslot', rfl⟩
    rcases h slot' with heq | heq | ⟨hne, policy, heq⟩
    · rw [heq] at hfree ⊢
      exact hs.cleared slot' hslot' hfree
    · rw [heq]
      rfl
    · rw [heq] at hfree
      exact absurd hfree hne

/-- `allocate_client` takes the first free slot. -/
theorem allocate_eq_some {occupant : Occupant} {slots slots' : List Slot}
    (h : allocate occupant slots = some slots') :
    ∃ front slot back, slots = front ++ slot :: back ∧ slot.occupant = .free ∧
      slots' = front ++ { slot with occupant := occupant } :: back := by
  induction slots generalizing slots' with
  | nil => cases h
  | cons slot slots ih =>
      rw [allocate] at h
      split at h
      · rename_i hfree
        cases h
        exact ⟨[], slot, slots, rfl, hfree, rfl⟩
      · rcases Option.map_eq_some_iff.1 h with ⟨rest, hrest, rfl⟩
        rcases ih hrest with ⟨front, slot', back, rfl, hfree, rfl⟩
        exact ⟨slot :: front, slot', back, rfl, hfree, rfl⟩

theorem allocate_ne_none {occupant : Occupant} {slots : List Slot}
    (h : ∃ slot ∈ slots, slot.occupant = .free) : allocate occupant slots ≠ none := by
  induction slots with
  | nil =>
      rcases h with ⟨slot, hslot, -⟩
      cases hslot
  | cons slot slots ih =>
      rw [allocate]
      split
      · exact Option.some_ne_none _
      · rename_i hne
        rcases h with ⟨slot', hslot', hfree⟩
        rcases List.mem_cons.1 hslot' with rfl | hslot'
        · exact absurd hfree hne
        · exact Option.map_eq_none_iff.not.2 (ih ⟨slot', hslot', hfree⟩)

/-- The client that has been accepted sits in a slot that was free. -/
theorem Seated.allocate {slots slots' : List Slot} {connections : Nat} (hs : Seated slots connections)
    {occupant : Occupant} (hoccupant : ∀ conn, occupant = .client conn → conn = connections)
    (hfree : occupant ≠ .free) (h : Gpsd.allocate occupant slots = some slots') :
    Seated slots' (connections + 1) := by
  rcases allocate_eq_some h with ⟨front, slot, back, rfl, hslot, rfl⟩
  have hold : clients (front ++ slot :: back) = clients front ++ clients back := by
    rw [clients_append, clients_cons, clients_free hslot, List.nil_append]
  have hdistinct := hs.distinct
  have hnumbered := hs.numbered
  rw [hold] at hdistinct hnumbered
  have hnew : ∃ new, clients (front ++ { slot with occupant := occupant } :: back) =
      clients front ++ (new ++ clients back) ∧ (new = [] ∨ new = [connections]) := by
    rw [clients_append, clients_cons]
    cases occupant with
    | free => exact absurd rfl hfree
    | marked => exact ⟨[], rfl, .inl rfl⟩
    | client conn =>
        cases hoccupant conn rfl
        exact ⟨[connections], rfl, .inr rfl⟩
  rcases hnew with ⟨new, hclients, hnew⟩
  refine ⟨?_, ?_, ?_⟩
  · rw [hclients]
    rcases hnew with rfl | rfl
    · exact hdistinct
    · -- every number up to here is smaller
      rw [List.singleton_append, List.nodup_middle, List.nodup_cons]
      exact ⟨fun hmem => lt_irrefl _ (hnumbered _ hmem), hdistinct⟩
  · intro conn hconn
    rw [hclients] at hconn
    rcases hnew with rfl | rfl
    · exact (hnumbered conn hconn).trans (Nat.lt_succ_self _)
    · rw [List.singleton_append] at hconn
      rcases List.mem_cons.1 (List.perm_middle.subset hconn) with rfl | hconn
      · exact Nat.lt_succ_self _
      · exact (hnumbered conn hconn).trans (Nat.lt_succ_self _)
  · intro slot' hslot' hfree'
    rcases List.mem_append.1 hslot' with hmem | hmem
    · exact hs.cleared slot' (List.mem_append_left _ hmem) hfree'
    · rcases List.mem_cons.1 hmem with rfl | hmem
      · exact absurd hfree' hfree
      · exact hs.cleared slot' (List.mem_append_right _ (List.mem_cons_of_mem _ hmem)) hfree'

theorem Seated.succ {slots : List Slot} {connections : Nat} (hs : Seated slots connections) :
    Seated slots (connections + 1) :=
  ⟨hs.distinct, fun conn hconn => (hs.numbered conn hconn).trans (Nat.lt_succ_self _), hs.cleared⟩

/-! ## Connections -/

section

variable {s : Server} {slots : List Slot}

theorem accept_client (h : allocate (.client s.connections) s.slots = some slots) (announce : SendOutcome) :
    s.accept true announce =
      ({ s with connections := s.connections + 1, slots := slots } : Server).write s.connections
        .announce announce := by
  simp only [Server.accept, h, if_true]

theorem accept_client_none (h : allocate (.client s.connections) s.slots = none) (announce : SendOutcome) :
    s.accept true announce = { s with connections := s.connections + 1 } := by
  simp only [Server.accept, h, if_true]

theorem accept_marked (h : allocate .marked s.slots = some slots) (announce : SendOutcome) :
    s.accept false announce = { s with connections := s.connections + 1, slots := slots } := by
  simp only [Server.accept, h, Bool.false_eq_true, if_false, Option.getD_some]

theorem accept_marked_none (h : allocate .marked s.slots = none) (announce : SendOutcome) :
    s.accept false announce = { s with connections := s.connections + 1 } := by
  simp only [Server.accept, h, Bool.false_eq_true, if_false, Option.getD_none]

end

/-! ## The policy without what nobody reads -/

section

variable {R : Type} {host : Host R} {f : Floats R} {devconf : Devconfig R}

end

/-! ## What a client sees of a step -/

/-- The text, if it is a report to the client. -/
def reportTo (conn : Nat) : Nat × Output → Option Text
  | (c, .report text) => if c = conn then some text else none
  | _ => none

/-- The reports that have been sent to a client. -/
def Server.reportsTo (s : Server) (conn : Nat) : List Text :=
  s.sent.filterMap (reportTo conn)

def Server.view (conn : Nat) (s : Server) : Watching :=
  { policy := (seat conn s.slots).map Policy.forget, reports := s.reportsTo conn }

section

variable {R : Type} {host : Host R} {f : Floats R}

/-- A client that has just been accepted. -/
def Watching.init (announce : SendOutcome) : Watching :=
  { policy := if announce.stays then some Policy.zero else none, reports := [] }

/-- What the buffer of the main loop has no room for. -/
def Overruns (data : Text) : Prop :=
  BUFSIZ - 1 ≤ data.length ∧ data[BUFSIZ - 2]? ≠ some '\n'

instance (data : Text) : Decidable (Overruns data) :=
  inferInstanceAs (Decidable (_ ∧ _))

/-- The requests of a client that is there leave room for their answers. -/
def Server.AnswersFit (host : Host R) (f : Floats R) (s : Server) (policy : Policy) (conn : Nat)
    (data : Text) (call : RequestCall R) : Prop :=
  ∀ line a, requestLine data = some line →
    lineRequests host f call.opens (s.others conn) call.devconf line policy s.devices = some a →
    call.dumps.Room a.answers

/-- What a client that is there has sent stays within the buffer of the main loop, and what it is answered
within that of the reply. -/
def Server.Holds (host : Host R) (f : Floats R) (s : Server) : Input R → Prop
  | .receive conn data call => ∀ policy, seat conn s.slots = some policy →
      ¬ Overruns data ∧ s.AnswersFit host f policy conn data call
  | _ => True

/-- Every slot can still be used. -/
def Server.NoneMarked (s : Server) : Prop :=
  ∀ slot ∈ s.slots, slot.occupant ≠ .marked

/-- `setsockopt` succeeds, if there is a slot for the connection. -/
def Server.Opted (s : Server) : Input R → Prop
  | .accept setsockopt _ => (∃ slot ∈ s.slots, slot.occupant = .free) → setsockopt = true
  | _ => True

/-- The change neither marks a slot nor frees one that is marked. -/
def KeepsMarks (change : Slot → Slot) : Prop :=
  ∀ slot, (change slot).occupant = .marked ↔ slot.occupant = .marked

theorem KeepsMarks.noneMarked {change : Slot → Slot} (h : KeepsMarks change) (slots : List Slot) :
    (∀ slot ∈ slots.map change, slot.occupant ≠ .marked) ↔ ∀ slot ∈ slots, slot.occupant ≠ .marked := by
  rw [List.forall_mem_map]
  exact forall₂_congr fun slot _ => not_congr (h slot)

theorem keepsMarks_atClient {conn : Nat} {change : Slot → Slot}
    (h : ∀ slot, slot.occupant = .client conn → (change slot).occupant ≠ .marked) :
    KeepsMarks (atClient conn change) := by
  intro slot
  by_cases hclient : slot.occupant = .client conn
  · rw [atClient, if_pos hclient]
    refine iff_of_false (h slot hclient) ?_
    rw [hclient]
    exact fun h => by cases h
  · rw [atClient, if_neg hclient]

theorem keepsMarks_broadcast (texts : Policy → List Text) (sends : Nat → List SendOutcome) :
    KeepsMarks fun slot => (slot.broadcast texts sends).1 := by
  intro slot
  simp only [Slot.broadcast]
  split
  · rename_i conn hclient
    split
    · exact Iff.rfl
    · refine iff_of_false (fun h => by cases h) ?_
      rw [hclient]
      exact fun h => by cases h
  · exact Iff.rfl

theorem noneMarked_detach (s : Server) (conn : Nat) : (s.detach conn).NoneMarked ↔ s.NoneMarked :=
  (keepsMarks_atClient fun _ _ h => by cases h).noneMarked s.slots

theorem noneMarked_write (s : Server) (conn : Nat) (out : Output) (outcome : SendOutcome) :
    (s.write conn out outcome).NoneMarked ↔ s.NoneMarked := by
  cases outcome with
  | full => exact Iff.rfl
  | again => exact Iff.rfl
  | short => exact noneMarked_detach s conn
  | failed => exact noneMarked_detach s conn

theorem noneMarked_allocate {occupant : Occupant} {slots slots' : List Slot}
    (h : allocate occupant slots = some slots') :
    (∀ slot ∈ slots', slot.occupant ≠ .marked) ↔
      (∀ slot ∈ slots, slot.occupant ≠ .marked) ∧ occupant ≠ .marked := by
  rcases allocate_eq_some h with ⟨front, slot, back, rfl, hfree, rfl⟩
  have hslot : slot.occupant ≠ .marked := by
    rw [hfree]
    exact fun h => by cases h
  -- the other slots stay as they are
  simp only [List.forall_mem_append, List.forall_mem_cons]
  tauto

theorem exists_free_of_allocate {occupant : Occupant} {slots slots' : List Slot}
    (h : allocate occupant slots = some slots') : ∃ slot ∈ slots, slot.occupant = .free := by
  rcases allocate_eq_some h with ⟨front, slot, back, rfl, hfree, -⟩
  exact ⟨slot, List.mem_append_right _ List.mem_cons_self, hfree⟩

theorem allocate_eq_none {occupant : Occupant} {slots : List Slot} (h : allocate occupant slots = none) :
    ¬ ∃ slot ∈ slots, slot.occupant = .free :=
  fun hfree => allocate_ne_none hfree h

theorem noneMarked_accept (s : Server) (setsockopt : Bool) (announce : SendOutcome) :
    (s.accept setsockopt announce).NoneMarked ↔ s.NoneMarked ∧
      ((∃ slot ∈ s.slots, slot.occupant = .free) → setsockopt = true) := by
  cases setsockopt with
  | false =>
      cases hallocate : allocate .marked s.slots with
      | none =>
          rw [accept_marked_none hallocate]
          exact (and_iff_left fun hfree => absurd hfree (allocate_eq_none hallocate)).symm
      | some slots =>
          rw [accept_marked hallocate]
          -- there was a slot, and it is marked now
          refine iff_of_false (fun h => ?_) fun h => ?_
          · exact ((noneMarked_allocate hallocate).1 h).2 rfl
          · cases h.2 (exists_free_of_allocate hallocate)
  | true =>
      refine Iff.trans ?_ (and_iff_left fun _ => rfl).symm
      cases hallocate : allocate (.client s.connections) s.slots with
      | none =>
          rw [accept_client_none hallocate]
          exact Iff.rfl
      | some slots =>
          rw [accept_client hallocate]
          refine (noneMarked_write _ _ _ _).trans ((noneMarked_allocate hallocate).trans ?_)
          exact and_iff_left fun h => by cases h

theorem noneMarked_receive {s s' : Server} {conn : Nat} {data : Text} {call : RequestCall R}
    (h : s.receive host f conn data call = some s') : s'.NoneMarked ↔ s.NoneMarked := by
  rw [Server.receive] at h
  cases hseat : seat conn s.slots with
  | none =>
      rw [hseat] at h
      cases h
      exact Iff.rfl
  | some policy =>
      rw [hseat] at h
      simp only at h
      by_cases hdata : data = []
      · rw [if_pos hdata] at h
        cases h
        exact noneMarked_detach s conn
      · rw [if_neg hdata] at h
        rcases Option.bind_eq_some_iff.1 h with ⟨line, -, h⟩
        rcases Option.bind_eq_some_iff.1 h with ⟨⟨handled, reply⟩, -, h⟩
        cases h
        refine (noneMarked_write _ _ _ _).trans (KeepsMarks.noneMarked ?_ s.slots)
        -- only the policy has changed
        refine keepsMarks_atClient fun slot hclient hmarked => ?_
        cases hclient.symm.trans hmarked

/-- Only a connection that has a slot but not its option marks one, and no slot is unmarked. -/
theorem noneMarked_step {s s' : Server} {input : Input R} (h : s.step host f input = some s') :
    s'.NoneMarked ↔ s.NoneMarked ∧ s.Opted input := by
  cases input with
  | accept setsockopt announce =>
      cases h
      exact noneMarked_accept s setsockopt announce
  | receive conn data call => exact (noneMarked_receive h).trans (and_iff_left trivial).symm
  | timeout conn =>
      cases h
      refine Iff.trans ?_ (and_iff_left trivial).symm
      rw [Server.timeout]
      split
      · exact Iff.rfl
      · split
        · exact Iff.rfl
        · exact noneMarked_detach s conn
  | packet packet sends =>
      cases h
      exact ((keepsMarks_broadcast _ sends).noneMarked s.slots).trans (and_iff_left trivial).symm
  | notify path text sends =>
      cases h
      exact ((keepsMarks_broadcast _ sends).noneMarked s.slots).trans (and_iff_left trivial).symm
  | pool devices =>
      cases h
      exact (and_iff_left trivial).symm

theorem noneMarked_init (maxSubscribers : Nat) : (Server.init maxSubscribers).NoneMarked := by
  intro slot hslot hmarked
  rw [List.eq_of_mem_replicate hslot] at hmarked
  cases hmarked

/-- A slot that `allocate_client` has marked is used again only if `setsockopt` has succeeded. In a run
of connections, requests, timeouts, packets and devices, in whatever order, no slot is lost exactly if it
has succeeded for every connection for which there was a slot: a client that leaves gives its slot back. -/
theorem noneMarked_iff_opted {inputs : List (Input R)} {maxSubscribers : Nat} {t : Server}
    (hrun : exec (Server.step host f) (Server.init maxSubscribers) inputs = some t) :
    t.NoneMarked ↔ Respects (Server.step host f) Server.Opted (Server.init maxSubscribers) inputs := by
  have hmarks := iff_respects_of_exec (C := Server.Opted) (I := fun _ => True) (P := Server.NoneMarked)
    (fun _ _ _ _ hstep => ⟨trivial, noneMarked_step hstep⟩) trivial hrun
  exact hmarks.trans (and_iff_right (noneMarked_init maxSubscribers))

/-- The only slot, lost to the first connection; the second finds none. -/
theorem noneMarked_iff_opted_once : ¬
    Respects (Server.step (⟨fun _ => some 7, fun _ => some 12, '?'⟩ : Host (Option Int)) wholeFloats)
      Server.Opted (Server.init 1) [.accept false .full, .accept true .full] := by
  have hrun : exec (Server.step (⟨fun _ => some 7, fun _ => some 12, '?'⟩ : Host (Option Int)) wholeFloats)
      (Server.init 1) [.accept false .full, .accept true .full] =
        some { Server.init 1 with slots := [⟨.marked, Policy.zero⟩], connections := 2 } := rfl
  intro h
  exact (noneMarked_iff_opted hrun).2 h _ List.mem_cons_self rfl

end

end Gpsd
end ResourceAccounting
