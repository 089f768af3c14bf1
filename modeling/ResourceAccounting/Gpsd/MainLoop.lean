import ResourceAccounting.Descriptors.Table
import ResourceAccounting.Schedules.Exec

/-!
# MainLoop — clients and descriptors in gpsd's main loop

gpsd accepts clients, tells each one its version, and reports two times to the accounting server:
a REQUEST when `accept` has returned and a RESPONCE after the announcement.

- `sendToServer`, `allocateClient`, `detachClient`, `throttledWrite` — the functions of gpsd.c;
- `acceptClient` — what the loop does for a listening socket that is ready;
- `Action`, `mainStep` — the pieces of the loop, which may follow each other in any order here; the
  outcomes of the system calls are part of the action.

`history` records what the statements speak about, the latest event first.
-/

namespace ResourceAccounting
namespace Gpsd

open Descriptors

/-! ## The state -/

/-- What a descriptor refers to. -/
inductive Owner
  /-- A standard stream, a listening socket, the control socket, a device. -/
  | other
  /-- A connection that `accept` has returned. -/
  | client (conn : Nat)
  /-- A socket of `send_to_server`. -/
  | accounting
  deriving DecidableEq, Repr

/-- `struct subscriber_t` -/
structure Subscriber where
  /-- `none` is `UNALLOCATED_FD`. -/
  fd : Option Nat
  /-- `active` is not 0. -/
  active : Bool
  deriving DecidableEq, Repr

inductive ReportType
  | request
  | responce
  deriving DecidableEq, Repr

/-- What `throttled_write` writes. -/
inductive Payload
  | announce
  | other
  deriving DecidableEq, Repr

inductive Event
  /-- `accept` has returned a connection to the peer's port. -/
  | accepted (conn : Nat) (port : UInt16)
  /-- `send_to_server` has been called, for the connection that `accept` returned (if it did). -/
  | reported (type : ReportType) (conn : Option Nat) (port : UInt16) (time : Nat)
  /-- `FD_SET(ssock, ...)` for a descriptor that `accept` has returned; a control connection has no
  number. -/
  | fdSet (conn : Option Nat) (fd : Nat)
  /-- `send` has taken the whole payload. -/
  | sent (conn : Option Nat) (payload : Payload)
  | detached (conn : Option Nat)
  deriving DecidableEq, Repr

structure Daemon where
  descriptors : Table Owner
  subscribers : List Subscriber
  /-- The bytes of `fsin` where `sin_port` stands. -/
  fsin : UInt16
  /-- `CLOCK_MONOTONIC`, in nanoseconds. -/
  clock : Nat
  /-- The number of connections accepted so far; a connection is named by its number. -/
  connections : Nat
  history : List Event

/-- `FD_SETSIZE` -/
def fdSetSize : Nat :=
  1024

/-- No descriptor is open yet, not even the standard streams. -/
def Daemon.init (maxSubscribers : Nat) : Daemon :=
  { descriptors := ∅
    subscribers := List.replicate maxSubscribers ⟨none, false⟩
    fsin := 0
    clock := 0
    connections := 0
    history := [] }

namespace Daemon

/-! ## The functions -/

variable (s : Daemon)

def record (e : Event) : Daemon :=
  { s with history := e :: s.history }

/-- A system call that opens a descriptor. -/
def openDescriptor (o : Owner) : Daemon :=
  { s with descriptors := s.descriptors.allocate o }

/-- `close(fd)` -/
def closeDescriptor (fd : Nat) : Daemon :=
  { s with descriptors := s.descriptors.close fd }

/-- `clock_gettime(CLOCK_MONOTONIC, &tm)`, `delay` after the previous reading. -/
def clockGettime (delay : Nat) : Daemon :=
  { s with clock := s.clock + delay }

/-- The connection on the other side of a descriptor. -/
def connection? (fd : Nat) : Option Nat :=
  match s.descriptors.lookup fd with
  | some (.client conn) => some conn
  | _ => none

end Daemon

/-- How far `send_to_server` gets. -/
inductive ReportOutcome
  | socketFails
  | inetPtonFails
  | connectFails
  /-- `write` is called; its result is not looked at. -/
  | written
  deriving DecidableEq, Repr

/-- How `send` returns. -/
inductive SendOutcome
  | full
  | short
  /-- -1 with `EAGAIN` or `EINTR`. -/
  | again
  /-- -1 with another `errno`. -/
  | failed
  deriving DecidableEq, Repr

namespace Daemon

variable (s : Daemon)

/-- `send_to_server`, with the time that has been read last; the loop ignores its result. -/
def sendToServer (type : ReportType) (conn : Option Nat) (port : UInt16) :
    ReportOutcome → Daemon
  | .socketFails => s.record (.reported type conn port s.clock)
  -- every path after `socket` returns without `close(sockfd)`
  | .inetPtonFails => (s.record (.reported type conn port s.clock)).openDescriptor .accounting
  | .connectFails => (s.record (.reported type conn port s.clock)).openDescriptor .accounting
  | .written => (s.record (.reported type conn port s.clock)).openDescriptor .accounting

/-- `detach_client` -/
def detachClient (si : Nat) : Daemon :=
  match s.subscribers[si]?.bind Subscriber.fd with
  -- `sub->fd == UNALLOCATED_FD`
  | none => s
  | some fd =>
      { s with
        descriptors := s.descriptors.close fd
        subscribers := s.subscribers.set si ⟨none, false⟩
        history := .detached (s.connection? fd) :: s.history }

/-- `throttled_write` -/
def throttledWrite (si : Nat) (payload : Payload) : SendOutcome → Daemon
  | .full => s.record (.sent ((s.subscribers[si]?.bind Subscriber.fd).bind s.connection?) payload)
  | .short => s.detachClient si
  | .again => s
  | .failed => s.detachClient si

/-- `accept(msocks[i], (struct sockaddr *)&fsin, &alen)` of a connection from `port`. -/
def accept (port : UInt16) : Daemon :=
  { s with
    descriptors := s.descriptors.allocate (.client s.connections)
    fsin := port
    connections := s.connections + 1
    history := .accepted s.connections port :: s.history }

/-- Enter a connection into the slot that has been allocated for it. -/
def attachClient (si conn fd : Nat) : Daemon :=
  { s with
    subscribers := s.subscribers.set si ⟨some fd, true⟩
    history := .fdSet (some conn) fd :: s.history }

/-- `accept(csock, (struct sockaddr *)&fsin, &alen)` and what is done with `ssock`: it is set in
`all_fds` and in `control_fds`. -/
def acceptControl (port : UInt16) : Daemon :=
  { s with
    descriptors := s.descriptors.allocate .other
    -- the address goes to the buffer of the clients
    fsin := port
    history := .fdSet none s.descriptors.lowestFree :: .fdSet none s.descriptors.lowestFree ::
      s.history }

end Daemon

/-- `allocate_client`: the index of the slot, and the slots with it marked. -/
def allocateClient (subscribers : List Subscriber) : Option (Nat × List Subscriber) :=
  match subscribers.findIdx? (fun sub => sub.fd = none) with
  | none => none
  | some si => some (si, subscribers.modify si fun sub => { sub with fd := some 0 })

/-- The outcomes of the calls for a listening socket that is ready. -/
structure AcceptCall where
  /-- `accept`: the port of the peer, or -1. -/
  peer : Option UInt16
  requestDelay : Nat
  request : ReportOutcome
  /-- `setsockopt` succeeds. -/
  setsockopt : Bool
  announce : SendOutcome
  responceDelay : Nat
  responce : ReportOutcome
  deriving DecidableEq, Repr

/-- The branch for a connection that `accept` has returned: `ssock` and its `port`. -/
def Daemon.enterClient (s : Daemon) (call : AcceptCall) (conn ssock : Nat) (port : UInt16) : Daemon :=
  match allocateClient s.subscribers with
  -- no subscriber slots available
  | none => s.closeDescriptor ssock
  | some (si, subscribers) =>
      let s := { s with subscribers := subscribers }
      if call.setsockopt then
        let s := (s.attachClient si conn ssock).throttledWrite si .announce call.announce
        -- whatever the write has led to
        (s.clockGettime call.responceDelay).sendToServer .responce (some conn) port call.responce
      else
        -- the slot stays marked
        s.closeDescriptor ssock

/-- The body of `if (msocks[i] >= 0 && FD_ISSET(msocks[i], &rfds))`. -/
def Daemon.acceptClient (s : Daemon) (call : AcceptCall) : Daemon :=
  match call.peer with
  | none =>
      -- `fsin` still holds the address of an earlier peer
      (s.clockGettime call.requestDelay).sendToServer .request none s.fsin call.request
  | some peer =>
      let accepted := s.accept peer
      let requested := (accepted.clockGettime call.requestDelay).sendToServer .request
        (some s.connections) accepted.fsin call.request
      requested.enterClient call s.connections s.descriptors.lowestFree accepted.fsin

/-! ## The loop -/

inductive Action
  | accept (call : AcceptCall)
  /-- `accept(csock, &fsin, &alen)`: `port` is what it leaves in the bytes of `sin_port`. -/
  | acceptControl (port : UInt16)
  /-- Open a device, a listening socket. -/
  | openOther
  | closeOther (fd : Nat)
  /-- `throttled_write` to a subscriber of a device or in answer to a command. -/
  | write (si : Nat) (outcome : SendOutcome)
  /-- `detach_client`: the client has closed, sent a bad command or timed out. -/
  | detach (si : Nat)
  deriving DecidableEq, Repr

/-- `sub->active` is not 0. -/
def Daemon.isActive (s : Daemon) (si : Nat) : Bool :=
  (s.subscribers[si]?.map Subscriber.active).getD false

def mainStep (s : Daemon) : Action → Option Daemon
  | .accept call => some (s.acceptClient call)
  | .acceptControl port => some (s.acceptControl port)
  | .openOther => some (s.openDescriptor .other)
  | .closeOther fd =>
      if s.descriptors.lookup fd = some .other then
        some (s.closeDescriptor fd)
      else
        none
  -- the loops over the subscribers skip those with `active == 0`
  | .write si outcome =>
      if s.isActive si then
        some (s.throttledWrite si .other outcome)
      else
        none
  | .detach si =>
      if s.isActive si then
        some (s.detachClient si)
      else
        none

/-! ## What a ready listening socket leads to -/

/-- `socket` has returned a descriptor. -/
def ReportOutcome.opensSocket : ReportOutcome → Bool
  | .socketFails => false
  | _ => true

theorem allocateClient_eq_some {subscribers marked : List Subscriber} {si : Nat}
    (halloc : allocateClient subscribers = some (si, marked)) :
    (∃ sub, subscribers[si]? = some sub ∧ sub.fd = none) ∧
      marked = subscribers.modify si fun sub => { sub with fd := some 0 } := by
  unfold allocateClient at halloc
  cases hfind : subscribers.findIdx? (fun sub => sub.fd = none) with
  | none =>
      simp [hfind] at halloc
  | some i =>
      simp only [hfind, Option.some.injEq, Prod.mk.injEq] at halloc
      rcases halloc with ⟨rfl, rfl⟩
      rcases List.findIdx?_eq_some_iff_getElem.1 hfind with ⟨hlt, hfree, -⟩
      exact ⟨⟨subscribers[i], List.getElem?_eq_getElem hlt, by simpa using hfree⟩, rfl⟩

theorem allocateClient_isSome_iff {subscribers : List Subscriber} :
    (allocateClient subscribers).isSome = true ↔ ∃ sub ∈ subscribers, sub.fd = none := by
  unfold allocateClient
  cases hfind : subscribers.findIdx? (fun sub => sub.fd = none) with
  | none =>
      simpa using List.findIdx?_eq_none_iff.1 hfind
  | some i =>
      rcases List.findIdx?_eq_some_iff_getElem.1 hfind with ⟨hlt, hfree, -⟩
      simpa using ⟨subscribers[i], List.getElem_mem hlt, by simpa using hfree⟩

namespace Daemon

variable (s : Daemon)

theorem sendToServer_eq (type : ReportType) (conn : Option Nat) (port : UInt16)
    (outcome : ReportOutcome) :
    s.sendToServer type conn port outcome =
      { s with
        descriptors :=
          if outcome.opensSocket then s.descriptors.allocate .accounting else s.descriptors
        history := .reported type conn port s.clock :: s.history } := by
  cases outcome <;> rfl

@[simp]
theorem connections_sendToServer (type : ReportType) (conn : Option Nat) (port : UInt16)
    (outcome : ReportOutcome) :
    (s.sendToServer type conn port outcome).connections = s.connections := by
  rw [sendToServer_eq]

@[simp]
theorem connections_detachClient (si : Nat) :
    (s.detachClient si).connections = s.connections := by
  unfold detachClient
  split <;> rfl

@[simp]
theorem clock_detachClient (si : Nat) : (s.detachClient si).clock = s.clock := by
  unfold detachClient
  split <;> rfl

@[simp]
theorem connections_throttledWrite (si : Nat) (payload : Payload) (outcome : SendOutcome) :
    (s.throttledWrite si payload outcome).connections = s.connections := by
  cases outcome <;> simp [throttledWrite, record]

@[simp]
theorem clock_throttledWrite (si : Nat) (payload : Payload) (outcome : SendOutcome) :
    (s.throttledWrite si payload outcome).clock = s.clock := by
  cases outcome <;> simp [throttledWrite, record]

/-- The announcement is sent: `allocate_client` finds a slot and `setsockopt` succeeds. -/
def Attaches (call : AcceptCall) : Prop :=
  call.setsockopt = true ∧ ∃ sub ∈ s.subscribers, sub.fd = none

instance (call : AcceptCall) : Decidable (s.Attaches call) :=
  inferInstanceAs (Decidable (_ ∧ _))

/-- After the REQUEST for a connection from `peer`. -/
def requested (call : AcceptCall) (peer : UInt16) : Daemon :=
  ((s.accept peer).clockGettime call.requestDelay).sendToServer .request (some s.connections) peer
    call.request

/-- After the announcement to the client in slot `si`. -/
def announced (call : AcceptCall) (peer : UInt16) (si : Nat) (subscribers : List Subscriber) :
    Daemon :=
  ({ s.requested call peer with subscribers := subscribers }.attachClient si s.connections
    s.descriptors.lowestFree).throttledWrite si .announce call.announce

@[simp]
theorem connections_requested (call : AcceptCall) (peer : UInt16) :
    (s.requested call peer).connections = s.connections + 1 := by
  simp [requested, clockGettime, accept]

@[simp]
theorem connections_announced (call : AcceptCall) (peer : UInt16) (si : Nat)
    (subscribers : List Subscriber) :
    (s.announced call peer si subscribers).connections = s.connections + 1 := by
  simp [announced, attachClient]

@[simp]
theorem clock_announced (call : AcceptCall) (peer : UInt16) (si : Nat)
    (subscribers : List Subscriber) :
    (s.announced call peer si subscribers).clock = s.clock + call.requestDelay := by
  simp [announced, attachClient, requested, sendToServer_eq, clockGettime, accept]

/-- The three ways through the body of the loop. -/
theorem acceptClient_cases (call : AcceptCall) :
    (call.peer = none ∧ s.acceptClient call =
      (s.clockGettime call.requestDelay).sendToServer .request none s.fsin call.request) ∨
    (∃ peer subscribers, call.peer = some peer ∧ ¬ s.Attaches call ∧
      (subscribers = s.subscribers ∨ ∃ si, allocateClient s.subscribers = some (si, subscribers)) ∧
      s.acceptClient call = { (s.requested call peer).closeDescriptor s.descriptors.lowestFree with
        subscribers := subscribers }) ∨
    (∃ peer si subscribers, call.peer = some peer ∧ s.Attaches call ∧
      allocateClient s.subscribers = some (si, subscribers) ∧
      s.acceptClient call =
        ((s.announced call peer si subscribers).clockGettime call.responceDelay).sendToServer
          .responce (some s.connections) peer call.responce) := by
  cases hpeer : call.peer with
  | none =>
      exact .inl ⟨rfl, by simp only [acceptClient, hpeer]⟩
  | some peer =>
      have haccept : s.acceptClient call = (s.requested call peer).enterClient call s.connections
          s.descriptors.lowestFree peer := by
        simp only [acceptClient, hpeer]
        rfl
      have hslots : (s.requested call peer).subscribers = s.subscribers := by
        rw [requested, sendToServer_eq]
        rfl
      -- `send_to_server` leaves the slots alone, so the search is the one in `s`
      rw [haccept, enterClient, hslots]
      cases halloc : allocateClient s.subscribers with
      | none =>
          refine .inr (.inl ⟨peer, s.subscribers, rfl, fun hattach => ?_, .inl rfl, ?_⟩)
          · simpa [halloc] using allocateClient_isSome_iff.2 hattach.2
          · rw [← hslots]
            rfl
      | some slot =>
          rcases slot with ⟨si, subscribers⟩
          have hfree : ∃ sub ∈ s.subscribers, sub.fd = none :=
            allocateClient_isSome_iff.1 (by rw [halloc]; rfl)
          by_cases hopt : call.setsockopt = true
          · refine .inr (.inr ⟨peer, si, subscribers, rfl, ⟨hopt, hfree⟩, rfl, ?_⟩)
            simp only [hopt, if_true, announced]
          · refine .inr (.inl ⟨peer, subscribers, rfl, fun hattach => hopt hattach.1,
              .inr ⟨si, rfl⟩, ?_⟩)
            simp only [hopt]
            rfl

/-- What the announcement adds to the history. -/
def announceEvents (conn : Nat) : SendOutcome → List Event
  | .full => [.sent (some conn) .announce]
  | .short => [.detached (some conn)]
  | .again => []
  | .failed => [.detached (some conn)]

theorem history_throttledWrite {s : Daemon} {si conn : Nat} (fd : Nat)
    (hslot : s.subscribers[si]?.bind Subscriber.fd = some fd)
    (hconn : s.connection? fd = some conn) (outcome : SendOutcome) :
    (s.throttledWrite si .announce outcome).history = announceEvents conn outcome ++ s.history := by
  cases outcome <;>
    simp [throttledWrite, detachClient, announceEvents, record, hslot, hconn]

theorem history_requested (call : AcceptCall) (peer : UInt16) :
    (s.requested call peer).history =
      .reported .request (some s.connections) peer (s.clock + call.requestDelay) ::
        .accepted s.connections peer :: s.history := by
  rw [requested, sendToServer_eq]
  rfl

theorem lookup_requested (call : AcceptCall) (peer : UInt16) :
    (s.requested call peer).descriptors.lookup s.descriptors.lowestFree =
      some (.client s.connections) := by
  have haccept : (s.accept peer).descriptors.lookup s.descriptors.lowestFree =
      some (.client s.connections) := Table.lookup_allocate _
  rw [requested, sendToServer_eq]
  by_cases hopen : call.request.opensSocket = true
  · simp only [hopen, if_true]
    exact Table.lookup_allocate_of_lookup _ haccept
  · simp only [hopen]
    exact haccept

/-- The slot that has been allocated takes the connection, and the announcement goes to it. -/
theorem history_announced {s : Daemon} {call : AcceptCall} {peer : UInt16} {si : Nat}
    {subscribers : List Subscriber}
    (halloc : allocateClient s.subscribers = some (si, subscribers)) :
    (s.announced call peer si subscribers).history =
      announceEvents s.connections call.announce ++
        .fdSet (some s.connections) s.descriptors.lowestFree :: (s.requested call peer).history := by
  rcases allocateClient_eq_some halloc with ⟨⟨sub, hsub, -⟩, rfl⟩
  have hlt : si < s.subscribers.length := (List.getElem?_eq_some_iff.1 hsub).1
  -- the socket of the REQUEST has another descriptor
  refine history_throttledWrite s.descriptors.lowestFree ?_ ?_ call.announce
  · simp [attachClient, hlt]
  · simp [connection?, attachClient, lookup_requested]

end Daemon

end Gpsd
end ResourceAccounting
