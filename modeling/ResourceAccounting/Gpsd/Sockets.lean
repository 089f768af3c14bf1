import ResourceAccounting.Gpsd.MainLoop

/-!
# Sockets — the sockets of send_to_server

`send_to_server` prints that it closes its socket, and does not.  Every report whose `socket` call
succeeds leaves a descriptor behind, two for an ordinary client, and the descriptors that `accept`
returns grow past `FD_SETSIZE`, where `FD_SET` writes outside the set.

- `SlotsOwn` — an active slot holds the descriptor of a connection, and no other slot holds it;
- `closed_step` — the sockets and the clients are in balance after a step exactly when they were
  before and the step opened no socket;
- `Contained` — what should hold in every state, and `contained_iff` — when it does.
-/

namespace ResourceAccounting
namespace Gpsd

open Descriptors Schedules

/-! ## The slots and the descriptors -/

/-- Slot `si` is active and holds `sub`. -/
def ActiveAt (subscribers : List Subscriber) (si : Nat) (sub : Subscriber) : Prop :=
  subscribers[si]? = some sub ∧ sub.active = true

/-- Every active slot holds the descriptor of a connection, and no two hold the same. -/
structure SlotsOwn (t : Table Owner) (subscribers : List Subscriber) : Prop where
  owned : ∀ si sub, ActiveAt subscribers si sub →
    ∃ fd conn, sub.fd = some fd ∧ t.lookup fd = some (.client conn)
  distinct : ∀ si sj sub sub', ActiveAt subscribers si sub → ActiveAt subscribers sj sub' →
    sub.fd = sub'.fd → si = sj

section Set

variable {subscribers : List Subscriber} {si sj : Nat} {sub sub' : Subscriber}

theorem activeAt_set (h : ActiveAt (subscribers.set si sub) sj sub') :
    (sj = si ∧ sub' = sub) ∨ (sj ≠ si ∧ ActiveAt subscribers sj sub') := by
  rcases h with ⟨hsub', hactive⟩
  by_cases hsj : si = sj
  · rw [List.getElem?_set, if_pos hsj] at hsub'
    split at hsub' <;> cases hsub'
    exact .inl ⟨hsj.symm, rfl⟩
  · refine .inr ⟨fun heq => hsj heq.symm, ?_, hactive⟩
    simpa [List.getElem?_set, hsj] using hsub'

end Set

namespace SlotsOwn

variable {t : Table Owner} {subscribers : List Subscriber}

theorem allocate (h : SlotsOwn t subscribers) (o : Owner) : SlotsOwn (t.allocate o) subscribers where
  owned := by
    intro si sub hsub
    rcases h.owned si sub hsub with ⟨fd, conn, hfd, hlookup⟩
    exact ⟨fd, conn, hfd, Table.lookup_allocate_of_lookup o hlookup⟩
  distinct := h.distinct

/-- Slots that are active now were so before. -/
theorem of_active (h : SlotsOwn t subscribers) {slots : List Subscriber}
    (hslots : ∀ si sub, ActiveAt slots si sub → ActiveAt subscribers si sub) : SlotsOwn t slots where
  owned := fun si sub hsub => h.owned si sub (hslots si sub hsub)
  distinct := fun si sj sub sub' hsub hsub' =>
    h.distinct si sj sub sub' (hslots si sub hsub) (hslots sj sub' hsub')

/-- `allocate_client` marks a slot that is not active. -/
theorem marked (h : SlotsOwn t subscribers) {si : Nat} {slots : List Subscriber}
    (halloc : allocateClient subscribers = some (si, slots)) : SlotsOwn t slots := by
  rcases allocateClient_eq_some halloc with ⟨⟨sub, hsub, hfree⟩, rfl⟩
  refine h.of_active fun sj sub' hsub' => ?_
  rcases hsub' with ⟨hsub', hactive⟩
  by_cases hsj : si = sj
  · subst hsj
    have hsub'' : sub' = { sub with fd := some 0 } := by
      simpa [List.getElem?_modify, hsub] using hsub'.symm
    -- an active slot has a descriptor
    rw [hsub''] at hactive
    rcases h.owned si sub ⟨hsub, hactive⟩ with ⟨fd, -, hfd, -⟩
    simp [hfree] at hfd
  · exact ⟨by simpa [List.getElem?_modify, hsj] using hsub', hactive⟩

/-- Closing a descriptor that no active slot holds. -/
theorem close (h : SlotsOwn t subscribers) {fd : Nat}
    (hfree : ∀ si sub, ActiveAt subscribers si sub → sub.fd ≠ some fd) :
    SlotsOwn (t.close fd) subscribers where
  owned := by
    intro si sub hsub
    rcases h.owned si sub hsub with ⟨fd', conn, hfd', hlookup⟩
    have hne : fd' ≠ fd := by
      rintro rfl
      exact hfree si sub hsub hfd'
    exact ⟨fd', conn, hfd', Table.lookup_close_of_lookup hne hlookup⟩
  distinct := h.distinct

/-- The next descriptor is in no active slot. -/
theorem ne_lowestFree (h : SlotsOwn t subscribers) {si : Nat} {sub : Subscriber}
    (hsub : ActiveAt subscribers si sub) : sub.fd ≠ some t.lowestFree := by
  intro hfd
  rcases h.owned si sub hsub with ⟨fd, conn, hfd', hlookup⟩
  cases hfd'.symm.trans hfd
  exact Table.ne_lowestFree hlookup rfl

/-- `detach_client` of an active slot. -/
theorem detach (h : SlotsOwn t subscribers) {si fd : Nat} {sub : Subscriber}
    (hsub : ActiveAt subscribers si sub) (hfd : sub.fd = some fd) :
    SlotsOwn (t.close fd) (subscribers.set si ⟨none, false⟩) := by
  have hslots : ∀ sj sub', ActiveAt (subscribers.set si ⟨none, false⟩) sj sub' →
      sj ≠ si ∧ ActiveAt subscribers sj sub' := by
    intro sj sub' hsub'
    rcases activeAt_set hsub' with ⟨-, rfl⟩ | hsub'
    · cases hsub'.2
    · exact hsub'
  refine (h.of_active fun sj sub' hsub' => (hslots sj sub' hsub').2).close ?_
  intro sj sub' hsub' hfd'
  rcases hslots sj sub' hsub' with ⟨hne, hsj⟩
  exact hne (h.distinct sj si sub' sub hsj hsub (hfd'.trans hfd.symm))

/-- A slot takes the descriptor of a connection. -/
theorem attach (h : SlotsOwn t subscribers) (si : Nat) {fd conn : Nat}
    (hlookup : t.lookup fd = some (.client conn))
    (hfree : ∀ sj sub, ActiveAt subscribers sj sub → sub.fd ≠ some fd) :
    SlotsOwn t (subscribers.set si ⟨some fd, true⟩) where
  owned := by
    intro sj sub hsub
    rcases activeAt_set hsub with ⟨-, rfl⟩ | ⟨-, hsub⟩
    · exact ⟨fd, conn, rfl, hlookup⟩
    · exact h.owned sj sub hsub
  distinct := by
    intro sj sk sub sub' hsub hsub' heq
    rcases activeAt_set hsub with ⟨hsj, rfl⟩ | ⟨-, hsub⟩ <;>
      rcases activeAt_set hsub' with ⟨hsk, rfl⟩ | ⟨-, hsub'⟩
    · exact hsj.trans hsk.symm
    · exact absurd heq.symm (hfree sk sub' hsub')
    · exact absurd heq (hfree sj sub hsub)
    · exact h.distinct sj sk sub sub' hsub hsub' heq

end SlotsOwn

/-! ## What should hold -/

def Owner.isAccounting : Owner → Bool
  | .accounting => true
  | _ => false

namespace Daemon

variable (s : Daemon)

/-- The descriptors that `send_to_server` has opened and that are still open. -/
def openSockets : Nat :=
  s.descriptors.count Owner.isAccounting

/-- The descriptors of clients, devices, listening sockets and the like. -/
def live : Nat :=
  s.descriptors.count (fun o => !o.isAccounting)

end Daemon

/-- `FD_SET` has been called for descriptors that fit into the set only. -/
def InRange (history : List Event) : Prop :=
  ∀ conn fd, .fdSet conn fd ∈ history → fd < fdSetSize

structure Contained (s : Daemon) : Prop where
  closed : s.openSockets = 0
  /-- The descriptor that the next `accept` returns. -/
  bounded : s.descriptors.lowestFree ≤ s.live
  inRange : InRange s.history

/-- `send_to_server` gets no socket, and a client is entered, and a control connection accepted, only
while a descriptor below `FD_SETSIZE` is free. -/
def Quiet (s : Daemon) : Action → Prop
  | .accept call =>
      call.request.opensSocket = false ∧ (call.peer ≠ none → s.Attaches call →
        call.responce.opensSocket = false ∧ ∃ fd < fdSetSize, fd ∉ s.descriptors)
  | .acceptControl _ => ∃ fd < fdSetSize, fd ∉ s.descriptors
  | _ => True

/-- The bound follows, once no socket is left open. -/
theorem contained_iff_closed {s : Daemon} :
    Contained s ↔ s.openSockets = 0 ∧ InRange s.history := by
  constructor
  · intro h
    exact ⟨h.closed, h.inRange⟩
  · rintro ⟨hclosed, hrange⟩
    refine ⟨hclosed, ?_, hrange⟩
    calc
      s.descriptors.lowestFree ≤ s.descriptors.entries.length := s.descriptors.lowestFree_le_length
      _ = s.openSockets + s.live := (s.descriptors.count_add_count_not Owner.isAccounting).symm
      _ = s.live := by rw [hclosed, Nat.zero_add]

/-! ## What a step opens -/

/-- The sockets that a call of `send_to_server` leaves open. -/
def ReportOutcome.sockets (outcome : ReportOutcome) : Nat :=
  if outcome.opensSocket then 1 else 0

namespace Daemon

variable {s : Daemon}

def OwnsSlots (s : Daemon) : Prop :=
  SlotsOwn s.descriptors s.subscribers

theorem ownsSlots_sendToServer (h : s.OwnsSlots) (type : ReportType) (conn : Option Nat)
    (port : UInt16) (outcome : ReportOutcome) :
    (s.sendToServer type conn port outcome).OwnsSlots := by
  rw [sendToServer_eq]
  by_cases hopen : outcome.opensSocket = true
  · simp only [hopen, if_true]
    exact SlotsOwn.allocate h .accounting
  · simp only [hopen]
    exact h

theorem openSockets_sendToServer (type : ReportType) (conn : Option Nat) (port : UInt16)
    (outcome : ReportOutcome) :
    (s.sendToServer type conn port outcome).openSockets = s.openSockets + outcome.sockets := by
  rw [sendToServer_eq, ReportOutcome.sockets]
  by_cases hopen : outcome.opensSocket = true
  · simp only [hopen, if_true]
    exact Table.count_allocate _ _
  · simp only [hopen]
    rfl

theorem isActive_eq_true {si : Nat} (hactive : s.isActive si = true) :
    ∃ sub, ActiveAt s.subscribers si sub := by
  unfold isActive at hactive
  cases hsub : s.subscribers[si]? with
  | none =>
      simp [hsub] at hactive
  | some sub =>
      exact ⟨sub, hsub, by simpa [hsub] using hactive⟩

/-- `detach_client` of an active slot closes the descriptor of a connection. -/
theorem detachClient_spec (h : s.OwnsSlots) {si : Nat} {sub : Subscriber}
    (hsub : ActiveAt s.subscribers si sub) :
    (s.detachClient si).OwnsSlots ∧ (s.detachClient si).openSockets = s.openSockets := by
  rcases h.owned si sub hsub with ⟨fd, conn, hfd, hlookup⟩
  -- so `close` takes away a connection and no accounting socket
  have hslot : s.subscribers[si]?.bind Subscriber.fd = some fd := by
    rw [hsub.1]
    exact hfd
  simp only [detachClient, hslot]
  exact ⟨SlotsOwn.detach h hsub hfd, Table.count_close Owner.isAccounting hlookup⟩

theorem throttledWrite_spec (h : s.OwnsSlots) {si : Nat} {sub : Subscriber}
    (hsub : ActiveAt s.subscribers si sub) (payload : Payload) (outcome : SendOutcome) :
    (s.throttledWrite si payload outcome).OwnsSlots ∧
      (s.throttledWrite si payload outcome).openSockets = s.openSockets := by
  cases outcome with
  | full => exact ⟨h, rfl⟩
  | short => exact detachClient_spec h hsub
  | again => exact ⟨h, rfl⟩
  | failed => exact detachClient_spec h hsub

theorem slotsOwn_requested {slots : List Subscriber} (h : SlotsOwn s.descriptors slots)
    (call : AcceptCall) (peer : UInt16) : SlotsOwn (s.requested call peer).descriptors slots := by
  have haccept : SlotsOwn (s.accept peer).descriptors slots := h.allocate _
  rw [requested, sendToServer_eq]
  by_cases hopen : call.request.opensSocket = true
  · simp only [hopen, if_true]
    exact haccept.allocate .accounting
  · simp only [hopen]
    exact haccept

theorem openSockets_requested (call : AcceptCall) (peer : UInt16) :
    (s.requested call peer).openSockets = s.openSockets + call.request.sockets := by
  have haccept : (s.accept peer).openSockets = s.openSockets :=
    Table.count_allocate Owner.isAccounting _
  rw [requested, openSockets_sendToServer]
  exact congrArg (· + call.request.sockets) haccept

/-- The connection is closed again: no slot holds its descriptor. -/
theorem dropped_spec {slots : List Subscriber} (h : SlotsOwn s.descriptors slots)
    (call : AcceptCall) (peer : UInt16) :
    SlotsOwn ((s.requested call peer).descriptors.close s.descriptors.lowestFree) slots ∧
      ((s.requested call peer).closeDescriptor s.descriptors.lowestFree).openSockets =
        s.openSockets + call.request.sockets := by
  refine ⟨(slotsOwn_requested h call peer).close fun _ _ hsub => h.ne_lowestFree hsub, ?_⟩
  rw [← openSockets_requested call peer]
  exact Table.count_close Owner.isAccounting (s.lookup_requested call peer)

/-- The connection goes into its slot, and the announcement leaves it there or detaches it. -/
theorem announced_spec (h : s.OwnsSlots) (call : AcceptCall) (peer : UInt16) {si : Nat}
    {slots : List Subscriber} (halloc : allocateClient s.subscribers = some (si, slots)) :
    (s.announced call peer si slots).OwnsSlots ∧
      (s.announced call peer si slots).openSockets = s.openSockets + call.request.sockets := by
  have hmarked : SlotsOwn s.descriptors slots := SlotsOwn.marked h halloc
  have hattached : (({ s.requested call peer with subscribers := slots } : Daemon).attachClient si
      s.connections s.descriptors.lowestFree).OwnsSlots :=
    (slotsOwn_requested hmarked call peer).attach si (s.lookup_requested call peer)
      fun _ _ hsub => hmarked.ne_lowestFree hsub
  have hactive : ActiveAt (slots.set si ⟨some s.descriptors.lowestFree, true⟩) si
      ⟨some s.descriptors.lowestFree, true⟩ := by
    rcases allocateClient_eq_some halloc with ⟨⟨sub, hsub, -⟩, rfl⟩
    have hlt : si < s.subscribers.length := (List.getElem?_eq_some_iff.1 hsub).1
    exact ⟨by simp [hlt], rfl⟩
  rw [← openSockets_requested call peer]
  exact throttledWrite_spec hattached hactive .announce call.announce

/-! ## Steps -/

theorem ownsSlots_acceptClient (h : s.OwnsSlots) (call : AcceptCall) :
    (s.acceptClient call).OwnsSlots := by
  rcases s.acceptClient_cases call with ⟨-, heq⟩ | ⟨peer, slots, -, -, hslots, heq⟩ |
    ⟨peer, si, slots, -, -, halloc, heq⟩
  · rw [heq]
    exact ownsSlots_sendToServer (s := s.clockGettime call.requestDelay) h _ _ _ _
  · have hown : SlotsOwn s.descriptors slots := by
      rcases hslots with rfl | ⟨si, halloc⟩
      · exact h
      · exact SlotsOwn.marked h halloc
    rw [heq]
    exact (dropped_spec hown call peer).1
  · rw [heq]
    exact ownsSlots_sendToServer
      (s := (s.announced call peer si slots).clockGettime call.responceDelay)
      (announced_spec h call peer halloc).1 _ _ _ _

theorem ownsSlots_step {s' : Daemon} (h : s.OwnsSlots) {act : Action}
    (hstep : mainStep s act = some s') : s'.OwnsSlots := by
  cases act with
  | accept call =>
      cases hstep
      exact ownsSlots_acceptClient h call
  | acceptControl port =>
      cases hstep
      exact SlotsOwn.allocate h .other
  | openOther =>
      cases hstep
      exact SlotsOwn.allocate h .other
  | closeOther fd =>
      rcases Option.ite_none_right_eq_some.1 hstep with ⟨hother, heq⟩
      cases heq
      refine SlotsOwn.close h fun si sub hsub hfd => ?_
      -- the descriptor of an active slot is a connection
      rcases h.owned si sub hsub with ⟨fd', conn, hfd', hlookup⟩
      cases hfd'.symm.trans hfd
      cases hlookup.symm.trans hother
  | write si outcome =>
      rcases Option.ite_none_right_eq_some.1 hstep with ⟨hactive, heq⟩
      cases heq
      rcases isActive_eq_true hactive with ⟨sub, hsub⟩
      exact (throttledWrite_spec h hsub .other outcome).1
  | detach si =>
      rcases Option.ite_none_right_eq_some.1 hstep with ⟨hactive, heq⟩
      cases heq
      rcases isActive_eq_true hactive with ⟨sub, hsub⟩
      exact (detachClient_spec h hsub).1

end Daemon

theorem sockets_eq_zero_iff {outcome : ReportOutcome} :
    outcome.sockets = 0 ↔ outcome.opensSocket = false := by
  cases outcome <;> decide

theorem inRange_cons {e : Event} {history : List Event} (he : ∀ conn fd, e ≠ .fdSet conn fd) :
    InRange (e :: history) ↔ InRange history := by
  refine forall_congr' fun conn => forall_congr' fun fd => imp_congr ?_ Iff.rfl
  exact List.mem_cons.trans (or_iff_right fun heq => he conn fd heq.symm)

theorem inRange_announceEvents {conn : Nat} {outcome : SendOutcome} {history : List Event} :
    InRange (Daemon.announceEvents conn outcome ++ history) ↔ InRange history := by
  cases outcome with
  | full => exact inRange_cons (by simp)
  | short => exact inRange_cons (by simp)
  | again => exact Iff.rfl
  | failed => exact inRange_cons (by simp)

theorem inRange_fdSet {conn : Option Nat} {fd : Nat} {history : List Event} :
    InRange (.fdSet conn fd :: history) ↔ fd < fdSetSize ∧ InRange history := by
  constructor
  · intro h
    exact ⟨h conn fd List.mem_cons_self, fun c fd' hmem => h c fd' (List.mem_cons_of_mem _ hmem)⟩
  · rintro ⟨hfd, h⟩ c fd' hmem
    rcases List.mem_cons.1 hmem with heq | hmem
    · cases heq
      exact hfd
    · exact h c fd' hmem

namespace Daemon

variable {s : Daemon}

theorem inRange_detachClient (si : Nat) :
    InRange (s.detachClient si).history ↔ InRange s.history := by
  unfold detachClient
  split
  · exact Iff.rfl
  · exact inRange_cons (by simp)

theorem inRange_throttledWrite (si : Nat) (payload : Payload) (outcome : SendOutcome) :
    InRange (s.throttledWrite si payload outcome).history ↔ InRange s.history := by
  cases outcome with
  | full => exact inRange_cons (by simp)
  | short => exact inRange_detachClient si
  | again => exact Iff.rfl
  | failed => exact inRange_detachClient si

theorem inRange_acceptControl (port : UInt16) :
    InRange (s.acceptControl port).history ↔
      (∃ fd < fdSetSize, fd ∉ s.descriptors) ∧ InRange s.history := by
  rw [acceptControl, inRange_fdSet, inRange_fdSet, Table.lowestFree_lt_iff]
  exact and_self_left

theorem inRange_requested (call : AcceptCall) (peer : UInt16) :
    InRange (s.requested call peer).history ↔ InRange s.history := by
  rw [history_requested, inRange_cons (by simp), inRange_cons (by simp)]

theorem inRange_announced (call : AcceptCall) (peer : UInt16) {si : Nat}
    {slots : List Subscriber} (halloc : allocateClient s.subscribers = some (si, slots)) :
    InRange (s.announced call peer si slots).history ↔
      (∃ fd < fdSetSize, fd ∉ s.descriptors) ∧ InRange s.history := by
  rw [history_announced halloc, inRange_announceEvents, inRange_fdSet, inRange_requested,
    Table.lowestFree_lt_iff]

/-- A ready listening socket keeps the demand exactly when it is quiet. -/
theorem closed_acceptClient (h : s.OwnsSlots) (call : AcceptCall) :
    ((s.acceptClient call).openSockets = 0 ∧ InRange (s.acceptClient call).history) ↔
      (s.openSockets = 0 ∧ InRange s.history) ∧ Quiet s (.accept call) := by
  rcases s.acceptClient_cases call with ⟨hpeer, heq⟩ | ⟨peer, slots, hpeer, hattach, hslots, heq⟩ |
    ⟨peer, si, slots, hpeer, hattach, halloc, heq⟩
  · -- one report, for a connection that could not be accepted
    have hquiet : Quiet s (.accept call) ↔ call.request.sockets = 0 := by
      simp [Quiet, hpeer, sockets_eq_zero_iff]
    have hopen : (s.acceptClient call).openSockets = s.openSockets + call.request.sockets := by
      rw [heq]
      exact openSockets_sendToServer _ _ _ _
    have hrange : InRange (s.acceptClient call).history ↔ InRange s.history := by
      rw [heq, sendToServer_eq]
      exact inRange_cons (by simp)
    rw [hquiet, hopen, hrange, Nat.add_eq_zero_iff]
    exact and_right_comm
  · -- one report, and the connection is closed again
    have hquiet : Quiet s (.accept call) ↔ call.request.sockets = 0 := by
      simp [Quiet, hattach, sockets_eq_zero_iff]
    have hown : SlotsOwn s.descriptors slots := by
      rcases hslots with rfl | ⟨si, halloc⟩
      · exact h
      · exact SlotsOwn.marked h halloc
    have hopen : (s.acceptClient call).openSockets = s.openSockets + call.request.sockets := by
      rw [heq]
      exact (dropped_spec hown call peer).2
    have hrange : InRange (s.acceptClient call).history ↔ InRange s.history := by
      rw [heq]
      exact inRange_requested call peer
    rw [hquiet, hopen, hrange, Nat.add_eq_zero_iff]
    exact and_right_comm
  · -- two reports and one `FD_SET`
    have hquiet : Quiet s (.accept call) ↔ call.request.sockets = 0 ∧
        call.responce.sockets = 0 ∧ ∃ fd < fdSetSize, fd ∉ s.descriptors := by
      simp [Quiet, hpeer, hattach, sockets_eq_zero_iff]
    have hopen : (s.acceptClient call).openSockets =
        s.openSockets + call.request.sockets + call.responce.sockets := by
      rw [heq, openSockets_sendToServer]
      exact congrArg (· + call.responce.sockets) (announced_spec h call peer halloc).2
    have hrange : InRange (s.acceptClient call).history ↔
        (∃ fd < fdSetSize, fd ∉ s.descriptors) ∧ InRange s.history := by
      rw [heq, sendToServer_eq, ← inRange_announced call peer halloc]
      exact inRange_cons (by simp)
    rw [hquiet, hopen, hrange, Nat.add_eq_zero_iff, Nat.add_eq_zero_iff]
    tauto

theorem closed_step {s' : Daemon} (h : s.OwnsSlots) {act : Action}
    (hstep : mainStep s act = some s') :
    (s'.openSockets = 0 ∧ InRange s'.history) ↔
      (s.openSockets = 0 ∧ InRange s.history) ∧ Quiet s act := by
  have hother : (s.openDescriptor .other).openSockets = s.openSockets :=
    Table.count_allocate Owner.isAccounting _
  cases act with
  | accept call =>
      cases hstep
      exact closed_acceptClient h call
  | acceptControl port =>
      cases hstep
      have hsockets : (s.acceptControl port).openSockets = s.openSockets := hother
      rw [hsockets, inRange_acceptControl]
      exact and_left_comm.trans and_comm
  | openOther =>
      cases hstep
      exact (and_congr_left fun _ => by rw [hother]).trans (and_iff_left trivial).symm
  | closeOther fd =>
      rcases Option.ite_none_right_eq_some.1 hstep with ⟨hlookup, heq⟩
      cases heq
      have hclose : (s.closeDescriptor fd).openSockets = s.openSockets :=
        Table.count_close Owner.isAccounting hlookup
      exact (and_congr_left fun _ => by rw [hclose]).trans (and_iff_left trivial).symm
  | write si outcome =>
      rcases Option.ite_none_right_eq_some.1 hstep with ⟨hactive, heq⟩
      cases heq
      rcases isActive_eq_true hactive with ⟨sub, hsub⟩
      rw [(throttledWrite_spec h hsub .other outcome).2, inRange_throttledWrite]
      exact (and_iff_left trivial).symm
  | detach si =>
      rcases Option.ite_none_right_eq_some.1 hstep with ⟨hactive, heq⟩
      cases heq
      rcases isActive_eq_true hactive with ⟨sub, hsub⟩
      rw [(detachClient_spec h hsub).2, inRange_detachClient]
      exact (and_iff_left trivial).symm

end Daemon

/-! ## Runs -/

theorem ownsSlots_init (maxSubscribers : Nat) : (Daemon.init maxSubscribers).OwnsSlots := by
  have hnone : ∀ si sub, ¬ ActiveAt (Daemon.init maxSubscribers).subscribers si sub := by
    rintro si sub ⟨hsub, hactive⟩
    rw [List.eq_of_mem_replicate (List.mem_of_getElem? hsub)] at hactive
    cases hactive
  exact ⟨fun si sub hsub => absurd hsub (hnone si sub),
    fun si sj sub sub' hsub => absurd hsub (hnone si sub)⟩

/-- In every run the descriptors stay within their bounds if and only if `send_to_server` never gets
a socket, and no client is entered and no control connection accepted while all descriptors below
`FD_SETSIZE` are in use. -/
theorem contained_iff {maxSubscribers : Nat} {acts : List Action} {s : Daemon}
    (hrun : exec mainStep (Daemon.init maxSubscribers) acts = some s) :
    Contained s ↔ Respects mainStep Quiet (Daemon.init maxSubscribers) acts := by
  have hclosed := iff_respects_of_exec (C := Quiet) (I := Daemon.OwnsSlots)
    (P := fun s => s.openSockets = 0 ∧ InRange s.history)
    (fun _ _ _ h hstep => ⟨Daemon.ownsSlots_step h hstep, Daemon.closed_step h hstep⟩)
    (ownsSlots_init maxSubscribers) hrun
  have hinit : (Daemon.init maxSubscribers).openSockets = 0 ∧
      InRange (Daemon.init maxSubscribers).history :=
    ⟨rfl, fun _ _ hmem => absurd hmem List.not_mem_nil⟩
  calc
    Contained s ↔ s.openSockets = 0 ∧ InRange s.history := contained_iff_closed
    _ ↔ Respects mainStep Quiet (Daemon.init maxSubscribers) acts := by
      rw [hclosed]
      exact and_iff_right hinit

/-- A client comes and goes while no socket can be had. -/
theorem contained_iff_client : ∃ s, exec mainStep (Daemon.init 1024)
    [.openOther, .accept ⟨some 40123, 5, .socketFails, true, .full, 7, .socketFails⟩,
      .detach 0] = some s ∧ Contained s := by
  refine ⟨_, rfl, (@contained_iff 1024
    [.openOther, .accept ⟨some 40123, 5, .socketFails, true, .full, 7, .socketFails⟩,
      .detach 0] _ rfl).2 ?_⟩
  refine (respects_cons rfl).2 ⟨trivial, (respects_cons rfl).2 ⟨⟨rfl, fun _ _ => ?_⟩, ?_⟩⟩
  · exact ⟨rfl, 1, by decide, by decide⟩
  · exact (respects_cons rfl).2 ⟨trivial, trivial⟩

/-- An ordinary client comes and goes, and two sockets stay open. -/
theorem exists_not_contained : ¬ ∀ (maxSubscribers : Nat) (acts : List Action) (s : Daemon),
    exec mainStep (Daemon.init maxSubscribers) acts = some s → Contained s := by
  intro h
  have hclosed := (h 1024 [.openOther,
    .accept ⟨some 40123, 5, .written, true, .full, 7, .written⟩, .detach 0] _ rfl).closed
  revert hclosed
  decide

end Gpsd
end ResourceAccounting
