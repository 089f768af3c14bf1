import ResourceAccounting.Gpsd.MainLoop
import ResourceAccounting.Schedules.Exec

/-!
# Reports — the REQUEST and RESPONCE reports of gpsd

The accounting server pairs the reports up by their port, so each connection should have one
REQUEST, and a RESPONCE only once its client has been told.

- `ReportJustified` — what must have happened before a report;
- `PairsUp` — the demand on the whole history;
- `Answered` — the steps that keep it: `accept` succeeds, and an announcement that is sent is taken
  whole;
- `pairsUp_iff` — the reports pair up in a run exactly when its steps are of this kind.
-/

namespace ResourceAccounting
namespace Gpsd

open Descriptors Schedules

/-! ## The demand -/

/-- What must have happened before an event. -/
def ReportJustified (past : List Event) : Event → Prop
  | .reported .request conn port _ =>
      ∃ c, conn = some c ∧ .accepted c port ∈ past ∧
        ∀ port' time', .reported .request (some c) port' time' ∉ past
  | .reported .responce conn port time =>
      ∃ c, conn = some c ∧ (∃ time' ≤ time, .reported .request (some c) port time' ∈ past) ∧
        .sent (some c) .announce ∈ past ∧ .detached (some c) ∉ past ∧
        ∀ port' time', .reported .responce (some c) port' time' ∉ past
  | _ => True

/-- Every report is justified, and every accepted connection has its REQUEST. -/
def PairsUp (history : List Event) : Prop :=
  (∀ e past, e :: past <:+ history → ReportJustified past e) ∧
    ∀ conn port, .accepted conn port ∈ history →
      ∃ time, .reported .request (some conn) port time ∈ history

/-- `accept` returns a connection, and the announcement, if it is sent, is taken whole. -/
def Answered (s : Daemon) : Action → Prop
  | .accept call => call.peer ≠ none ∧ (s.Attaches call → call.announce = .full)
  | _ => True

instance (s : Daemon) : ∀ act, Decidable (Answered s act)
  | .accept _ => inferInstanceAs (Decidable (_ ∧ (_ → _)))
  | .acceptControl _ => isTrue trivial
  | .openOther => isTrue trivial
  | .closeOther _ => isTrue trivial
  | .write _ _ => isTrue trivial
  | .detach _ => isTrue trivial

/-! ## What holds in every state -/

/-- The connection that an event speaks of. -/
def Event.conn? : Event → Option Nat
  | .accepted conn _ => some conn
  | .reported _ conn _ _ => conn
  | .fdSet conn _ => conn
  | .sent conn _ => conn
  | .detached conn => conn

/-- Only connections numbered below `n` occur, and each that has been accepted has its REQUEST. -/
structure Tracked (t : Table Owner) (n : Nat) (history : List Event) : Prop where
  events : ∀ e ∈ history, ∀ conn, e.conn? = some conn → conn < n
  owners : ∀ fd conn, t.lookup fd = some (.client conn) → conn < n
  requested : ∀ conn port, .accepted conn port ∈ history →
    ∃ time, .reported .request (some conn) port time ∈ history

namespace Tracked

variable {t : Table Owner} {n : Nat} {history : List Event}

theorem cons (h : Tracked t n history) {e : Event} (he : ∀ conn, e.conn? = some conn → conn < n)
    (hne : ∀ conn port, e ≠ .accepted conn port) : Tracked t n (e :: history) where
  events := by
    intro e' he' conn hconn
    rcases List.mem_cons.1 he' with rfl | he'
    · exact he conn hconn
    · exact h.events e' he' conn hconn
  owners := h.owners
  requested := by
    intro conn port hmem
    rcases List.mem_cons.1 hmem with heq | hmem
    · exact absurd heq.symm (hne conn port)
    · rcases h.requested conn port hmem with ⟨time, htime⟩
      exact ⟨time, List.mem_cons_of_mem e htime⟩

theorem allocate (h : Tracked t n history) {o : Owner} (ho : ∀ conn, o = .client conn → conn < n) :
    Tracked (t.allocate o) n history where
  events := h.events
  owners := by
    intro fd conn hfd
    rcases Table.lookup_of_lookup_allocate hfd with heq | hfd
    · exact ho conn heq.symm
    · exact h.owners fd conn hfd
  requested := h.requested

theorem close (h : Tracked t n history) (fd : Nat) : Tracked (t.close fd) n history where
  events := h.events
  owners := fun fd' conn hfd' => h.owners fd' conn (Table.lookup_of_lookup_close hfd')
  requested := h.requested

/-- A connection is accepted, and its REQUEST follows at once. -/
theorem accept (h : Tracked t n history) (port : UInt16) (time : Nat) :
    Tracked (t.allocate (.client n)) (n + 1)
      (.reported .request (some n) port time :: .accepted n port :: history) where
  events := by
    intro e he conn hconn
    rcases List.mem_cons.1 he with rfl | he
    · cases hconn
      exact Nat.lt_succ_self n
    · rcases List.mem_cons.1 he with rfl | he
      · cases hconn
        exact Nat.lt_succ_self n
      · exact (h.events e he conn hconn).trans (Nat.lt_succ_self n)
  owners := by
    intro fd conn hfd
    rcases Table.lookup_of_lookup_allocate hfd with heq | hfd
    · cases heq
      exact Nat.lt_succ_self n
    · exact (h.owners fd conn hfd).trans (Nat.lt_succ_self n)
  requested := by
    intro conn port' hmem
    rcases List.mem_cons.1 hmem with heq | hmem
    · cases heq
    · rcases List.mem_cons.1 hmem with heq | hmem
      · cases heq
        exact ⟨time, List.mem_cons_self⟩
      · rcases h.requested conn port' hmem with ⟨time', htime'⟩
        exact ⟨time', List.mem_cons_of_mem _ (List.mem_cons_of_mem _ htime')⟩

/-- The next connection has not occurred. -/
theorem notMem (h : Tracked t n history) {e : Event} (he : e.conn? = some n) : e ∉ history :=
  fun hmem => lt_irrefl n (h.events e hmem n he)

end Tracked

namespace Daemon

def IsTracked (s : Daemon) : Prop :=
  Tracked s.descriptors s.connections s.history

variable {s : Daemon}

theorem IsTracked.connection?_lt (h : s.IsTracked) {fd conn : Nat}
    (hconn : s.connection? fd = some conn) : conn < s.connections := by
  unfold connection? at hconn
  split at hconn
  · next c hfd =>
      cases hconn
      exact h.owners fd _ hfd
  · cases hconn

theorem isTracked_sendToServer (h : s.IsTracked) {type : ReportType} {conn : Option Nat}
    {port : UInt16} {outcome : ReportOutcome} (hconn : ∀ c, conn = some c → c < s.connections) :
    (s.sendToServer type conn port outcome).IsTracked := by
  rw [sendToServer_eq]
  refine Tracked.cons ?_ hconn (by simp)
  by_cases hopen : outcome.opensSocket = true
  · simp only [hopen, if_true]
    exact Tracked.allocate h (by simp)
  · simp only [hopen]
    exact h

theorem isTracked_detachClient (h : s.IsTracked) (si : Nat) : (s.detachClient si).IsTracked := by
  unfold detachClient
  split
  · exact h
  · next fd _ => exact (Tracked.close h fd).cons (fun conn hconn => h.connection?_lt hconn) (by simp)

theorem isTracked_throttledWrite (h : s.IsTracked) (si : Nat) (payload : Payload)
    (outcome : SendOutcome) : (s.throttledWrite si payload outcome).IsTracked := by
  cases outcome with
  | full =>
      refine Tracked.cons h (fun conn hconn => ?_) (by simp)
      rcases Option.bind_eq_some_iff.1 hconn with ⟨fd, -, hfd⟩
      exact h.connection?_lt hfd
  | short => exact isTracked_detachClient h si
  | again => exact h
  | failed => exact isTracked_detachClient h si

theorem isTracked_requested (h : s.IsTracked) (call : AcceptCall) (peer : UInt16) :
    (s.requested call peer).IsTracked := by
  have haccept := h.accept peer (s.clock + call.requestDelay)
  rw [requested, sendToServer_eq]
  by_cases hopen : call.request.opensSocket = true
  · simp only [hopen, if_true]
    exact haccept.allocate (by simp)
  · simp only [hopen]
    exact haccept

theorem isTracked_attachClient (h : s.IsTracked) (si fd : Nat) {conn : Nat}
    (hconn : conn < s.connections) : (s.attachClient si conn fd).IsTracked := by
  refine Tracked.cons h ?_ (by simp)
  rintro c heq
  cases heq
  exact hconn

theorem isTracked_announced (h : s.IsTracked) (call : AcceptCall) (peer : UInt16) (si : Nat)
    (subscribers : List Subscriber) : (s.announced call peer si subscribers).IsTracked := by
  refine isTracked_throttledWrite (isTracked_attachClient
    (s := { s.requested call peer with subscribers := subscribers }) ?_ _ _ ?_) _ _ _
  · exact isTracked_requested h call peer
  · simp

theorem isTracked_acceptClient (h : s.IsTracked) (call : AcceptCall) :
    (s.acceptClient call).IsTracked := by
  rcases s.acceptClient_cases call with ⟨-, heq⟩ | ⟨peer, subscribers, -, -, -, heq⟩ |
    ⟨peer, si, subscribers, -, -, -, heq⟩
  · -- a report for no connection mentions none
    rw [heq]
    exact isTracked_sendToServer (s := s.clockGettime call.requestDelay) h (by simp)
  · rw [heq]
    exact Tracked.close (isTracked_requested h call peer) _
  · rw [heq]
    refine isTracked_sendToServer
      (s := (s.announced call peer si subscribers).clockGettime call.responceDelay)
      (isTracked_announced h call peer si subscribers) ?_
    rintro conn hconn
    cases hconn
    simp [clockGettime]

theorem isTracked_step {s' : Daemon} (h : s.IsTracked) {act : Action}
    (hstep : mainStep s act = some s') : s'.IsTracked := by
  cases act with
  | accept call =>
      cases hstep
      exact isTracked_acceptClient h call
  | acceptControl port =>
      cases hstep
      have hset : ∀ fd conn, (Event.fdSet none fd).conn? = some conn → conn < s.connections :=
        fun fd conn hconn => by cases hconn
      exact ((Tracked.allocate h (by simp)).cons (hset _) (by simp)).cons (hset _) (by simp)
  | openOther =>
      cases hstep
      exact Tracked.allocate h (by simp)
  | closeOther fd =>
      rcases Option.ite_none_right_eq_some.1 hstep with ⟨-, heq⟩
      cases heq
      exact Tracked.close h fd
  | write si outcome =>
      rcases Option.ite_none_right_eq_some.1 hstep with ⟨-, heq⟩
      cases heq
      exact isTracked_throttledWrite h si .other outcome
  | detach si =>
      rcases Option.ite_none_right_eq_some.1 hstep with ⟨-, heq⟩
      cases heq
      exact isTracked_detachClient h si

/-! ## Which steps keep the reports justified -/

/-- The REQUEST for a new connection is justified. -/
theorem justified_requested (h : s.IsTracked) (call : AcceptCall) (peer : UInt16) :
    Justified ReportJustified (s.requested call peer).history ↔
      Justified ReportJustified s.history := by
  rw [history_requested]
  constructor
  · -- drop the REQUEST and the accepted connection
    rintro ⟨-, -, hrest⟩
    exact hrest
  · intro hrest
    refine ⟨⟨s.connections, rfl, List.mem_cons_self, fun port time hmem => ?_⟩, trivial, hrest⟩
    rcases List.mem_cons.1 hmem with heq | hmem
    · cases heq
    · exact h.notMem rfl hmem

/-- The RESPONCE is justified if and only if the announcement has been taken whole. -/
theorem responce_justified_iff (h : s.IsTracked) {call : AcceptCall} {peer : UInt16} {si : Nat}
    {subscribers : List Subscriber} {time : Nat} (htime : s.clock + call.requestDelay ≤ time)
    (halloc : allocateClient s.subscribers = some (si, subscribers)) :
    ReportJustified (s.announced call peer si subscribers).history
        (.reported .responce (some s.connections) peer time) ↔ call.announce = .full := by
  have hsentNew : .sent (some s.connections) .announce ∉ s.history := h.notMem rfl
  have hdetachedNew : .detached (some s.connections) ∉ s.history := h.notMem rfl
  have hresponceNew (port : UInt16) (time : Nat) :
      .reported .responce (some s.connections) port time ∉ s.history := h.notMem rfl
  rw [history_announced halloc, history_requested]
  constructor
  · rintro ⟨c, heq, -, hsent, -, -⟩
    cases heq
    -- the connection is new, so only this announcement can have been sent to it
    cases hannounce : call.announce with
    | full => rfl
    | short => simp [hannounce, announceEvents, hsentNew] at hsent
    | again => simp [hannounce, announceEvents, hsentNew] at hsent
    | failed => simp [hannounce, announceEvents, hsentNew] at hsent
  · intro hannounce
    refine ⟨s.connections, rfl, ⟨s.clock + call.requestDelay, htime, ?_⟩, ?_, ?_, fun _ _ => ?_⟩
    · simp [hannounce, announceEvents]
    · simp [hannounce, announceEvents]
    · simp [hannounce, announceEvents, hdetachedNew]
    · simp [hannounce, announceEvents, hresponceNew]

theorem justified_announced (call : AcceptCall) (peer : UInt16) {si : Nat}
    {subscribers : List Subscriber}
    (halloc : allocateClient s.subscribers = some (si, subscribers)) :
    Justified ReportJustified (s.announced call peer si subscribers).history ↔
      Justified ReportJustified (s.requested call peer).history := by
  rw [history_announced halloc]
  cases call.announce <;> simp [announceEvents, Justified, ReportJustified]

/-- A write to a client outside the accept loop reports nothing. -/
theorem justified_throttledWrite (si : Nat) (payload : Payload) (outcome : SendOutcome) :
    Justified ReportJustified (s.throttledWrite si payload outcome).history ↔
      Justified ReportJustified s.history := by
  have hdetach : Justified ReportJustified (s.detachClient si).history ↔
      Justified ReportJustified s.history := by
    unfold detachClient
    split
    · exact Iff.rfl
    · exact and_iff_right trivial
  cases outcome with
  | full => exact and_iff_right trivial
  | short => exact hdetach
  | again => exact Iff.rfl
  | failed => exact hdetach

theorem justified_acceptClient (h : s.IsTracked) (call : AcceptCall) :
    Justified ReportJustified (s.acceptClient call).history ↔
      Justified ReportJustified s.history ∧ Answered s (.accept call) := by
  rcases s.acceptClient_cases call with ⟨hpeer, heq⟩ |
    ⟨peer, subscribers, hpeer, hattach, -, heq⟩ | ⟨peer, si, subscribers, hpeer, hattach, halloc, heq⟩
  · -- a REQUEST for no connection
    rw [heq, sendToServer_eq]
    constructor
    · rintro ⟨⟨c, hc, -⟩, -⟩
      cases hc
    · rintro ⟨-, hne, -⟩
      exact absurd hpeer hne
  · -- no announcement, and no RESPONCE
    rw [heq]
    have hanswered : Answered s (.accept call) := ⟨by simp [hpeer], fun h => absurd h hattach⟩
    calc
      Justified ReportJustified (s.requested call peer).history
          ↔ Justified ReportJustified s.history := justified_requested h call peer
      _ ↔ Justified ReportJustified s.history ∧ Answered s (.accept call) :=
          (and_iff_left hanswered).symm
  · -- the RESPONCE follows whatever the announcement has come to
    have hanswered : Answered s (.accept call) ↔ call.announce = .full := by
      simp [Answered, hpeer, hattach]
    have hclock : s.clock + call.requestDelay ≤
        (s.announced call peer si subscribers).clock + call.responceDelay := by
      rw [clock_announced]
      exact Nat.le_add_right _ _
    rw [heq, sendToServer_eq]
    calc
      Justified ReportJustified (.reported .responce (some s.connections) peer
            ((s.announced call peer si subscribers).clock + call.responceDelay) ::
              (s.announced call peer si subscribers).history)
          ↔ call.announce = .full ∧
              Justified ReportJustified (s.announced call peer si subscribers).history :=
            and_congr_left fun _ => responce_justified_iff h hclock halloc
      _ ↔ call.announce = .full ∧ Justified ReportJustified s.history := by
            rw [justified_announced call peer halloc, justified_requested h]
      _ ↔ Justified ReportJustified s.history ∧ Answered s (.accept call) := by
            rw [hanswered, and_comm]

theorem justified_step {s' : Daemon} (h : s.IsTracked) {act : Action}
    (hstep : mainStep s act = some s') :
    Justified ReportJustified s'.history ↔
      Justified ReportJustified s.history ∧ Answered s act := by
  cases act with
  | accept call =>
      cases hstep
      exact justified_acceptClient h call
  | acceptControl port =>
      cases hstep
      calc
        Justified ReportJustified (s.acceptControl port).history
            ↔ Justified ReportJustified s.history :=
              (and_iff_right trivial).trans (and_iff_right trivial)
        _ ↔ Justified ReportJustified s.history ∧ Answered s (.acceptControl port) :=
              (and_iff_left trivial).symm
  | openOther =>
      cases hstep
      exact (and_iff_left trivial).symm
  | closeOther fd =>
      rcases Option.ite_none_right_eq_some.1 hstep with ⟨-, heq⟩
      cases heq
      exact (and_iff_left trivial).symm
  | write si outcome =>
      rcases Option.ite_none_right_eq_some.1 hstep with ⟨-, heq⟩
      cases heq
      exact (justified_throttledWrite si .other outcome).trans (and_iff_left trivial).symm
  | detach si =>
      rcases Option.ite_none_right_eq_some.1 hstep with ⟨-, heq⟩
      cases heq
      exact (justified_throttledWrite si .other .failed).trans (and_iff_left trivial).symm

end Daemon

/-! ## Runs -/

theorem isTracked_init (maxSubscribers : Nat) : (Daemon.init maxSubscribers).IsTracked where
  events := by simp [Daemon.init]
  owners := by simp [Daemon.init]
  requested := by simp [Daemon.init]

/-- In every run the reports pair up if and only if every `accept` returns a connection and every
announcement that is sent is taken whole. -/
theorem pairsUp_iff {maxSubscribers : Nat} {acts : List Action} {s : Daemon}
    (hrun : exec mainStep (Daemon.init maxSubscribers) acts = some s) :
    PairsUp s.history ↔ Respects mainStep Answered (Daemon.init maxSubscribers) acts := by
  have htracked : s.IsTracked :=
    exec_invariant (I := Daemon.IsTracked) (fun _ _ _ h hstep => Daemon.isTracked_step h hstep)
      (isTracked_init maxSubscribers) hrun
  have hjustified := iff_respects_of_exec (C := Answered) (I := Daemon.IsTracked)
    (P := fun s => Justified ReportJustified s.history)
    (fun _ _ _ h hstep => ⟨Daemon.isTracked_step h hstep, Daemon.justified_step h hstep⟩)
    (isTracked_init maxSubscribers) hrun
  calc
    PairsUp s.history ↔ ∀ e past, e :: past <:+ s.history → ReportJustified past e :=
      and_iff_left htracked.requested
    _ ↔ Justified ReportJustified s.history := justified_iff_forall_suffix.symm
    _ ↔ Respects mainStep Answered (Daemon.init maxSubscribers) acts := by
      rw [hjustified]
      exact and_iff_right trivial

/-- A client is told the version and leaves. -/
theorem pairsUp_iff_client : ∃ s, exec mainStep (Daemon.init 1024)
    [.accept ⟨some 40123, 5, .written, true, .full, 7, .written⟩, .detach 0] = some s ∧
      PairsUp s.history := by
  refine ⟨_, rfl, (@pairsUp_iff 1024
    [.accept ⟨some 40123, 5, .written, true, .full, 7, .written⟩, .detach 0] _ rfl).2 ?_⟩
  exact (respects_cons rfl).2 ⟨⟨by decide, fun _ => rfl⟩, (respects_cons rfl).2 ⟨trivial, trivial⟩⟩

/-- The client has gone before the announcement: it is detached, and the RESPONCE follows. -/
theorem exists_not_pairsUp : ¬ ∀ (maxSubscribers : Nat) (acts : List Action) (s : Daemon),
    exec mainStep (Daemon.init maxSubscribers) acts = some s → PairsUp s.history := by
  intro h
  have hpairs := (h 1024 [.accept ⟨some 40123, 5, .written, true, .failed, 7, .written⟩] _ rfl).1
  rcases hpairs _ _ (List.suffix_refl _) with ⟨c, heq, -, hsent, -⟩
  cases heq
  revert hsent
  decide

end Gpsd
end ResourceAccounting
