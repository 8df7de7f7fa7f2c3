import DarwinGpib.Broker.Waiting

/-!
# Descriptors of departed clients

The driver refuses the closes of `session_reap`, which have no room for the status that a close
returns. What a departed client has open on an adapter is closed only by requests that were on
their way when it left, and a request to open something that was on its way is never undone.
-/

namespace DarwinGpib

namespace Gpibd

variable {s t : Broker} {a : Action} {c : Client} {i : Service}

/-! ## Connections -/

/-- What the running block knows about `g_conn`, which only blocks of this board change. -/
def Phase.Agrees (conn : Option Service) : Phase → Prop
  | .found _ _ => conn = none
  | .connected _ service => conn = some service
  | _ => True

def Connections (s : Broker) : Prop :=
  ∀ b blk ph, s.running b = some (blk, ph) → ph.Agrees (s.conn b)

theorem connections_init : Connections .init := by
  intro b blk ph hrun
  cases hrun

/-- A step of the block that runs on one board. -/
theorem Connections.of_board (h : Connections s) {b : Board}
    (hconn : ∀ k, k ≠ b → t.conn k = s.conn k)
    (hrunning : ∀ k, k ≠ b → t.running k = s.running k)
    (hb : ∀ blk ph, t.running b = some (blk, ph) → ph.Agrees (t.conn b)) : Connections t := by
  intro k blk ph hrun
  by_cases hk : k = b
  · subst hk
    exact hb blk ph hrun
  · rw [hrunning k hk] at hrun
    rw [hconn k hk]
    exact h k blk ph hrun

theorem Connections.setRunning (h : Connections s) {b : Board} {blk : Block} {ph : Phase}
    {conn : Option Service} (hph : ph.Agrees conn) :
    Connections ({ s with conn := Function.update s.conn b conn }.setRunning b
      (some (blk, ph))) := by
  refine h.of_board (b := b) (fun k hk => by simp [hk]) (fun k hk => by simp [hk]) ?_
  intro blk' ph' hrun
  simp only [Broker.setRunning, Function.update_self, Option.some.injEq, Prod.mk.injEq] at hrun
  rw [← hrun.2]
  simpa using hph

theorem Connections.setRunning_same (h : Connections s) {b : Board} {blk : Block} {ph : Phase}
    (hph : ph.Agrees (s.conn b)) : Connections (s.setRunning b (some (blk, ph))) := by
  have hrunning : Connections
      ({ s with conn := Function.update s.conn b (s.conn b) }.setRunning b (some (blk, ph))) :=
    h.setRunning hph
  rwa [Function.update_eq_self] at hrunning

theorem Connections.finish (h : Connections s) (b : Board) (blk : Block)
    (conn : Option Service) :
    Connections ({ s with conn := Function.update s.conn b conn }.finish b blk) := by
  refine h.of_board (b := b) (fun k hk => by simp [hk]) (fun k hk => by simp [hk]) ?_
  intro blk' ph' hrun
  simp at hrun

theorem Connections.finish_same (h : Connections s) (b : Board) (blk : Block) :
    Connections (s.finish b blk) := by
  have h := h.finish b blk (s.conn b)
  rwa [Function.update_eq_self] at h

theorem Connections.stepped (h : Connections s) (hstep : Stepped s a t) : Connections t := by
  cases hstep with
  | sendOutOfRange => exact h
  | send => exact h
  | disconnect => exact h
  | begin => exact h.setRunning_same trivial
  | @unresolved b blk => exact h.finish_same b blk
  | @probed b blk => exact h.finish_same b blk
  | cached hrun hconn => exact h.setRunning_same hconn
  | located hrun hconn => exact h.setRunning_same hconn
  | @notOpened b blk => exact h.finish_same b blk
  | @openedForProbe b blk => exact h.finish b blk _
  | opened => exact h.setRunning rfl
  | @taken b blk retry service c call =>
      refine h.of_board (b := b) (fun _ _ => by rw [answer_conn])
        (fun k hk => answer_running_of_ne hk) ?_
      intro blk' ph' hrun
      cases blk with
      | reapClose c' handle => simp [Broker.answer] at hrun
      | _ =>
          rw [answer_running_self (by simp)] at hrun
          cases hrun
          trivial
  | @failed b blk => exact h.finish_same b blk
  | @deadInReap b c handle => exact h.finish_same b _
  | stale => exact h.setRunning trivial
  | @lost b blk => exact h.finish b blk none
  | @track b =>
      refine h.of_board (b := b) (fun _ _ => rfl) (fun k hk => by simp [hk]) ?_
      intro blk' ph' hrun
      simp at hrun
  | reap => exact h
  | closeNext => exact h
  | freeSession => exact h
  | plug => exact h
  | unplug => exact h

/-- A cached connection is dropped only when a call on it comes back dead. -/
theorem Connections.conn_stepped (h : Connections s) (hstep : Stepped s a t) {b : Board}
    (hconn : s.conn b = some i) :
    t.conn b = some i ∨
      (a = .call b .dead ∧ ∃ blk retry, s.running b = some (blk, .connected retry i)) := by
  have hfound {k : Board} {blk : Block} {retry : Bool} {service : Service}
      (hrun : s.running k = some (blk, .found retry service)) : k ≠ b := by
    rintro rfl
    have hnone : s.conn k = none := h k _ _ hrun
    rw [hnone] at hconn
    cases hconn
  cases hstep with
  | unresolved => exact .inl (by simpa using hconn)
  | probed => exact .inl (by simpa using hconn)
  | notOpened => exact .inl (by simpa using hconn)
  | openedForProbe hrun =>
      refine .inl ?_
      simp [(hfound hrun).symm, hconn]
  | opened hrun =>
      refine .inl ?_
      simp [(hfound hrun).symm, hconn]
  | taken => exact .inl (by simpa using hconn)
  | failed => exact .inl (by simpa using hconn)
  | deadInReap => exact .inl (by simpa using hconn)
  | @stale k blk service hrun =>
      by_cases hk : b = k
      · subst hk
        have hservice : s.conn b = some service := h b _ _ hrun
        rw [hconn, Option.some.injEq] at hservice
        subst hservice
        exact .inr ⟨rfl, blk, false, hrun⟩
      · exact .inl (by simp [hk, hconn])
  | @lost k blk service hrun =>
      by_cases hk : b = k
      · subst hk
        have hservice : s.conn b = some service := h b _ _ hrun
        rw [hconn, Option.some.injEq] at hservice
        subst hservice
        exact .inr ⟨rfl, blk, true, hrun⟩
      · exact .inl (by simp [hk, hconn])
  | _ => exact .inl hconn

/-- A call that the driver takes waits on a connected board until it has been made. -/
theorem Connections.waiting_stepped (h : Connections s) (hstep : Stepped s a t) {b : Board}
    {blk : Block} (hconn : s.conn b = some i) (hmem : blk ∈ s.waiting b)
    (hcall : blk.call?.isSome) (hkept : Broker.rejects blk = false) :
    blk ∈ t.waiting b ∨
      (∃ outcome retry, a = .call b outcome ∧ s.running b = some (blk, .connected retry i)) := by
  rcases left_of_stepped hstep hmem with hmem | hleft
  · exact .inl hmem
  right
  cases hleft with
  | unresolved hrun hwhy =>
      rcases hwhy with hwhy | hwhy
      · rw [hkept] at hwhy
        cases hwhy
      · rw [hwhy] at hconn
        cases hconn
  | probe hnone =>
      rw [hnone] at hcall
      cases hcall
  | notOpened hrun =>
      have hnone : s.conn b = none := h b _ _ hrun
      rw [hnone] at hconn
      cases hconn
  | @called outcome retry service hrun =>
      have hservice : s.conn b = some service := h b _ _ hrun
      rw [hconn, Option.some.injEq] at hservice
      subst hservice
      exact ⟨outcome, retry, rfl, hrun⟩

/-! ## The property and its conditions -/

/-- Calls on the adapter succeed, for which it has to be attached, unless they have not the room
for their output that it demands. -/
def CallsTaken (i : Service) (s : Broker) : Action → Prop
  | .call b outcome => ∀ blk retry, s.running b = some (blk, .connected retry i) →
      outcome ≠ .dead ∧ (outcome = .failed → blk.admitted? = none)
  | _ => True

/-- The block is a request of the client that opens a descriptor. -/
def Block.Opens (c : Client) (blk : Block) : Prop :=
  ∃ o, blk.admitted? = some (c, .openDescriptor o)

/-- A request that closes this descriptor of the adapter waits for its call. -/
def Closing (s : Broker) (i : Service) (handle : Int) : Prop :=
  ∃ b c blk, s.conn b = some i ∧ blk ∈ s.waiting b ∧
    blk.admitted? = some (c, .closeDescriptor handle)

/-- The client leaves when what it has open on the adapter is being closed and no request of its
waits that opens more. -/
def LeavesClosed (c : Client) (i : Service) (s : Broker) : Action → Prop
  | .disconnect c' => c' = c → (∀ b, ∀ blk ∈ s.waiting b, ¬ blk.Opens c) ∧
      ∀ handle, s.slots i handle = some c → Closing s i handle
  | _ => True

/-! ## Behind the client's departure -/

structure Departed (c : Client) (i : Service) (s : Broker) : Prop where
  connections : Connections s
  opens : (s.session c).state ≠ .connected → ∀ b, ∀ blk ∈ s.waiting b, ¬ blk.Opens c
  closing : (s.session c).state ≠ .connected → ∀ handle, s.slots i handle = some c →
    Closing s i handle

theorem departed_init (c : Client) (i : Service) : Departed c i .init where
  connections := connections_init
  opens h := absurd rfl h
  closing h := absurd rfl h

/-- A session ends in `disconnect` alone. -/
theorem connected_of_stepped (hstep : Stepped s a t) (h : (t.session c).state ≠ .connected) :
    (s.session c).state ≠ .connected ∨ a = .disconnect c := by
  by_cases hloud : a.Loud
  · cases hstep with
    | @send c' r b =>
        by_cases hc : c = c'
        · subst hc
          exact .inl (by simpa using h)
        · exact .inl (by simpa [hc] using h)
    | @disconnect c' =>
        by_cases hc : c = c'
        · subst hc
          exact .inr rfl
        · exact .inl (by simpa [hc] using h)
    | taken => exact .inl fun hstate => h ((answer_session c).connected.mpr hstate)
    | @track b c' =>
        by_cases hc : c = c'
        · subst hc
          exact .inl (by simpa using h)
        · exact .inl (by simpa [hc] using h)
    | @reap c' hstate =>
        by_cases hc : c = c'
        · subst hc
          exact .inl (by simp [hstate])
        · exact .inl (by simpa [hc] using h)
    | @closeNext c' b handle rest hstate =>
        by_cases hc : c = c'
        · subst hc
          exact .inl (by simp [hstate])
        · exact .inl (by simpa [hc] using h)
    | @freeSession c' hstate =>
        by_cases hc : c = c'
        · subst hc
          exact .inl (by simp [hstate])
        · exact .inl (by simpa [hc] using h)
    | sendOutOfRange => exact .inl h
    | plug => exact .inl h
    | unplug => exact .inl h
    | _ => exact False.elim hloud
  · exact .inl fun hstate =>
      h (((quiet_of_stepped hstep hloud).session c).connected.mpr hstate)

/-- Nobody asks for a descriptor in the name of a client that has left. -/
theorem opens_stepped (hstep : Stepped s a t) (hstate : (s.session c).state ≠ .connected)
    (hopens : ∀ b, ∀ blk ∈ s.waiting b, ¬ blk.Opens c) {b : Board} {blk : Block}
    (hmem : blk ∈ t.waiting b) : ¬ blk.Opens c := by
  rintro ⟨o, hopen⟩
  cases arrived_of_stepped hstep hmem with
  | before hmem => exact hopens b blk hmem ⟨o, hopen⟩
  | @sent c' r hconnected hr hblk =>
      rw [hblk] at hopen
      obtain ⟨rfl, -⟩ := call?_request.mp (admitted?_eq_some.mp hopen).1
      exact hstate hconnected
  | outOfRange hblk =>
      rw [hblk] at hopen
      cases hopen
  | reaped hblk =>
      rw [hblk, admitted?_reapClose] at hopen
      cases hopen

/-- A close that is on its way stays so until the descriptor is closed. -/
theorem Connections.closing_stepped (h : Connections s) (htaken : CallsTaken i s a)
    (hstep : Stepped s a t) {handle : Int} (hclosing : Closing s i handle) :
    Closing t i handle ∨ t.slots i handle = none := by
  obtain ⟨b, c, blk, hconn, hmem, hclose⟩ := hclosing
  obtain ⟨high, cap, rfl, hadmits⟩ := admitted?_eq_some_iff.mp hclose
  have hcap : cap = 16 := hadmits _ rfl
  have hconn' : t.conn b = some i := by
    rcases h.conn_stepped hstep hconn with hconn' | ⟨rfl, blk, retry, hrun⟩
    · exact hconn'
    · exact absurd rfl (htaken blk retry hrun).1
  rcases h.waiting_stepped hstep hconn hmem rfl (by simp [Broker.rejects, hcap, maxOut]) with
    hmem | ⟨outcome, retry, rfl, hrun⟩
  · exact .inl ⟨b, c, _, hconn', hmem, hclose⟩
  · obtain ⟨hdead, hfailed⟩ := htaken _ retry hrun
    cases outcome with
    | taken =>
        cases hstep with
        | taken hrun' hcall =>
            rw [hrun] at hrun'
            cases hrun'
            cases hcall
            right
            simp [applyCall, SlotTable.release]
    | failed =>
        rw [hfailed rfl] at hclose
        cases hclose
    | dead => exact absurd rfl hdead

/-- No slot of the adapter is opened for a client none of whose requests does so. -/
theorem open_of_stepped (hstep : Stepped s a t)
    (hopens : ∀ b, ∀ blk ∈ s.waiting b, ¬ blk.Opens c) {handle : Int}
    (hslot : t.slots i handle = some c) : s.slots i handle = some c := by
  by_cases hloud : a.Loud
  · cases hstep with
    | @taken b blk retry service c' call hrun hcall hattached hadmits =>
        rw [answer_slots] at hslot
        by_cases hservice : i = service
        · subst hservice
          rw [Function.update_self] at hslot
          rcases open_of_applyCall hslot with ⟨hslot, -⟩ | ⟨rfl, -, -, ⟨o, rfl⟩, -⟩
          · exact hslot
          · exact absurd ⟨o, admitted?_eq_some.mpr ⟨hcall, hadmits⟩⟩
              (hopens b blk (mem_waiting_of_running hrun trivial))
        · rwa [Function.update_of_ne hservice] at hslot
    | sendOutOfRange => exact hslot
    | send => exact hslot
    | disconnect => exact hslot
    | track => exact hslot
    | reap => exact hslot
    | closeNext => exact hslot
    | freeSession => exact hslot
    | plug => exact hslot
    | unplug => exact hslot
    | _ => exact False.elim hloud
  · rwa [(quiet_of_stepped hstep hloud).slots] at hslot

theorem Departed.stepped (h : Departed c i s) (htaken : CallsTaken i s a)
    (hleaves : LeavesClosed c i s a) (hstep : Stepped s a t) : Departed c i t := by
  have hbefore (hstate : (t.session c).state ≠ .connected) :
      (∀ b, ∀ blk ∈ s.waiting b, ¬ blk.Opens c) ∧
        ∀ handle, s.slots i handle = some c → Closing s i handle := by
    rcases connected_of_stepped hstep hstate with hstate | rfl
    · exact ⟨h.opens hstate, h.closing hstate⟩
    · exact hleaves rfl
  refine ⟨h.connections.stepped hstep, fun hstate b blk hmem => ?_, fun hstate handle hslot => ?_⟩
  · rcases connected_of_stepped hstep hstate with hstate' | rfl
    · exact opens_stepped hstep hstate' (h.opens hstate') hmem
    · cases hstep with
      | disconnect => exact (hbefore hstate).1 b blk hmem
  · obtain ⟨hopens, hclosing⟩ := hbefore hstate
    rcases h.connections.closing_stepped htaken hstep
      (hclosing handle (open_of_stepped hstep hopens hslot)) with hclosing | hnone
    · exact hclosing
    · rw [hnone] at hslot
      cases hslot

/-- A departed client leaves nothing open on an adapter that takes all calls, if what it had open
was being closed when it left and none of its requests was to open more. -/
theorem departed_client_leaves_nothing_open {c : Client} {i : Service} {as : List Action}
    {t : Broker} (hrun : Transition.run step .init as = some t)
    (htaken : Transition.Along step (CallsTaken i) .init as)
    (hleaves : Transition.Along step (LeavesClosed c i) .init as)
    (hleft : (t.session c).state ≠ .connected) (hidle : Idle t) (handle : Int) :
    t.slots i handle ≠ some c := by
  have hinv : Departed c i t := Transition.run_invariant
    (fun s a u h hok hu => h.stepped hok.1 hok.2 (stepped_of_step hu))
    (departed_init c i) (htaken.and hleaves) hrun
  intro hslot
  obtain ⟨b, _, blk, -, hmem, -⟩ := hinv.closing hleft handle hslot
  rw [hidle.waiting b] at hmem
  cases hmem

/-- A client opens a descriptor. -/
def opensDescriptor : List Action :=
  [.plug 0, .send 0 ⟨0, .call 0 (.openDescriptor ⟨5, 0, 0, 13, 0, 0, 1⟩), 16⟩,
    .begin 0, .lookup 0, .openService 0 true, .call 0 .taken, .track 0]

/-- It sends a close for it. -/
def opensAndCloses : List Action :=
  opensDescriptor ++ [.send 0 ⟨0, .call 0 (.closeDescriptor 1), 16⟩]

/-- It leaves when the close is queued, and `session_reap` asks for another, which is refused. -/
def closesAndLeaves : List Action :=
  opensAndCloses ++
    [.disconnect 0, .reap 0, .closeNext 0, .begin 0, .lookup 0, .call 0 .taken, .track 0,
      .begin 0, .lookup 0] ++
    [.call 0 .failed, .freeSession 0]

/-- The call of `session_reap` fails on an adapter that takes all others. -/
theorem along_callsTaken_reapClose {as : List Action} {ph : Phase} {handle : Int}
    (hrun : Transition.run step .init as = some t)
    (hreap : t.running 0 = some (.reapClose c handle, ph))
    (htaken : ∀ a ∈ as, ∀ s, CallsTaken i s a) :
    Transition.Along step (CallsTaken i) .init (as ++ [.call 0 .failed, .freeSession 0]) := by
  refine Transition.along_append (Transition.along_of_forall htaken _) ?_
  intro t' hrun'
  obtain rfl : t = t' := Option.some.inj (hrun.symm.trans hrun')
  refine ⟨?_, fun u _ => Transition.along_of_forall (by simp [CallsTaken]) u⟩
  intro blk retry hrunning
  rw [hreap] at hrunning
  cases hrunning
  exact ⟨by simp, fun _ => admitted?_reapClose handle⟩

theorem leavesClosed_opensAndCloses (hrun : Transition.run step .init opensAndCloses = some t) :
    LeavesClosed 0 0 t (.disconnect 0) := by
  rw [← Option.get_of_eq_some (by decide) hrun]
  refine fun _ => ⟨fun b blk hmem => ?_, fun handle hslot => ?_⟩
  · have hwaits : ∀ b, ∀ blk ∈ ((Transition.run step .init opensAndCloses).get
        (by decide)).waiting b, blk = .request 0 (.call 0 (.closeDescriptor 1)) 16 := by decide
    rintro ⟨o, hopen⟩
    rw [hwaits b blk hmem] at hopen
    cases (admitted?_eq_some.mp hopen).1
  · have hslots : ((Transition.run step .init opensAndCloses).get (by decide)).slots 0 =
        Function.update SlotTable.empty 1 (some 0) := rfl
    rw [hslots] at hslot
    by_cases hhandle : handle = 1
    · subst hhandle
      exact ⟨0, 0, .request 0 (.call 0 (.closeDescriptor 1)) 16, by decide, by decide, rfl⟩
    · rw [Function.update_of_ne hhandle] at hslot
      cases hslot

theorem departed_client_leaves_nothing_open_closesAndLeaves :
    ((Transition.run step .init closesAndLeaves).get (by decide)).slots 0 1 ≠ some 0 := by
  refine departed_client_leaves_nothing_open (Option.some_get _).symm ?_ ?_ (by decide)
    (by decide) 1
  · refine along_callsTaken_reapClose (Option.some_get (by decide)).symm
      (show _ = some (Block.reapClose 0 1, .connected false 0) by decide) ?_
    simp [opensAndCloses, opensDescriptor, CallsTaken]
  · refine Transition.along_append (Transition.along_append ?_ fun t ht => ?_) fun t _ => ?_
    · refine Transition.along_of_forall ?_ _
      simp [opensAndCloses, opensDescriptor, LeavesClosed]
    · refine ⟨leavesClosed_opensAndCloses ht, fun u _ => ?_⟩
      exact Transition.along_of_forall (by simp [LeavesClosed]) u
    · exact Transition.along_of_forall (by simp [LeavesClosed]) t

/-- A client opens a descriptor and leaves, and its session is reaped. -/
def opensAndLeaves : List Action :=
  opensDescriptor ++ [.disconnect 0, .reap 0, .closeNext 0, .begin 0, .lookup 0] ++
    [.call 0 .failed, .freeSession 0]

/-- A client asks for a descriptor and leaves before the request has run. -/
def opensTooLate : List Action :=
  [.plug 0, .send 0 ⟨0, .call 0 (.openDescriptor ⟨5, 0, 0, 13, 0, 0, 1⟩), 16⟩, .disconnect 0,
    .reap 0, .freeSession 0,
    .begin 0, .lookup 0, .openService 0 true, .call 0 .taken, .track 0]

/-- Adapter 0 takes all calls that it can, and a descriptor of client 0 is open on it when the
client is gone and all blocks have run. -/
def OutlivesClient (as : List Action) : Prop :=
  Transition.Along step (CallsTaken 0) .init as ∧
    ∃ t, Transition.run step .init as = some t ∧
      (t.session 0).state = .freed ∧ Idle t ∧ t.slots 0 1 = some 0

/-- The close that `session_reap` asks for is refused, and what is opened later does not come into
its list: the descriptor stays either way. -/
theorem descriptor_outlives_client :
    OutlivesClient opensAndLeaves ∧ OutlivesClient opensTooLate := by
  constructor
  · refine ⟨?_, (Transition.run step .init opensAndLeaves).get (by decide),
      (Option.some_get _).symm, by decide, by decide, by decide⟩
    refine along_callsTaken_reapClose (Option.some_get (by decide)).symm
      (show _ = some (Block.reapClose 0 1, .connected false 0) by decide) ?_
    simp [opensDescriptor, CallsTaken]
  · refine ⟨?_, (Transition.run step .init opensTooLate).get (by decide),
      (Option.some_get _).symm, by decide, by decide, by decide⟩
    exact Transition.along_of_forall (by simp [opensTooLate, CallsTaken]) _

end Gpibd

end DarwinGpib
